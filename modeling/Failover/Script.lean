import Failover.Canned
import Failover.Classifier

/-!
# Scripted clusters

A cluster whose hosts follow a script: each one is up or down, has canned answers to the role
probe and the master lookup, may fail the next connects or statements, and may fall silent on some
of them. Calls take no time.
-/

namespace Failover

structure ScriptedHost where
  reachable : Bool := true
  probe : Canned QueryResult
  lookup : Canned QueryResult
  /-- Statements that begin like this stay unanswered; a ping counts as the empty statement. -/
  stall : Option String := none
  /-- Closing a session ends with an error. -/
  closeFails : Bool := false
  /-- Failures of the next connects. -/
  connectFailures : List Error := []
  /-- Failures of the next statements. -/
  failures : List Error := []

namespace ScriptedHost

/-- The server variable that the role probe asks for. -/
def variableAnswer (value : Option String) : QueryResult :=
  { columns := ["Variable_name", "Value"]
    rows := value.toList.map fun v => [some "innodb_read_only", some v] }

def serverIdAnswer (name : Option String) : QueryResult :=
  { columns := ["server_id"], rows := name.toList.map fun v => [some v] }

/-- A host that is up, takes writes and knows of no master. -/
def plain : ScriptedHost :=
  { probe := [variableAnswer (some "OFF")], lookup := [serverIdAnswer none] }

end ScriptedHost

structure ScriptedSession where
  number : SessionId
  /-- The text of the host's endpoint. -/
  host : String
  closed : Bool := false

structure Script where
  /-- Hosts by the text of their endpoints; others are plain. -/
  hosts : List (String × ScriptedHost) := []
  sessions : List ScriptedSession := []

namespace Script

def host (s : Script) (key : String) : ScriptedHost := (s.hosts.lookup key).getD .plain

def setHost (s : Script) (key : String) (h : ScriptedHost) : Script :=
  { s with hosts := (key, h) :: s.hosts.filter (·.1 ≠ key) }

def session? (s : Script) (n : SessionId) : Option ScriptedSession :=
  s.sessions.find? (·.number = n)

def connect (h : Host) (n : SessionId) (s : Script) : Except Error Unit × Script :=
  let key := h.text
  let script := s.host key
  if !script.reachable then (.error (.connectionFailed key "Connection refused"), s)
  else
    match script.connectFailures with
    | e :: rest => (.error e, s.setHost key { script with connectFailures := rest })
    | [] => (.ok (), { s with sessions := ⟨n, key, false⟩ :: s.sessions })

/-- The text of a request, as far as a script looks at it. -/
def requestText : Request → String
  | .query sql | .execute sql => sql
  | .ping => ""

/-- The answer of a host that is up and has nothing else to say. -/
def echo (key : String) (n : SessionId) : QueryResult :=
  { columns := ["host"], rows := [[some key]], affected := 1, lastId := n }

def call (n : SessionId) (r : Request) (s : Script) : Reply × Script :=
  match s.session? n with
  | none => (.answer 0 (.error .connectionClosed), s)
  | some session =>
    let key := session.host
    let script := s.host key
    let sql := requestText r
    if script.stall.any fun p => p.toList <+: sql.toList then (.silence, s)
    else if session.closed then (.answer 0 (.error .connectionClosed), s)
    else if !script.reachable then
      (.answer 0 (.error (.query 2013 "08S01" "Lost connection to server during query")), s)
    else
      match script.failures with
      | e :: rest => (.answer 0 (.error e), s.setHost key { script with failures := rest })
      | [] =>
        if r = .ping then (.answer 0 (.ok {}), s)
        else if sql = roleProbe then
          let (answer, probe) := Canned.take {} script.probe
          (.answer 0 (.ok answer), s.setHost key { script with probe })
        else if sql = masterLookup then
          let (answer, lookup) := Canned.take {} script.lookup
          (.answer 0 (.ok answer), s.setHost key { script with lookup })
        else (.answer 0 (.ok (echo key n)), s)

def close (n : SessionId) (s : Script) : Option Error × Script :=
  let fails := (s.session? n).any fun session => (s.host session.host).closeFails
  let mark (session : ScriptedSession) :=
    if session.number = n then { session with closed := true } else session
  (if fails then some (.internal "close failed") else none,
    { s with sessions := s.sessions.map mark })

instance : Cluster Script where
  connect h n s := (0, s.connect h n)
  call n r s := s.call n r
  close n s := (0, s.close n)
  draw _ s := (0, s)

/-- A line on what was done to the servers; a connect is refused by a host that is down and
rejected by one that fails it. -/
def eventText (s : Script) : Event → Option String
  | .refused h _ => some (if (s.host h.text).reachable then s!"reject {h.text}"
      else s!"refuse {h.text}")
  | .opened h n => some s!"connect {h.text} #{n}"
  | .called n (.query sql) _ =>
    let shown := if sql = roleProbe then "PROBE" else if sql = masterLookup then "LOOKUP" else sql
    some s!"#{n} query {shown}"
  | .called n (.execute sql) _ => some s!"#{n} execute {sql}"
  | .called n .ping _ => some s!"#{n} ping"
  | .closed n => some s!"#{n} close"
  | .judged _ _ | .ran _ _ => none

end Script

end Failover
