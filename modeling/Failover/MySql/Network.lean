import Failover.Canned
import Failover.Classifier
import Failover.MySql.Outcome
import Failover.Offline
import Failover.Text.Json

/-!
# A network of scripted MySQL servers

Servers that follow a script, each at its address, as a client with a user, a database and a bound
on connects reaches them. A server keeps what every session sent to it. Where no server is, a
connect is refused.
-/

namespace Failover.MySql

/-- What a server says to a greeting, a login, a ping and to statements. -/
structure Server where
  greeting : Canned Outcome := []
  login : Canned Outcome := []
  ping : Canned Outcome := []
  /-- By the text of the statement, or the short name of a probe. -/
  answers : List (String × Canned Outcome) := []
  /-- What was received, session by session. -/
  received : List (List String) := []

/-- A session as the client knows it. -/
structure Link where
  number : SessionId
  address : String
  /-- Which of the server's sessions it is. -/
  place : Nat
  isOpen : Bool := true
  /-- The server hung up: nothing that is sent arrives any more. -/
  isLost : Bool := false

structure Network where
  user : String
  database : Option String
  connectTimeout : Nat
  servers : List (String × Server)
  links : List Link := []

namespace Network

def succeed : Outcome := .success 0 0

/-- The network as a configuration reaches it. -/
def ofConfig (servers : List (String × Server)) (c : Config) : Network :=
  { user := c.user
    database := c.database
    connectTimeout := c.failover.connectTimeout
    servers }

def setServer (n : Network) (address : String) (s : Server) : Network :=
  { n with servers := n.servers.map fun (a, old) => if a = address then (a, s) else (a, old) }

def loginLine (n : Network) : String :=
  let database := n.database.elim "null" Text.Json.string
  s!"login {Text.Json.string n.user} {database}"

def connect (h : Host) (number : SessionId) (n : Network) :
    Nat × Except Error Unit × Network :=
  let address := h.text
  match n.servers.lookup address with
  | none => (0, .error (.connectionFailed address Offline.reason), n)
  | some s =>
    let failing (o : Outcome) (e : Error) (s : Server) : Nat × Except Error Unit × Network :=
      let wait := match o with
        | .silence => n.connectTimeout
        | _ => 0
      (wait, .error e, n.setServer address s)
    let (greeting, rest) := Canned.take succeed s.greeting
    let s := { s with greeting := rest, received := s.received ++ [[]] }
    match greeting.connectError address with
    | some e => failing greeting e s
    | none =>
      let (login, rest) := Canned.take succeed s.login
      let s := { s with
        login := rest
        received := s.received.dropLast ++ [[n.loginLine]] }
      match login.connectError address with
      | some e => failing login e s
      | none =>
        let link : Link := { number, address, place := s.received.length - 1 }
        let n := n.setServer address s
        (0, .ok (), { n with links := link :: n.links })

/-- Notes a line that a session sent. -/
def receive (s : Server) (l : Link) (line : String) : Server :=
  { s with received := s.received.modify l.place (· ++ [line]) }

def statementName (sql : String) : String :=
  if sql = roleProbe then "PROBE" else if sql = masterLookup then "LOOKUP" else sql

/-- The server's answer to a statement. -/
def answer (s : Server) (name : String) : Outcome × Server :=
  match s.answers.lookup name with
  | none => (succeed, s)
  | some canned =>
    let (o, rest) := Canned.take succeed canned
    let replace := fun (k, old) => if k = name then (k, rest) else (k, old)
    (o, { s with answers := s.answers.map replace })

/-- A reply to a statement whose result is shown by `show`. -/
def statementReply (address : String) (shown : Outcome → QueryResult) (o : Outcome) : Reply :=
  match o, o.statementError address with
  | .silence, _ => .silence
  | _, some e => .answer 0 (.error e)
  | _, none => .answer 0 (.ok (shown o))

/-- The network after a server's answer on a session, which is lost if the server hung up. -/
def afterAnswer (n : Network) (l : Link) (s : Server) (o : Outcome) : Network :=
  let n := n.setServer l.address s
  match o with
  | .hangUp =>
    let lose (k : Link) : Link := if k.number = l.number then { k with isLost := true } else k
    { n with links := n.links.map lose }
  | _ => n

def call (number : SessionId) (r : Request) (n : Network) : Reply × Network :=
  let closed := (Reply.answer 0 (.error .connectionClosed), n)
  match n.links.find? (·.number = number) with
  | none => closed
  | some l =>
    match n.servers.lookup l.address with
    | none => closed
    | some s =>
      let statement (sql : String) (shown : Outcome → QueryResult) : Reply × Network :=
        let name := statementName sql
        let (o, s) := answer (receive s l s!"sql {name}") name
        (statementReply l.address shown o, n.afterAnswer l s o)
      if !l.isOpen then closed
      else if l.isLost then (statementReply l.address (fun _ => {}) .hangUp, n)
      else
        match r with
        | .query sql => statement sql Outcome.queryResult
        | .execute sql => statement sql Outcome.executeResult
        | .ping =>
          let (o, rest) := Canned.take succeed s.ping
          let s := receive { s with ping := rest } l "ping"
          let reply := match o with
            | .silence => .answer n.connectTimeout (.error (.connectionTimeout l.address))
            | _ => statementReply l.address (fun _ => {}) o
          (reply, n.afterAnswer l s o)

def close (number : SessionId) (n : Network) : Network :=
  match n.links.find? fun l => l.number = number && l.isOpen with
  | none => n
  | some l =>
    let n := match n.servers.lookup l.address with
      | none => n
      | some s => if l.isLost then n else n.setServer l.address (receive s l "quit")
    let shut (l : Link) : Link := if l.number = number then { l with isOpen := false } else l
    { n with links := n.links.map shut }

instance : Cluster Network where
  connect h number n := n.connect h number
  call number r n := n.call number r
  close number n := (0, none, n.close number)
  draw _ n := (0, n)

end Network

end Failover.MySql
