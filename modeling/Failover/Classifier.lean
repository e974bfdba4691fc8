import Failover.Config
import Failover.Session

/-!
# Finding out roles

Only a cloud cluster has to be asked for roles: a server that takes writes reports its storage
engine as not read-only, and any server knows the name of the present master. In a replication the
declared type of the host decides, and everywhere else every host is a master.
-/

namespace Failover

open Act Text

variable {σ : Type} [Cluster σ]

def roleProbe : String := "SHOW GLOBAL VARIABLES LIKE 'innodb_read_only'"

def masterLookup : String :=
  "SELECT server_id FROM information_schema.replica_host_status "
    ++ "WHERE session_id = 'MASTER_SESSION_ID'"

/-- The answer to the probe: the column `Value` of the first row, and for want of it the second
or else the first cell. -/
def probeValue (r : QueryResult) : Option String :=
  r.firstCell "Value" <|> do
    let row ← r.rows.head?
    (← row[1]? <|> row[0]?)

def probedRole (r : QueryResult) : Role :=
  if probeValue r = some "OFF" then .master else .replica

/-- The name of the present master, in the first cell of the answer to the lookup. -/
def lookupName (r : QueryResult) : Option String := do
  let name ← (← (← r.rows.head?).head?)
  if name = "" then none else some name

/-- Whether the first label of the host's name is `name`, in whatever case. -/
def Host.isLabelled (h : Host) (name : String) : Bool :=
  sameLetters (h.name.toList.takeWhile (· ≠ '.')) name.toList

namespace Topology

/-- The role of the host behind a session. -/
def roleOf (t : Topology) (h : Host) (n : SessionId) : Act σ (Except Error Role) := do
  match t with
  | standalone | multiMaster => return .ok .master
  | replication => return .ok (if h.tag = some .master then .master else .replica)
  | aurora =>
    match ← call n (.query roleProbe) with
    | .ok r => return .ok (probedRole r)
    | .error e =>
      return .error (.query e.code connectionException (s!"could not check the 'innodb_read_only' "
        ++ s!"variable status on {h.text}: {e.message}"))

/-- The candidate that a replica reports as the present master. -/
def reportedMaster (t : Topology) (n : SessionId) (candidates : List Host) :
    Act σ (Except Error (Option Host)) := do
  match t with
  | aurora =>
    match ← call n (.query masterLookup) with
    | .ok r => return .ok ((lookupName r).bind fun name => candidates.find? (·.isLabelled name))
    | .error e => return .error e
  | _ => return .ok none

/-- The order in which hosts are tried. -/
def order (t : Topology) (l : LoadBalance) (hosts : List Host) : Act σ (List Host) :=
  if t = .multiMaster ∧ l = .random then shuffle hosts else pure hosts

/-- Asks for the role of a session, for so long. -/
def judge (t : Topology) (limit : Nat) (h : Host) (n : SessionId) : Act σ Verdict := do
  let verdict : Verdict :=
    match ← within limit (t.roleOf h n) with
    | some (.ok r) => .role r
    | some (.error e) => .failed e
    | none => .unanswered
  note (.judged n verdict)
  return verdict

end Topology

end Failover
