import Failover.Pool
import Failover.Text.Instant
import Failover.Text.Json
import Failover.CommandLine.Help

/-!
# What the commands print

A failure is a message with the messages behind it, which are numbered if there are several. The
lines of one message stay together by their indentation.
-/

namespace Failover.CommandLine

open Text

/-- A message and those behind it. -/
structure Fault where
  message : String
  causes : List String := []
  deriving DecidableEq, Repr

namespace Fault

def ofError (e : Error) : Fault := { message := e.message, causes := e.chain }

/-- An error under a message of its own. -/
def inContext (message : String) (e : Error) : Fault :=
  { message, causes := e.message :: e.chain }

/-- A message whose first line follows `head` and whose other lines are indented like it. -/
def hanging (head indentation message : String) : String :=
  head ++ ("\n" ++ indentation).intercalate (message.splitOn "\n")

def numbered : Nat → List String → List String
  | _, [] => []
  | n, cause :: rest =>
    let number := toString n
    let head := String.ofList (List.replicate (5 - number.length) ' ') ++ number ++ ": "
    hanging head "       " cause :: numbered (n + 1) rest

def text (f : Fault) : String :=
  let causes := match f.causes with
    | [] => []
    | [cause] => ["", "Caused by:", hanging "    " "    " cause]
    | causes => "" :: "Caused by:" :: numbered 0 causes
  lines (s!"Error: {f.message}" :: causes)

end Fault

def statusJson (s : Status) : Json :=
  let orNull (t : Option String) : Json := t.elim .null .text
  let failure (f : Failure) : Json :=
    .object [("host", .text f.endpoint.text), ("failed_at", .text (instant "Z" f.failedAt))]
  .object [
    ("topology", .text s.topology.name),
    ("current", orNull (s.current.map Role.name)),
    ("master", orNull (s.master.map Endpoint.text)),
    ("secondary", orNull (s.replica.map Endpoint.text)),
    ("master_host_fail", .bool s.masterDown),
    ("secondary_host_fail", .bool s.replicaDown),
    ("read_only", .bool s.readOnly),
    ("explicitly_closed", .bool s.closed),
    ("failovers", .number s.failovers),
    ("blacklist", .list (s.blacklist.map failure))]

def statusText (s : Status) : String :=
  let failure (f : Failure) : String :=
    s!"  {f.endpoint.text}  since " ++ instant "+00:00" f.failedAt
  let failures := if s.blacklist = [] then []
    else ["", "Blacklisted hosts:"] ++ s.blacklist.map failure
  lines (["WolfHA Connection Status", "========================", "",
    s!"Topology:         {s.topology.name}",
    "Master:           " ++ s.master.elim "(unavailable)" Endpoint.text,
    "Replica:          " ++ s.replica.elim "(none)" Endpoint.text] ++ failures)

def resultText (r : QueryResult) : String :=
  if r.columns = [] then
    lines [s!"OK, {r.affected} row(s) affected, last insert id {r.lastId}"]
  else
    let row (cells : List (Option String)) : String :=
      "\t".intercalate (cells.map (·.getD "NULL"))
    lines (["\t".intercalate r.columns] ++ r.rows.map row ++ [s!"({r.rows.length} row(s))"])

def configText (c : Config) (hosts : List Host) : String :=
  let host (h : Host) : String :=
    match h.tag with
    | some .master => s!"  Host:           {h.text} (Master)"
    | some .slave => s!"  Host:           {h.text} (Slave)"
    | none => s!"  Host:           {h.text}"
  lines (["✓ Configuration is valid", s!"  Topology:       {c.topology.name}"] ++ hosts.map host
    ++ [s!"  Retries:        {c.failover.retriesAllDown} passes",
      s!"  Blacklist:      {c.failover.blacklistTimeout} ms",
      s!"  Connect:        {c.failover.connectTimeout} ms"])

end Failover.CommandLine
