import Failover.Error
import Failover.Text.Blank
import Failover.Text.Cut

/-!
# Host addresses

A host is written `name`, `name:port` or `[name]:port`, and may be tagged with its declared type,
as in `db1:3307?type=master`. Two hosts are the same endpoint when name and port agree; the tag
does not matter for that. In the text of an endpoint a name with a colon stands in brackets, so
that the colon before the port is never one of the name's.
-/

namespace Failover

open Text

/-- The type that a host list declares for a host. -/
inductive HostTag
  | master
  | slave
  deriving DecidableEq, Repr

namespace HostTag

def name : HostTag → String
  | master => "master"
  | slave => "slave"

def parse (text : String) : Except Error HostTag :=
  match text.toLower with
  | "master" | "primary" => .ok master
  | "slave" | "replica" | "secondary" => .ok slave
  | other => .error (.invalidHost s!"unknown host type '{other}'")

end HostTag

structure Endpoint where
  name : String
  port : UInt16
  deriving DecidableEq, Repr

namespace Endpoint

/-- Brackets keep the colons of a name apart from the one before the port. -/
def text (e : Endpoint) : String :=
  if ':' ∈ e.name.toList then s!"[{e.name}]:{e.port.toNat}" else s!"{e.name}:{e.port.toNat}"

end Endpoint

structure Host extends Endpoint where
  tag : Option HostTag
  deriving DecidableEq, Repr

namespace Host

def defaultPort : UInt16 := 3306

/-- A number below 2 ^ 16 in decimal digits, which a plus sign may precede. -/
def port? (s : List Char) : Option UInt16 :=
  let digits : List Char := match s with
    | '+' :: rest => rest
    | _ => s
  let value := digits.foldl (fun n c => 10 * n + (c.toNat - 48)) 0
  if digits ≠ [] ∧ digits.all Char.isDigit ∧ value < 65536 then some (.ofNat value) else none

/-- Name and port of an address without its parameters. -/
def endpoint? (s : List Char) : Option (List Char × UInt16) :=
  match s with
  | '[' :: rest =>
    match cut ']' rest with
    | some (name, []) => some (name, defaultPort)
    | some (name, ':' :: digits) => (port? digits).map (name, ·)
    | _ => none
  | _ =>
    match cutLast ':' s with
    | some (name, digits) => (port? digits).map (name, ·)
    | none => some (s, defaultPort)

/-- The tag after all parameters have been read in order: a later `type` replaces an earlier one,
and nothing but `type=` is known. -/
def readParameters (whole : String) :
    List (List Char) → Option HostTag → Except Error (Option HostTag)
  | [], tag => .ok tag
  | parameter :: more, tag =>
    if parameter = [] then readParameters whole more tag
    else
      match cut '=' parameter with
      | some (['t', 'y', 'p', 'e'], value) => do
        readParameters whole more (some (← HostTag.parse (String.ofList value)))
      | _ => .error (.invalidHost whole)

def parse (text : String) : Except Error Host := do
  let s := trim text.toList
  let whole := String.ofList s
  let (address, parameters) := (cut '?' s).getD (s, [])
  let some (name, port) := endpoint? address | throw (.invalidHost whole)
  if name = [] then throw (.invalidHost whole)
  let tag ← readParameters whole (pieces '&' parameters) none
  return { name := String.ofList name, port, tag }

/-- Without a declared master the first untagged host is one; all other untagged hosts are
slaves. -/
def declareTypes : List Host → List Host
  | [] => []
  | first :: rest =>
    let hasMaster := (first :: rest).any (·.tag = some .master)
    let fill (t : HostTag) (h : Host) := { h with tag := some (h.tag.getD t) }
    fill (if hasMaster then .slave else .master) first :: rest.map (fill .slave)

/-- The hosts of a deployment, in order. In a replication every host gets a type. -/
def parseAll (topology : Topology) (texts : List String) : Except Error (List Host) := do
  let hosts ← texts.mapM parse
  return if topology = .replication then declareTypes hosts else hosts

end Host

end Failover
