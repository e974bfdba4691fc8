import Failover.Config
import Failover.Handle

/-!
# The state of a connection

A connection has a slot for the master's session and one for a replica's, and routes commands to
one of them. A role is down while no session of it is wanted or found. The changes here are those
of the state alone; what they mean for the servers is said where they are made.
-/

namespace Failover

/-- A session in use, with the host it was opened on. -/
structure Slot where
  host : Host
  session : SessionId
  deriving DecidableEq, Repr

structure Connection where
  master : Option Slot := none
  replica : Option Slot := none
  /-- The slot that commands go to. -/
  current : Option Role := none
  masterDown : Bool := true
  replicaDown : Bool
  /-- Closed by the application, for good. -/
  closed : Bool := false
  /-- The application asked for a replica. -/
  readOnly : Bool := false
  hasReplicas : Bool
  lastMasterFailure : Option Nat := none
  /-- The database that new sessions are put on. -/
  catalog : Option String := none
  /-- Reads on a stand-in since the last try for the master. -/
  fallbackReads : Nat := 0
  failovers : Nat := 0
  deriving DecidableEq, Repr

namespace Connection

/-- A connection that has nothing yet. -/
def new (hasReplicas : Bool) : Connection := { replicaDown := hasReplicas, hasReplicas }

variable (c : Connection)

def slot? : Role → Option Slot
  | .master => c.master
  | .replica => c.replica

/-- The slot that commands go to, if it holds a session. -/
def currentSlot : Option Slot := c.current.bind c.slot?

def masterAvailable : Bool := !c.masterDown && c.master.isSome

def replicaAvailable : Bool := !c.replicaDown && c.replica.isSome

/-- Whether a replica stands in for a lost master, rather than serving by request. -/
def isFallback : Bool := c.current = some .replica && !c.readOnly && c.masterDown

/-- The hosts of live sessions. Elections leave them out. -/
def boundHosts : List Host :=
  (if c.masterDown then [] else (c.master.map Slot.host).toList)
    ++ (if c.replicaDown then [] else (c.replica.map Slot.host).toList)

def isBound (h : Host) : Bool := c.boundHosts.any (·.toEndpoint = h.toEndpoint)

/-- The slot that holds a session. -/
def roleOf (n : SessionId) : Option Role :=
  if c.master.any (·.session = n) then some .master
  else if c.replica.any (·.session = n) then some .replica
  else none

/-- A new master takes over, except from a live replica that the application asked for. -/
def withMaster (s : Slot) : Connection :=
  let c := { c with master := some s, masterDown := false, lastMasterFailure := none }
  if c.readOnly && c.replicaAvailable then c else { c with current := some .master }

/-- A new replica takes over on request, or when there is no master. -/
def withReplica (s : Slot) : Connection :=
  let c := { c with replica := some s, replicaDown := false }
  if c.readOnly || c.masterDown then { c with current := some .replica } else c

/-- Routes to a live session if the present target is gone. -/
def route : Connection :=
  if c.currentSlot.isSome then c
  else
    { c with current :=
        if c.readOnly && c.replicaAvailable then some .replica
        else if c.masterAvailable then some .master
        else if c.replicaAvailable then some .replica
        else none }

/-- The replica's session becomes the master's. -/
def promote (s : Slot) : Connection :=
  route { c with
    master := some s
    replica := none
    masterDown := false
    replicaDown := c.hasReplicas
    lastMasterFailure := none
    current := if c.current = some .replica then none else c.current }

def withoutMaster (now : Nat) : Connection :=
  { c with
    master := none
    masterDown := true
    lastMasterFailure := some now
    current := if c.current = some .master then none else c.current }

def withoutReplica : Connection :=
  { c with
    replica := none
    replicaDown := true
    current := if c.current = some .replica then none else c.current }

def withoutSessions : Connection :=
  { c with
    master := none
    replica := none
    current := none
    masterDown := true
    replicaDown := c.hasReplicas }

end Connection

end Failover
