import Failover.Dispatch

/-!
# Recovery

When a session fails, its slot is emptied, its host is blacklisted, and the lost role is elected
again. A lost master may be replaced by a promoted replica, and if no master is found, a replica
stands in for it, unless a transaction was lost. A lost replica is replaced or left to the master.
A session that is in no slot any more was recovered by another task already, provided that the
connection has a session to route to.
-/

namespace Failover

open Act

variable {σ : Type} [Cluster σ]

inductive Recovery
  | restored
  /-- No master, a replica stands in for it. -/
  | standIn (e : Error)
  | failed (e : Error)

/-- What the caller of a failover is told. -/
structure Report where
  /-- The error that led to the failover has to be raised, wrapped. -/
  mustRaise : Bool
  /-- There is a usable session again. -/
  reconnected : Bool
  /-- The answer to the command that was sent again. -/
  result : Option QueryResult := none
  /-- Why the recovery fell short. -/
  cause : Option Error := none

def Report.answered (r : QueryResult) : Report :=
  { mustRaise := false, reconnected := true, result := some r }

def Report.raising (reconnected : Bool) (cause : Option Error) : Report :=
  { mustRaise := true, reconnected, cause }

/-- Empties a slot that failed and blacklists its host. -/
def abandon (slot : Option Slot) (role searched : String) : Act σ Unit := do
  if let some s := slot then
    closeSession s.session
    log .warn s!"{role} {s.host.text} failed, searching for a new {searched}"
    blacklist s.host

section Slots

variable (d : Deployment)

def recoverMaster (inTransaction : Bool) (c : Connection) : Act σ (Recovery × Connection) := do
  let now ← ask (·.now)
  abandon c.master "Master" "master"
  let c := { c.withoutMaster now with failovers := c.failovers + 1 }
  let (c, goal) ← recheckReplica d c .masterOnly
  if !goal.wantsMaster then return (.restored, c)
  match ← electAndRoute d c goal with
  | (.found, c) => return (.restored, c)
  | (.exhausted e, c) =>
    if !inTransaction && !c.closed && c.replicaAvailable then
      let host := (c.replica.map (·.host.text)).getD ""
      log .warn s!"No master available, continuing read-only on {host}"
      return (.standIn e, { c with current := some .replica })
    else
      return (.failed e, c)

def recoverReplica (c : Connection) : Act σ (Recovery × Connection) := do
  abandon c.replica "Replica" "replica"
  let c := { c.withoutReplica with failovers := c.failovers + 1 }
  if c.masterAvailable then
    match ← electAndRoute d c Goal.replicaOnly.inOnePass with
    | (.found, c) => return (.restored, c)
    | (.exhausted e, c) =>
      log .info s!"No replica available ({e.message}), reads go to the master"
      return (.restored, { c with current := some .master })
  else
    match ← electAndRoute d c Goal.both.orReplicaOnly with
    | (.found, c) => return (.restored, c)
    | (.exhausted e, c) =>
      return (if c.currentSlot.isSome then .restored else .failed e, c)

/-- Recovers from the failure of a session; nothing is left to do on a closed connection. -/
def recover (failed : SessionId) (inTransaction : Bool) (c : Connection) :
    Act σ (Recovery × Connection) := do
  if c.closed then return (.failed .connectionClosed, c)
  match c.roleOf failed with
  | some .master => recoverMaster d inTransaction c
  | some .replica => recoverReplica d c
  | none =>
    if c.currentSlot.isSome then
      log .debug "Connection already recovered by a concurrent failover"
      return (.restored, c)
    else
      recoverMaster d inTransaction c

end Slots

end Failover
