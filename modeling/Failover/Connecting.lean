import Failover.Election

/-!
# Getting and giving up sessions

A new connection sweeps the hosts once for both roles, and then looks for a master alone if it
found none: a missing replica is tolerated, a missing master is not. Reconnecting drops what is
there and does the same. Every action here holds the connection exclusively from start to end.
-/

namespace Failover

open Act

variable {σ : Type} [Cluster σ] (d : Deployment)

/-- Elects a master, and fails if there is none to be found. -/
def electMaster (c : Connection) : Act σ (Except Error Unit × Connection) := do
  match ← electAndRoute d c .masterOnly with
  | (.found, c) => return (.ok (), c)
  | (.exhausted e, c) => return (.error e, c)

/-- Elects both roles in one pass, then a master if there is none. -/
def electRoles (c : Connection) : Act σ (Except Error Unit × Connection) := do
  let c ← if c.hasReplicas then Prod.snd <$> electAndRoute d c Goal.both.inOnePass else pure c
  if c.masterDown then electMaster d c else return (.ok (), c)

/-- The first election of a connection. -/
def establish (c : Connection) : Act σ (Except Error Unit × Connection) := do
  let (outcome, c) ← electRoles d c
  if let .ok () := outcome then
    let hostText (s : Option Slot) : String := s.elim "-" (·.host.text)
    log .info (s!"Connection established ({d.config.topology.name}): "
      ++ s!"master={hostText c.master}, replica={hostText c.replica}")
  return (outcome, c)

/-- Closes both sessions. -/
def closeSessions (c : Connection) : Act σ Connection := do
  closeSlot c.master
  closeSlot c.replica
  return c.withoutSessions

/-- Drops every session and elects anew. -/
def reconnect (c : Connection) : Act σ (Except Error Unit × Connection) := do
  if c.closed then return (.error .connectionClosed, c)
  let c ← closeSessions c
  electRoles d { c with fallbackReads := 0 }

/-- Closes the connection for good. -/
def close (c : Connection) : Act σ Connection := do
  if c.closed then return c
  let c ← closeSessions { c with closed := true }
  log .debug "Failover connection closed"
  return c

/-- One pass for the master while a replica stands in for it. -/
def seekMaster (c : Connection) : Act σ (Except Error Unit × Connection) := do
  if !c.masterDown then return (.ok (), c)
  let c := { c with fallbackReads := 0 }
  match ← electAndRoute d c Goal.masterOnly.inOnePass with
  | (.found, c) => return (.ok (), c)
  | (.exhausted e, c) =>
    return (.error e, { c with lastMasterFailure := some (← ask (·.now)) })

/-- Whether a change of mode would leave a session with an open transaction. -/
def isHeldBack (readOnly : Bool) (c : Connection) : Act σ Bool := do
  let leaves := if readOnly then c.current = some .master && c.hasReplicas
    else c.current = some .replica
  if leaves then
    if let some s := c.currentSlot then
      if let some h ← handle? s.session then return h.inTransaction
  return false

/-- Goes where a connection in its mode belongs. A missing replica is tolerated. -/
def enterMode (c : Connection) : Act σ (Except Error Unit × Connection) := do
  if c.readOnly then
    if c.replicaAvailable then return (.ok (), { c with current := some .replica })
    if !c.hasReplicas then return (.ok (), c)
    let (outcome, c) ← electAndRoute d c Goal.replicaOnly.inOnePass
    if let .exhausted e := outcome then
      log .debug s!"No replica for read-only mode, staying on master: {e.message}"
    return (.ok (), c)
  else
    if c.masterAvailable then return (.ok (), { c with current := some .master })
    electMaster d c

/-- Moves to a replica or back to the master on the application's request. -/
def switchMode (readOnly : Bool) (c : Connection) : Act σ (Except Error Unit × Connection) := do
  if c.closed then return (.error .connectionClosed, c)
  if ← isHeldBack readOnly c then return (.error .transactionInProgress, c)
  enterMode d { c with readOnly }

end Failover
