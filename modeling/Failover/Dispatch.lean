import Failover.Connecting

/-!
# Dispatching commands

A command has to be admitted first, which may take a reconnect or another try for the master, or
be refused. It then goes to the session that the connection is routed to. A write needs a session
pinned as the master's unless the application asked for read-only routing, and one write in a
batch holds back all of it.
-/

namespace Failover

open Act

variable {σ : Type}

/-- What has to happen before a command is dispatched. -/
inductive Admission
  | refuse (e : Error)
  | reconnect
  /-- Try for the master, and refuse the command if there is none. -/
  | needMaster
  /-- Try for the master, but go on without one. -/
  | tryMaster
  | pass
  deriving Repr

section Admission

variable (d : Deployment)

/-- Whether the master has been left alone for long enough, by the clock or by the number of
reads. -/
def retryDue (now : Nat) (c : Connection) : Bool :=
  c.lastMasterFailure.all (fun failure => d.retryMasterAfter ≤ now - failure)
    || d.config.failover.queriesBeforeRetryMaster ≤ c.fallbackReads

/-- What admits a command, and the connection with the command counted if it is a read on a
stand-in. -/
def admission (cmd : Command) (now : Nat) (c : Connection) : Admission × Connection :=
  if c.closed then (.refuse .connectionClosed, c)
  else
    let isRead := c.isFallback && !cmd.isWrite
    let c := if isRead then { c with fallbackReads := c.fallbackReads + 1 } else c
    match c.currentSlot with
    | none =>
      (if d.config.failover.autoReconnect then .reconnect else .refuse .connectionClosed, c)
    | some s =>
      if !c.isFallback then (.pass, c)
      else if isRead then (if retryDue d now c then .tryMaster else .pass, c)
      else if d.config.failover.failOnReadOnly then (.refuse (.readOnlyFallback s.host.text), c)
      else (.needMaster, c)

def assess (cmd : Command) (c : Connection) : Act σ (Admission × Connection) := do
  let (a, c) := admission d cmd (← ask (·.now)) c
  if let .reconnect := a then
    log .info s!"No live connection, reconnecting before {cmd.name}"
  return (a, c)

end Admission

variable [Cluster σ]

/-- The handle that commands go to. -/
def currentHandle? (c : Connection) : Act σ (Option Handle) := do
  match c.currentSlot with
  | some s => handle? s.session
  | none => return none

/-- Refuses writes on a session that is not pinned as the master's. -/
def guardWrites (c : Connection) (h : Handle) (cmds : List Command) :
    Act σ (Except Error Unit) := do
  if c.readOnly || h.isPinned then return .ok ()
  match cmds.find? (·.isWrite) with
  | some cmd =>
    log .debug s!"Refusing {cmd.name} on {h.role.name} handle {h.host.text}"
    return .error (.readOnlyFallback h.host.text)
  | none => return .ok ()

/-- Sends a command to the session routed to. An outer error means that nothing was sent. -/
def dispatch (cmd : Command) (c : Connection) :
    Act σ (Except Error (SessionId × Except Error QueryResult)) := do
  let some h ← currentHandle? c | return .error .connectionClosed
  match ← guardWrites c h [cmd] with
  | .error e => return .error e
  | .ok () => return .ok (h.session, ← h.run cmd)

/-- Runs commands one after another on a session until one fails. -/
def runAll (n : SessionId) : List Command → Act σ (Except Error (List QueryResult))
  | [] => return .ok []
  | cmd :: rest => do
    let some h ← handle? n | return .error .connectionClosed
    match ← h.run cmd with
    | .error e => return .error e
    | .ok r => return (← runAll n rest).map (r :: ·)

/-- Sends commands back to back to the session routed to. -/
def dispatchAll (cmds : List Command) (c : Connection) :
    Act σ (Except Error (SessionId × Except Error (List QueryResult))) := do
  let some h ← currentHandle? c | return .error .connectionClosed
  match ← guardWrites c h cmds with
  | .error e => return .error e
  | .ok () => return .ok (h.session, ← runAll h.session cmds)

end Failover
