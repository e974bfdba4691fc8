import Failover.Recovery
import Failover.Job

/-!
# Operations of a connection

Every command is admitted and dispatched, and is recovered from when it fails with a
connection exception. After the recovery it is sent again if that is safe and no transaction was
lost; otherwise the caller gets the first error, wrapped with what came of the failover. A batch
is never sent again, since some of its statements may have been applied.
-/

namespace Failover

open Act Job

variable {σ : Type} [Cluster σ] (d : Deployment)

/-- One pass for the master that the command does not depend on. -/
def tryMaster (c : Connection) : Act σ (Except Error Unit × Connection) := do
  let (outcome, c) ← seekMaster d c
  if let .error e := outcome then log .debug s!"Master still unavailable: {e.message}"
  return (.ok (), c)

/-- Admits a command, after what has to happen before it. -/
def prepare (cmd : Command) : Job σ (Except Error Unit) := do
  match ← atomic (assess d cmd) with
  | .refuse e => return .error e
  | .reconnect => atomic (reconnect d)
  | .needMaster => atomic (seekMaster d)
  | .tryMaster => atomic (tryMaster d)
  | .pass => return .ok ()

/-- New sessions are put on the database from now on. -/
def remember (database : String) (c : Connection) : Act σ (Unit × Connection) :=
  return ((), { c with catalog := some database })

/-- Remembers the database that a command selected. -/
def rememberDatabase (cmd : Command) : Job σ Unit :=
  match cmd with
  | .setCatalog database => atomic (remember database)
  | _ => pure ()

/-- Sends a command to the session that the failover has routed to. -/
def redispatch (cmd : Command) (c : Connection) :
    Act σ (Except Error (SessionId × Except Error QueryResult)) := do
  log .debug s!"Relaunching {cmd.name} after failover"
  dispatch cmd c

/-- Sends a command again after a failover, if that is safe. Without that a replica that stands
in for the master does not count as reconnected. -/
def sendAgain (cmd : Option Command) (inTransaction : Bool) (cause : Option Error) :
    Job σ Report := do
  match cmd.filter fun cmd => cmd.isRepeatable && !inTransaction with
  | none => return .raising cause.isNone cause
  | some cmd =>
    match ← reading (redispatch cmd) with
    | .ok (_, .ok r) => return .answered r
    | .ok (_, .error e) | .error e => return .raising true (some e)

/-- Whether a transaction is, or was at last, open on a session. -/
def readFlag (n : SessionId) (_ : Connection) : Act σ Bool := do
  return (← handle? n).any (·.inTransaction)

/-- Recovers from a connection exception on a session. Without a command nothing is sent again. -/
def failOver (failed : SessionId) (cmd : Option Command) : Job σ Report := do
  let inTransaction ← reading (readFlag failed)
  match ← atomic (recover d failed inTransaction) with
  | .restored => sendAgain cmd inTransaction none
  | .standIn e => sendAgain cmd inTransaction (some e)
  | .failed e => return .raising false (some e)

/-- Goes on with a command whose session broke. -/
def resume (cmd : Command) (n : SessionId) (e : Error) : Job σ (Except Error QueryResult) := do
  reading fun _ => log .debug s!"{cmd.name} failed on a broken connection: {e.message}"
  let report ← failOver d n (some cmd)
  if report.mustRaise then return .error (.failover report.reconnected e report.cause)
  rememberDatabase cmd
  return .ok (report.result.getD {})

/-- Runs a command that was admitted, through a failover if need be. -/
def carryOut (cmd : Command) : Job σ (Except Error QueryResult) := do
  match ← reading (dispatch cmd) with
  | .error e => return .error e
  | .ok (_, .ok r) =>
    rememberDatabase cmd
    return .ok r
  | .ok (n, .error e) =>
    if !e.isConnectionException then return .error e
    resume d cmd n e

def execute (cmd : Command) : Job σ (Except Error QueryResult) := do
  if let .error e ← prepare d cmd then return .error e
  carryOut d cmd

/-- The command of a batch that has to be admitted: its first write, or else its first one. -/
def leadingCommand (cmds : List Command) : Option Command := cmds.find? (·.isWrite) <|> cmds.head?

/-- Runs a batch that was admitted back to back on one session. -/
def carryOutAll (cmds : List Command) : Job σ (Except Error (List QueryResult)) := do
  match ← reading (dispatchAll cmds) with
  | .error e => return .error e
  | .ok (_, .ok results) => return .ok results
  | .ok (n, .error e) =>
    if !e.isConnectionException then return .error e
    let report ← failOver d n none
    return .error (.failover report.reconnected e report.cause)

def executeAll (statements : List String) : Job σ (Except Error (List QueryResult)) := do
  let cmds := statements.map Command.execute
  let some first := leadingCommand cmds | return .ok []
  if let .error e ← prepare d first then return .error e
  carryOutAll d cmds

/-- What an application may ask of a connection. -/
inductive Operation
  | isClosed
  | isExplicitlyClosed
  | isReadOnly
  | setReadOnly (readOnly : Bool)
  | close
  | data (cmd : Command)
  deriving DecidableEq, Repr

inductive Answer
  | flag (b : Bool)
  | done
  | result (r : QueryResult)
  deriving DecidableEq, Repr

/-- Whether the connection has no session to route to, or was closed for good. -/
def Connection.isClosed (c : Connection) : Bool := c.closed || c.currentSlot.isNone

def Operation.invoke : Operation → Job σ (Except Error Answer)
  | isClosed => reading fun c => return .ok (.flag c.isClosed)
  | isExplicitlyClosed => reading fun c => return .ok (.flag c.closed)
  | isReadOnly => reading fun c => return .ok (.flag c.readOnly)
  | setReadOnly readOnly => do
    return (← atomic (switchMode d readOnly)).map fun _ => .done
  | close => do
    atomic fun c => return ((), ← Failover.close c)
    return .ok .done
  | data cmd => do return (← execute d cmd).map .result

end Failover
