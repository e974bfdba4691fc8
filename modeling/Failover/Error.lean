import Failover.Role

/-!
# Errors

What can go wrong, one constructor per cause, with the SQLSTATE and the vendor code that each
carries. Errors of SQLSTATE class 08 are connection exceptions: they are the ones that a failover
answers. An error may stand on another one, its source.
-/

namespace Failover

inductive Error
  /-- A configuration that reads but makes no sense. -/
  | badConfig (reason : String)
  /-- A configuration that does not read. -/
  | unreadableConfig (reason : String)
  | invalidHost (text : String)
  /-- A statement that the server refused, or that was lost on the way. -/
  | query (code : UInt16) (sqlState : String) (text : String)
  | connectionFailed (address reason : String)
  | connectionTimeout (address : String)
  /-- An election that found no host for `role`; the source is its last failed attempt. -/
  | noActiveConnection (role : Role) (code : UInt16) (sqlState : String) (source : Option Error)
  /-- The connection exception `failure`, with what came of the failover that it led to. -/
  | failover (reconnected : Bool) (failure : Error) (source : Option Error)
  | transactionInProgress
  | readOnlyFallback (host : String)
  | connectionClosed
  | io (text : String)
  | internal (text : String)
  deriving Repr, Inhabited

/-- The SQLSTATE of a connection exception without a subclass. -/
def connectionException : String := "08000"

namespace Error

def message : Error → String
  | badConfig reason => s!"Configuration error: {reason}"
  | unreadableConfig reason => s!"Invalid configuration file: {reason}"
  | invalidHost text => s!"Invalid host address '{text}'"
  | query code sqlState text => s!"Query failed [{code.toNat}] ({sqlState}): {text}"
  | connectionFailed address reason => s!"Connection failed to {address}: {reason}"
  | connectionTimeout address => s!"Connection timeout to {address}"
  | noActiveConnection role _ _ _ => s!"No active connection found for {role.name}"
  | failover true failure _ =>
    "Connection was re-established after failover, the operation must be re-issued: "
      ++ failure.message
  | failover false failure _ =>
    "Connection lost and failover could not reconnect: " ++ failure.message
  | transactionInProgress => "Cannot switch read-only mode while a transaction is in progress"
  | readOnlyFallback host =>
    s!"Master is unavailable and the connection fell back to read-only replica {host}"
  | connectionClosed => "Connection is closed"
  | io text => s!"I/O error: {text}"
  | internal text => s!"Internal error: {text}"

def sqlState : Error → String
  | query _ sqlState _ | noActiveConnection _ _ sqlState _ => sqlState
  | connectionFailed _ _ | connectionTimeout _ => "08001"
  | failover _ _ _ | connectionClosed => connectionException
  | io _ => "08S01"
  | transactionInProgress => "25000"
  | badConfig _ | unreadableConfig _ | invalidHost _ | readOnlyFallback _ | internal _ => "HY000"

/-- The vendor code, 0 when there is none. -/
def code : Error → UInt16
  | query code _ _ | noActiveConnection _ code _ _ => code
  | _ => 0

/-- Whether the SQLSTATE is of class 08. -/
def isConnectionException (e : Error) : Bool :=
  match e.sqlState.toList with
  | '0' :: '8' :: _ => true
  | _ => false

/-- Whether a connection was there again when the error was raised. -/
def isReconnected : Error → Bool
  | failover reconnected _ _ => reconnected
  | _ => false

/-- The role that an election could not find, also behind a failover. -/
def missingRole : Error → Option Role
  | noActiveConnection role _ _ _ => some role
  | failover _ _ (some source) => source.missingRole
  | _ => none

/-- The messages of the sources, from the nearest one on. -/
def chain : Error → List String
  | noActiveConnection _ _ _ (some source) | failover _ _ (some source) =>
    source.message :: source.chain
  | io text => [text]
  | _ => []

/-- The report of an election that found no host for `role`. The code and, for a connection
exception, the SQLSTATE are those of the last failed attempt. -/
def exhausted (role : Role) (lastFailure : Option Error) : Error :=
  match lastFailure with
  | some e =>
    let sqlState := if e.isConnectionException then e.sqlState else connectionException
    noActiveConnection role e.code sqlState (some e)
  | none => noActiveConnection role 0 connectionException none

end Error

end Failover
