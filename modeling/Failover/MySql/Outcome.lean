import Failover.Error
import Failover.QueryResult

/-!
# What a server does, and what a client makes of it

A MySQL server answers a statement with success or with rows, refuses it with an error of its own,
or the connection breaks: by the server's hanging up, or by a packet that makes no sense. It may
also stay silent. A refusal keeps its code and SQLSTATE. A break is a communication failure, which
on an open session is an error of the statement and on the way to one is a failed connect.
-/

namespace Failover.MySql

inductive Outcome
  | success (affected lastId : Nat)
  /-- The values as far as they are text. -/
  | rows (columns : List String) (rows : List (List (Option String)))
  | refusal (code : UInt16) (sqlState : Option String) (text : String)
  | hangUp
  | garbage
  | silence

/-- Why a connection broke. -/
def brokenText : Outcome → Option String
  | .hangUp =>
    some "error communicating with database: expected to read 4 bytes, got 0 bytes at EOF"
  | .garbage => some "encountered unexpected or invalid data: Packet empty"
  | _ => none

def refusalError (code : UInt16) (sqlState : Option String) (text : String) : Error :=
  .query code (sqlState.getD "HY000") text

/-- The error of a statement on a session with `address`. -/
def Outcome.statementError (address : String) (o : Outcome) : Option Error :=
  match o with
  | refusal code sqlState text => some (refusalError code sqlState text)
  | _ => (brokenText o).map fun text => .query 0 "08S01" s!"{address}: {text}"

/-- The error of a connect to `address`. Silence is given up. -/
def Outcome.connectError (address : String) (o : Outcome) : Option Error :=
  match o with
  | refusal code sqlState text => some (refusalError code sqlState text)
  | silence => some (.connectionTimeout address)
  | _ => (brokenText o).map fun text => .connectionFailed address text

/-- What a query shows: its rows under their columns, and nothing at all without a row. -/
def Outcome.queryResult : Outcome → QueryResult
  | rows columns (row :: rest) => { columns, rows := row :: rest }
  | _ => {}

/-- What a statement run for its effects shows. -/
def Outcome.executeResult : Outcome → QueryResult
  | success affected lastId => { affected, lastId }
  | _ => {}

end Failover.MySql
