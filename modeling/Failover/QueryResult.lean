import Failover.Text.Case

/-!
# Results

The answer to a statement: text-valued rows under named columns, or how many rows were affected
and the last inserted id.
-/

namespace Failover

structure QueryResult where
  columns : List String := []
  /-- A missing value is a null. -/
  rows : List (List (Option String)) := []
  affected : Nat := 0
  lastId : Nat := 0
  deriving DecidableEq, Repr

namespace QueryResult

/-- The value of a named column in the first row. Of several columns of that name, in whatever
case, the first counts. -/
def firstCell (r : QueryResult) (column : String) : Option String := do
  let i ← r.columns.findIdx? fun c => Text.sameLetters c.toList column.toList
  let row ← r.rows.head?
  (← row[i]?)

end QueryResult

end Failover
