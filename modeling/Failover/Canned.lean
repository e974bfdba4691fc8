/-!
# Canned answers

Answers that are given one after another. The last one stays for ever.
-/

namespace Failover

abbrev Canned (α : Type) := List α

/-- The next answer, and those that are left. -/
def Canned.take {α : Type} (default : α) : Canned α → α × Canned α
  | [] => (default, [])
  | [a] => (a, [a])
  | a :: rest => (a, rest)

end Failover
