import Failover.Host

/-!
# Hosts that failed of late

The table keeps one failure per endpoint. A host is excluded for a while after its failure; a
lookup that comes later than that drops the entry on the way. Instants are milliseconds.
-/

namespace Failover

/-- A failure at the instant `since`, which the wall clock showed as `failedAt`. -/
structure Failure where
  endpoint : Endpoint
  since : Nat
  failedAt : Nat
  deriving DecidableEq, Repr

structure Blacklist where
  failures : List Failure := []
  deriving DecidableEq, Repr

namespace Blacklist

def get? (b : Blacklist) (e : Endpoint) : Option Failure := b.failures.find? (·.endpoint = e)

def contains (b : Blacklist) (e : Endpoint) : Bool := (b.get? e).isSome

def clear (b : Blacklist) (e : Endpoint) : Blacklist :=
  ⟨b.failures.filter (·.endpoint ≠ e)⟩

def clearAll (_ : Blacklist) : Blacklist := {}

/-- Replaces an earlier failure of the endpoint. An instant that the clock has not reached yet
counts as now on the wall. -/
def record (b : Blacklist) (e : Endpoint) (since now : Nat) : Blacklist :=
  ⟨(b.clear e).failures ++ [{ endpoint := e, since, failedAt := now - (now - since) }]⟩

/-- Whether the endpoint is still excluded at `now`, and the table without its failure if not. -/
def lookup (b : Blacklist) (e : Endpoint) (now timeout : Nat) : Bool × Blacklist :=
  match b.get? e with
  | some f => if now - f.since < timeout then (true, b) else (false, b.clear e)
  | none => (false, b)

def size (b : Blacklist) : Nat := b.failures.length

def isEmpty (b : Blacklist) : Bool := b.failures.isEmpty

/-- The failures, oldest first; those of one instant by the text of the endpoint. -/
def snapshot (b : Blacklist) : List Failure :=
  b.failures.mergeSort fun f g =>
    f.since < g.since ∨ (f.since = g.since ∧ f.endpoint.text ≤ g.endpoint.text)

theorem get?_clear (b : Blacklist) (e x : Endpoint) :
    (b.clear e).get? x = if x = e then none else b.get? x := by
  simp only [get?, clear, List.find?_filter]
  split
  · subst x; simp
  next h =>
    congr 1
    funext f
    by_cases hf : f.endpoint = x <;> simp_all

theorem get?_record (b : Blacklist) (e x : Endpoint) (since now : Nat) :
    (b.record e since now).get? x
      = if x = e then some ⟨e, since, now - (now - since)⟩ else b.get? x := by
  have h := get?_clear b e x
  simp only [get?] at h
  by_cases hx : x = e
  · subst hx
    simp [get?, record, List.find?_append, h]
  · simp [get?, record, List.find?_append, h, hx, Ne.symm hx]

theorem fst_lookup_iff {b : Blacklist} {e : Endpoint} {now timeout : Nat} :
    (b.lookup e now timeout).1 = true ↔ ∃ f, b.get? e = some f ∧ now - f.since < timeout := by
  unfold lookup
  cases b.get? e with
  | none => simp
  | some f => by_cases hf : now - f.since < timeout <;> simp [hf]

theorem get?_lookup_iff {b : Blacklist} {e x : Endpoint} {now timeout : Nat} {f : Failure} :
    (b.lookup e now timeout).2.get? x = some f ↔
      b.get? x = some f ∧ ¬(e = x ∧ timeout ≤ now - f.since) := by
  unfold lookup
  split
  next g hg =>
    split
    next hfresh =>
      refine ⟨fun h => ⟨h, ?_⟩, And.left⟩
      rintro ⟨rfl, hold⟩
      cases hg.symm.trans h
      exact Nat.not_le.2 hfresh hold
    next hold =>
      rw [get?_clear]
      by_cases hx : x = e
      · subst hx
        rw [if_pos rfl, hg]
        simpa using fun h => h ▸ Nat.not_lt.1 hold
      · simp [hx, Ne.symm hx]
  next hnone =>
    refine ⟨fun h => ⟨h, ?_⟩, And.left⟩
    rintro ⟨rfl, -⟩
    cases hnone.symm.trans h

end Blacklist

end Failover
