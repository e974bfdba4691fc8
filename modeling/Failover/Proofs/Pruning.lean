import Failover.Proofs.Tour
import Mathlib.Data.List.Induction

/-!
# Dropped failures make no difference

A lookup drops a failure that is too old by then. As long as lookups come later and later, the
failure is too old for those that follow as well: but for such failures the table is the one from
which nothing was ever dropped (`Pruned`). In the latter each endpoint has its last failure unless
it was cleared since (`Standing`), so that is all that lookups tell of (`excluded_iff_standing`),
and a pass of an election splits the hosts by it (`meets_splitExcluded_full`).
-/

namespace Failover

namespace Blacklist

/-- What is done to the table. -/
inductive Access
  | record (e : Endpoint) (since now : Nat)
  | clear (e : Endpoint)
  | clearAll
  | lookup (e : Endpoint) (now : Nat)
  deriving DecidableEq

namespace Access

/-- The instant of a lookup. -/
def instant? : Access → Option Nat
  | lookup _ now => some now
  | _ => none

/-- Whether the failure of an endpoint is replaced or forgotten. -/
def Settles (x : Endpoint) : Access → Prop
  | record e _ _ | clear e => e = x
  | clearAll => True
  | lookup _ _ => False

/-- What becomes of a table from which lookups drop nothing. -/
def keep (b : Blacklist) : Access → Blacklist
  | record e since now => b.record e since now
  | clear e => b.clear e
  | clearAll => b.clearAll
  | lookup _ _ => b

/-- What becomes of the table. -/
def apply (timeout : Nat) (b : Blacklist) : Access → Blacklist
  | lookup e now => (b.lookup e now timeout).2
  | other => other.keep b

end Access

/-- The table after a history that began with an empty one. -/
def tableAfter (timeout : Nat) (past : List Access) : Blacklist :=
  past.foldl (Access.apply timeout) {}

/-- The table as it would be if lookups dropped nothing. -/
def fullTableAfter (past : List Access) : Blacklist := past.foldl Access.keep {}

/-- The endpoint failed at the instant `since`, and nothing was recorded of it later nor was it
cleared. -/
def Standing (e : Endpoint) (since : Nat) (past : List Access) : Prop :=
  ∃ earlier now later, past = earlier ++ .record e since now :: later ∧
    ∀ op ∈ later, ¬op.Settles e

/-- The table is the full one without failures that are too old at the instant `now`. -/
structure Pruned (timeout now : Nat) (b full : Blacklist) : Prop where
  kept : ∀ x f, b.get? x = some f → full.get? x = some f
  old : ∀ x f, full.get? x = some f → b.get? x = some f ∨ timeout ≤ now - f.since

section Pruned

variable {timeout now : Nat} {b full : Blacklist} {op : Access}

theorem get?_clearAll (b : Blacklist) (x : Endpoint) : b.clearAll.get? x = none := rfl

theorem Pruned.refl (b : Blacklist) : Pruned timeout now b b where
  kept _ _ h := h
  old _ _ h := .inl h

/-- Both tables get the same for one endpoint. -/
theorem Pruned.replace {b' full' : Blacklist} (h : Pruned timeout now b full) {e : Endpoint}
    {entry : Option Failure} (hb : ∀ x, b'.get? x = if x = e then entry else b.get? x)
    (hfull : ∀ x, full'.get? x = if x = e then entry else full.get? x) :
    Pruned timeout now b' full' where
  kept x f := by
    rw [hb, hfull]
    split
    · exact id
    · exact h.kept x f
  old x f := by
    rw [hb, hfull]
    split
    · exact .inl
    · exact h.old x f

theorem Pruned.apply (h : Pruned timeout now b full) (hop : ∀ t ∈ op.instant?, t ≤ now) :
    Pruned timeout now (op.apply timeout b) (op.keep full) := by
  cases op with
  | record e since wall => exact h.replace (get?_record b e · since wall) (get?_record full e · _ _)
  | clear e => exact h.replace (get?_clear b e) (get?_clear full e)
  | clearAll => exact .refl _
  | lookup e t =>
    have hnow : t ≤ now := hop t rfl
    refine ⟨fun x f hf => h.kept x f (get?_lookup_iff.1 hf).1, fun x f hf => ?_⟩
    rcases h.old x f hf with hf | hold
    · by_cases hdrop : e = x ∧ timeout ≤ t - f.since
      · exact .inr (hdrop.2.trans (Nat.sub_le_sub_right hnow _))
      · exact .inl (get?_lookup_iff.2 ⟨hf, hdrop⟩)
    · exact .inr hold

theorem Pruned.foldl {past : List Access} (h : Pruned timeout now b full)
    (hpast : ∀ op ∈ past, ∀ t ∈ op.instant?, t ≤ now) :
    Pruned timeout now (past.foldl (Access.apply timeout) b) (past.foldl Access.keep full) := by
  induction past generalizing b full with
  | nil => exact h
  | cons op past ih =>
    obtain ⟨hop, hpast⟩ := List.forall_mem_cons.1 hpast
    exact ih (h.apply hop) hpast

theorem pruned_tableAfter {past : List Access}
    (hpast : ∀ op ∈ past, ∀ t ∈ op.instant?, t ≤ now) :
    Pruned timeout now (tableAfter timeout past) (fullTableAfter past) :=
  (Pruned.refl {}).foldl hpast

theorem Pruned.fst_lookup (h : Pruned timeout now b full) (e : Endpoint) :
    (b.lookup e now timeout).1 = (full.lookup e now timeout).1 := by
  rw [Bool.eq_iff_iff, fst_lookup_iff, fst_lookup_iff]
  apply exists_congr
  intro f
  apply and_congr_left
  intro hfresh
  refine ⟨h.kept e f, ?_⟩
  intro hf
  exact (h.old e f hf).resolve_right (Nat.not_le.2 hfresh)

end Pruned

section Standing

variable {e : Endpoint} {since : Nat} {past : List Access} {op : Access}

theorem not_standing_nil : ¬Standing e since [] := by
  rintro ⟨earlier, now, later, h, -⟩
  cases earlier <;> cases h

theorem standing_concat_iff : Standing e since (past ++ [op]) ↔
    (∃ now, op = .record e since now) ∨ (¬op.Settles e ∧ Standing e since past) := by
  constructor
  · rintro ⟨earlier, now, later, h, hlater⟩
    rcases List.eq_nil_or_concat later with rfl | ⟨later, last, rfl⟩
    · exact .inl ⟨now, List.singleton_inj.1 (List.append_inj' h rfl).2⟩
    · rw [List.concat_eq_append] at h hlater
      rw [← List.cons_append, ← List.append_assoc] at h
      obtain ⟨rfl, hop⟩ := List.append_inj' h rfl
      obtain rfl := List.singleton_inj.1 hop
      exact .inr ⟨hlater _ (by simp), earlier, now, later, rfl, fun x hx => hlater x (by simp [hx])⟩
  · rintro (⟨now, rfl⟩ | ⟨hop, earlier, now, later, rfl, hlater⟩)
    · exact ⟨past, now, [], rfl, nofun⟩
    · refine ⟨earlier, now, later ++ [op], by simp, ?_⟩
      intro x hx
      rcases List.mem_append.1 hx with hx | hx
      · exact hlater x hx
      · rwa [List.mem_singleton.1 hx]

theorem fullTableAfter_concat : fullTableAfter (past ++ [op]) = op.keep (fullTableAfter past) := by
  rw [fullTableAfter, List.foldl_append]
  rfl

/-- The full table has the failures that stand. -/
theorem get?_fullTableAfter_iff : (∃ f, (fullTableAfter past).get? e = some f ∧ f.since = since) ↔
    Standing e since past := by
  induction past using List.reverseRecOn with
  | nil => exact iff_of_false (fun ⟨_, h, _⟩ => nomatch h) not_standing_nil
  | append_singleton past op ih =>
    rw [fullTableAfter_concat, standing_concat_iff, ← ih]
    cases op with
    | record x since' now =>
      simp only [Access.keep, get?_record, Access.Settles, Access.record.injEq]
      by_cases hx : e = x
      · subst hx
        simp
      · simp [hx, Ne.symm hx]
    | clear x =>
      simp only [Access.keep, get?_clear, Access.Settles]
      by_cases hx : e = x
      · subst hx
        simp
      · simp [hx, Ne.symm hx]
    | clearAll =>
      rw [Access.keep, get?_clearAll]
      simp [Access.Settles]
    | lookup x now => simp [Access.keep, Access.Settles]

end Standing

/-- Where lookups come later and later, each answers as if nothing had ever been dropped: an
endpoint is excluded if and only if its failure stands and is not too old. -/
theorem excluded_iff_standing {timeout now : Nat} {past later : List Access} {e : Endpoint}
    (hgrow : ((past ++ .lookup e now :: later).filterMap Access.instant?).Pairwise (· ≤ ·)) :
    ((tableAfter timeout past).lookup e now timeout).1 =
        ((fullTableAfter past).lookup e now timeout).1 ∧
      (((tableAfter timeout past).lookup e now timeout).1 = true ↔
        ∃ since, Standing e since past ∧ now - since < timeout) := by
  have hpast : ∀ op ∈ past, ∀ t ∈ op.instant?, t ≤ now := fun op hop t ht => by
    rw [List.filterMap_append, List.pairwise_append] at hgrow
    exact hgrow.2.2 t (List.mem_filterMap.2 ⟨op, hop, ht⟩) now (by simp [Access.instant?])
  have hpruned : Pruned timeout now (tableAfter timeout past) (fullTableAfter past) :=
    pruned_tableAfter hpast
  have hfull := hpruned.fst_lookup e
  refine ⟨hfull, ?_⟩
  simp only [hfull, fst_lookup_iff, ← get?_fullTableAfter_iff]
  constructor
  · rintro ⟨f, hf, hfresh⟩
    exact ⟨f.since, ⟨f, hf, rfl⟩, hfresh⟩
  · rintro ⟨_, ⟨f, hf, rfl⟩, hfresh⟩
    exact ⟨f, hf, hfresh⟩

/-- Both hosts fail, one is dropped by a lookup, and the other one fails again. -/
def relapse : List Access :=
  [.record ⟨"db1", 3306⟩ 100 100, .record ⟨"db2", 3306⟩ 3900 4000, .lookup ⟨"db2", 3306⟩ 4200,
    .lookup ⟨"db2", 3306⟩ 5000, .record ⟨"db1", 3306⟩ 4600 5100]

theorem excluded_after_relapse :
    ((relapse ++ [Access.lookup ⟨"db1", 3306⟩ 5500]).filterMap Access.instant?).Pairwise (· ≤ ·) ∧
      (fullTableAfter relapse).contains ⟨"db2", 3306⟩ = true ∧
      (tableAfter 1000 relapse).contains ⟨"db2", 3306⟩ = false ∧
      ((tableAfter 1000 relapse).lookup ⟨"db1", 3306⟩ 5500 1000).1 = true := by
  have hgrow : ((relapse ++ [Access.lookup ⟨"db1", 3306⟩ 5500]).filterMap
      Access.instant?).Pairwise (· ≤ ·) := by decide
  refine ⟨hgrow, by decide +kernel, by decide +kernel, (excluded_iff_standing hgrow).2.2 ?_⟩
  exact ⟨4600, ⟨relapse.dropLast, 5100, [], rfl, nofun⟩, by decide⟩

end Blacklist

variable {σ : Type}

/-- A pass of an election splits its hosts as if nothing had ever been dropped. -/
theorem meets_splitExcluded_full {timeout : Nat} {past : List Blacklist.Access} {hosts : List Host}
    {w : World σ} {stuck : World σ → Prop}
    (htable : w.blacklist = Blacklist.tableAfter timeout past)
    (hpast : ∀ op ∈ past, ∀ t ∈ op.instant?, t ≤ w.now) :
    (splitExcluded timeout hosts).Meets w (fun x _ =>
      x = (hosts.filter fun h =>
          !((Blacklist.fullTableAfter past).lookup h.toEndpoint w.now timeout).1,
        hosts.filter fun h =>
          ((Blacklist.fullTableAfter past).lookup h.toEndpoint w.now timeout).1)) stuck :=
  meets_splitExcluded_order fun e => by
    rw [htable]
    exact (Blacklist.pruned_tableAfter hpast).fst_lookup e

end Failover
