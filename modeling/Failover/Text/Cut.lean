/-!
# Cutting a text at a mark

A cut leaves the mark out and keeps what stands before and after it; a text without the mark
cannot be cut.
-/

namespace Failover.Text

variable {α : Type} [DecidableEq α]

/-- The parts before and after the first `mark`. -/
def cut (mark : α) : List α → Option (List α × List α)
  | [] => none
  | x :: rest =>
    if x = mark then some ([], rest)
    else (cut mark rest).map fun (before, after) => (x :: before, after)

/-- The parts before and after the last `mark`. -/
def cutLast (mark : α) : List α → Option (List α × List α)
  | [] => none
  | x :: rest =>
    match cutLast mark rest with
    | some (before, after) => some (x :: before, after)
    | none => if x = mark then some ([], rest) else none

/-- The parts between the marks, also the empty ones. -/
def pieces (mark : α) : List α → List (List α)
  | [] => [[]]
  | x :: rest =>
    if x = mark then [] :: pieces mark rest
    else
      match pieces mark rest with
      | piece :: more => (x :: piece) :: more
      | [] => [[x]]

/-- What follows `front` in a text that begins with it. -/
def afterFront (front : List α) (s : List α) : Option (List α) :=
  if front <+: s then some (s.drop front.length) else none

/-- What follows the first occurrence of `mark`. -/
def afterFirst (mark : List α) : List α → Option (List α)
  | [] => if mark = [] then some [] else none
  | x :: rest => (afterFront mark (x :: rest)).orElse fun _ => afterFirst mark rest

/-- Whether `mark` stands anywhere in the text. -/
def mentions (mark s : List α) : Bool := (afterFirst mark s).isSome

theorem eq_of_cut {mark : α} {s before after : List α} (h : cut mark s = some (before, after)) :
    s = before ++ mark :: after ∧ mark ∉ before := by
  induction s generalizing before with
  | nil => simp [cut] at h
  | cons x rest ih =>
    simp only [cut] at h
    split at h
    · simp_all
    · obtain ⟨⟨b, a⟩, hb, he⟩ := Option.map_eq_some_iff.1 h
      simp only [Prod.mk.injEq] at he
      obtain ⟨rfl, rfl⟩ := he
      obtain ⟨h1, h2⟩ := ih hb
      subst h1
      simp only [List.cons_append, List.mem_cons, not_or, true_and]
      exact ⟨fun h => by simp_all, h2⟩

theorem cut_eq_none_iff {mark : α} {s : List α} : cut mark s = none ↔ mark ∉ s := by
  induction s with
  | nil => simp [cut]
  | cons x rest ih =>
    by_cases h : x = mark
    · simp [cut, h]
    · simp [cut, h, ih, Ne.symm h]

theorem cut_append {mark : α} {before : List α} (after : List α) (h : mark ∉ before) :
    cut mark (before ++ mark :: after) = some (before, after) := by
  induction before with
  | nil => simp [cut]
  | cons x rest ih =>
    simp only [List.mem_cons, not_or] at h
    simp [cut, Ne.symm h.1, ih h.2]

theorem eq_of_cutLast {mark : α} {s before after : List α}
    (h : cutLast mark s = some (before, after)) :
    s = before ++ mark :: after ∧ mark ∉ after := by
  induction s generalizing before with
  | nil => simp [cutLast] at h
  | cons x rest ih =>
    simp only [cutLast] at h
    split at h
    next b a hc =>
      simp only [Option.some.injEq, Prod.mk.injEq] at h
      obtain ⟨rfl, rfl⟩ := h
      obtain ⟨h1, h2⟩ := ih hc
      exact ⟨by rw [h1]; rfl, h2⟩
    next hc =>
      split at h
      · simp only [Option.some.injEq, Prod.mk.injEq] at h
        obtain ⟨rfl, rfl⟩ := h
        refine ⟨by simp_all, ?_⟩
        clear ih
        induction rest with
        | nil => simp
        | cons y r ih =>
          simp only [cutLast] at hc
          split at hc
          · simp at hc
          · split at hc
            · simp at hc
            · simp_all [eq_comm]
      · simp at h

theorem cutLast_eq_none_iff {mark : α} {s : List α} : cutLast mark s = none ↔ mark ∉ s := by
  induction s with
  | nil => simp [cutLast]
  | cons x rest ih =>
    simp only [cutLast]
    split
    next hc =>
      have hm : mark ∈ rest := Decidable.not_not.1 fun hm => by simp [ih.2 hm] at hc
      simp [hm]
    next hc =>
      by_cases h : x = mark
      · simp [h]
      · simp [h, ih.1 hc, Ne.symm h]

end Failover.Text
