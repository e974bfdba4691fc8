import Failover.Proofs.Comments
import Mathlib

/-!
# Words of a text

A text that begins with a word is that word and what stands behind it (`words_of_not_blank`), so a
blank parts the words before it from those behind (`words_append_of_blank`). Text in front can only
change the first word (`tail_words_isSuffix`), and upper casing works word by word
(`words_upper`). Where a text has no blanks at its ends, any piece of it at an end has a word
(`Trimmed.words_ne_nil_of_prefix`, `Trimmed.words_ne_nil_of_suffix`).
-/

namespace Failover.Text

section Prefixes

variable {α : Type} {x : α} {k s t : List α}

/-- Elements that are not in it end a front. -/
theorem isPrefix_of_not_mem (hx : x ∉ k) (h : k <+: s ++ x :: t) : k <+: s := by
  have hfront : s ++ [x] <+: s ++ x :: t := ⟨t, by simp⟩
  rcases List.prefix_or_prefix_of_prefix h hfront with hk | hk
  · rcases List.prefix_concat_iff.1 hk with rfl | hk
    · exact absurd (List.mem_append_right s (List.mem_singleton_self x)) hx
    · exact hk
  · exact absurd (hk.subset (List.mem_append_right s (List.mem_singleton_self x))) hx

variable {p : α → Bool}

theorem takeWhile_append_cons_of_neg (hx : p x = false) (s t : List α) :
    (s ++ x :: t).takeWhile p = s.takeWhile p := by
  induction s with
  | nil => simp [hx]
  | cons y s ih => rw [List.cons_append, List.takeWhile_cons, List.takeWhile_cons, ih]

theorem dropWhile_append_cons_of_neg (hx : p x = false) (s t : List α) :
    (s ++ x :: t).dropWhile p = s.dropWhile p ++ x :: t := by
  induction s with
  | nil => simp [hx]
  | cons y s ih =>
    rw [List.cons_append, List.dropWhile_cons, List.dropWhile_cons, ih]
    split <;> rfl

end Prefixes

/-- The word that a text begins with. -/
def frontWord (s : List Char) : List Char := s.takeWhile (!isBlank ·)

/-- What stands behind the word that a text begins with. -/
def afterWord (s : List Char) : List Char := s.dropWhile (!isBlank ·)

section Words

variable {x : Char}

theorem words_cons (x : Char) (s : List Char) : words (x :: s) =
    if isBlank x then words s
    else
      match s, words s with
      | y :: _, word :: more => if isBlank y then [x] :: word :: more else (x :: word) :: more
      | _, more => [x] :: more := rfl

theorem words_of_blank (hx : isBlank x = true) (s : List Char) : words (x :: s) = words s := by
  rw [words_cons, if_pos hx]

theorem frontWord_of_blank (hx : isBlank x = true) (s : List Char) : frontWord (x :: s) = [] :=
  List.takeWhile_cons_of_neg (by simp [hx])

theorem afterWord_of_blank (hx : isBlank x = true) (s : List Char) :
    afterWord (x :: s) = x :: s := List.dropWhile_cons_of_neg (by simp [hx])

theorem frontWord_of_not_blank (hx : isBlank x = false) (s : List Char) :
    frontWord (x :: s) = x :: frontWord s := List.takeWhile_cons_of_pos (by simp [hx])

theorem afterWord_of_not_blank (hx : isBlank x = false) (s : List Char) :
    afterWord (x :: s) = afterWord s := List.dropWhile_cons_of_pos (by simp [hx])

theorem length_afterWord_le (s : List Char) : (afterWord s).length ≤ s.length :=
  (List.dropWhile_sublist _).length_le

/-- A word ends at the first blank. -/
theorem words_of_not_blank (hx : isBlank x = false) (s : List Char) :
    words (x :: s) = (x :: frontWord s) :: words (afterWord s) := by
  induction s generalizing x with
  | nil =>
    rw [words_cons, if_neg (by simp [hx])]
    rfl
  | cons y s ih =>
    rw [words_cons, if_neg (by simp [hx])]
    cases hy : isBlank y with
    | true =>
      rw [frontWord_of_blank hy, afterWord_of_blank hy]
      cases words (y :: s) <;> simp [hy]
    | false =>
      rw [frontWord_of_not_blank hy, afterWord_of_not_blank hy, ih hy]
      simp [hy]

/-- A blank parts the words in front of it from those behind it. -/
theorem words_append_of_blank (hx : isBlank x = true) (t : List Char) :
    ∀ s : List Char, words (s ++ x :: t) = words s ++ words t
  | [] => words_of_blank hx t
  | y :: s => by
    cases hy : isBlank y with
    | true =>
      rw [List.cons_append, words_of_blank hy, words_of_blank hy, words_append_of_blank hx t s]
    | false =>
      have hfront : frontWord (s ++ x :: t) = frontWord s :=
        takeWhile_append_cons_of_neg (by simp [hx]) s t
      have hafter : afterWord (s ++ x :: t) = afterWord s ++ x :: t :=
        dropWhile_append_cons_of_neg (by simp [hx]) s t
      rw [List.cons_append, words_of_not_blank hy, words_of_not_blank hy, hfront, hafter,
        words_append_of_blank hx t (afterWord s), List.cons_append]
termination_by s => s.length
decreasing_by
  · exact Nat.lt_succ_of_le (length_afterWord_le s)
  · exact Nat.lt_succ_self _

/-- A run of characters in front goes into the first word. -/
theorem words_append_of_run {run : List Char} (hne : run ≠ [])
    (hrun : ∀ y ∈ run, isBlank y = false) (s : List Char) :
    words (run ++ s) = (run ++ frontWord s) :: words (afterWord s) := by
  obtain ⟨y, rest, rfl⟩ := List.exists_cons_of_ne_nil hne
  have hrest : ∀ z ∈ rest, (!isBlank z) = true := fun z hz => by
    rw [hrun z (List.mem_cons_of_mem y hz)]
    rfl
  rw [List.cons_append, words_of_not_blank (hrun y List.mem_cons_self), frontWord, afterWord,
    List.takeWhile_append_of_pos hrest, List.dropWhile_append_of_pos hrest]
  rfl

theorem tail_words_cons_isSuffix (y : Char) (s : List Char) :
    (words s).tail <:+ (words (y :: s)).tail := by
  cases hy : isBlank y with
  | true => rw [words_of_blank hy]
  | false =>
    rw [words_of_not_blank hy, List.tail_cons]
    cases s with
    | nil => exact List.nil_suffix
    | cons z s =>
      cases hz : isBlank z with
      | true =>
        rw [afterWord_of_blank hz]
        exact List.tail_suffix _
      | false => rw [afterWord_of_not_blank hz, words_of_not_blank hz, List.tail_cons]

/-- Whatever stands in front, all words but the first stay words. -/
theorem tail_words_isSuffix (s t : List Char) : (words t).tail <:+ (words (s ++ t)).tail := by
  induction s with
  | nil => exact List.suffix_rfl
  | cons y s ih => exact ih.trans (tail_words_cons_isSuffix y (s ++ t))

end Words

/-! ## Capitals -/

section Capitals

variable {x : Char}

theorem isBlank_iff : isBlank x = true ↔
    (9 ≤ x.toNat ∧ x.toNat ≤ 13) ∨ x.toNat = 0x20 ∨ x.toNat = 0x85 ∨ x.toNat = 0xA0 ∨
      x.toNat = 0x1680 ∨ (0x2000 ≤ x.toNat ∧ x.toNat ≤ 0x200A) ∨ x.toNat = 0x2028 ∨
      x.toNat = 0x2029 ∨ x.toNat = 0x202F ∨ x.toNat = 0x205F ∨ x.toNat = 0x3000 := by
  simp only [isBlank, Bool.or_eq_true, Bool.and_eq_true, decide_eq_true_eq, beq_iff_eq, or_assoc]

theorem not_isBlank_of_isAlpha (h : x.isAlpha = true) : isBlank x = false := by
  have hletter : 65 ≤ x.toNat ∧ x.toNat ≤ 90 ∨ 97 ≤ x.toNat ∧ x.toNat ≤ 122 := by
    simpa [Char.isAlpha, Char.isUpper, Char.isLower, UInt32.le_iff_toNat_le] using h
  rw [← Bool.not_eq_true, isBlank_iff]
  omega

theorem not_isAlpha_of_isBlank (h : isBlank x = true) : x.isAlpha = false := by
  rw [← Bool.not_eq_true]
  intro ha
  cases h.symm.trans (not_isBlank_of_isAlpha ha)

theorem isBlank_toUpper (x : Char) : isBlank x.toUpper = isBlank x := by
  by_cases hx : x.isLower = true
  · have ha : x.isAlpha = true := by simp [Char.isAlpha, hx]
    rw [not_isBlank_of_isAlpha ha, not_isBlank_of_isAlpha (by simpa using ha)]
  · rw [Char.toUpper_eq_of_not_isLower hx]

/-- The capitals of the characters that have others than a single one of their own. -/
def furtherCapitals : List (List Char) :=
  [['S', 'S'], ['I'], ['\u02BC', 'N'], ['S'], ['J', '\u030C'], ['H', '\u0331'], ['T', '\u0308'],
    ['W', '\u030A'], ['Y', '\u030A'], ['A', '\u02BE'], ['F', 'F'], ['F', 'I'], ['F', 'L'],
    ['F', 'F', 'I'], ['F', 'F', 'L'], ['S', 'T']]

theorem capitals_cases (x : Char) : capitals x = [x.toUpper] ∨
    (isBlank x = false ∧ capitals x ∈ furtherCapitals) := by
  rw [← Bool.not_eq_true, isBlank_iff]
  unfold capitals
  split
  all_goals first
    | exact .inl rfl
    | exact .inr ⟨by omega, by decide⟩

theorem capitals_of_isBlank (hx : isBlank x = true) : capitals x = [x] := by
  have hlower : ¬x.isLower = true := fun h => by
    have ha : x.isAlpha = true := by simp [Char.isAlpha, h]
    cases hx.symm.trans (not_isBlank_of_isAlpha ha)
  rcases capitals_cases x with h | ⟨h, -⟩
  · rw [h, Char.toUpper_eq_of_not_isLower hlower]
  · cases hx.symm.trans h

theorem capitals_ne_nil (x : Char) : capitals x ≠ [] := by
  rcases capitals_cases x with h | ⟨-, h⟩
  · simp [h]
  · exact fun hnil => absurd (hnil ▸ h) (by decide)

theorem not_isBlank_of_mem_capitals (hx : isBlank x = false) :
    ∀ y ∈ capitals x, isBlank y = false := by
  rcases capitals_cases x with h | ⟨-, h⟩
  · simp [h, isBlank_toUpper, hx]
  · have hall : ∀ word ∈ furtherCapitals, ∀ y ∈ word, isBlank y = false := by
      simp [furtherCapitals, isBlank]
    exact hall _ h

theorem upper_cons (x : Char) (s : List Char) : upper (x :: s) = capitals x ++ upper s :=
  List.flatMap_cons

theorem frontWord_upper (s : List Char) : frontWord (upper s) = upper (frontWord s) ∧
    afterWord (upper s) = upper (afterWord s) := by
  induction s with
  | nil => exact ⟨rfl, rfl⟩
  | cons x s ih =>
    rw [upper_cons]
    cases hx : isBlank x with
    | true =>
      rw [capitals_of_isBlank hx, frontWord_of_blank hx, afterWord_of_blank hx, upper_cons,
        capitals_of_isBlank hx]
      exact ⟨frontWord_of_blank hx _, afterWord_of_blank hx _⟩
    | false =>
      have hrun : ∀ y ∈ capitals x, (!isBlank y) = true := fun y hy => by
        rw [not_isBlank_of_mem_capitals hx y hy]
        rfl
      rw [frontWord_of_not_blank hx, afterWord_of_not_blank hx, upper_cons, ← ih.1, ← ih.2]
      exact ⟨List.takeWhile_append_of_pos hrun, List.dropWhile_append_of_pos hrun⟩

/-- Upper casing works word by word. -/
theorem words_upper : ∀ s : List Char, words (upper s) = (words s).map upper
  | [] => rfl
  | x :: s => by
    rw [upper_cons]
    cases hx : isBlank x with
    | true =>
      rw [capitals_of_isBlank hx, List.singleton_append, words_of_blank hx, words_of_blank hx,
        words_upper s]
    | false =>
      rw [words_append_of_run (capitals_ne_nil x) (not_isBlank_of_mem_capitals hx),
        (frontWord_upper s).1, (frontWord_upper s).2, words_upper (afterWord s),
        words_of_not_blank hx, List.map_cons, upper_cons]
termination_by s => s.length
decreasing_by
  · exact Nat.lt_succ_of_le (length_afterWord_le s)
  · exact Nat.lt_succ_self _

end Capitals

/-! ## Texts without blanks at their ends -/

/-- A text without blanks at its ends. -/
structure Trimmed (s : List Char) : Prop where
  front : ∀ x ∈ s.head?, isBlank x = false
  back : ∀ x ∈ s.getLast?, isBlank x = false

section Trimmed

variable {s t : List Char}

theorem getLast?_dropEndWhile {α : Type} {p : α → Bool} (s : List α) :
    ∀ x ∈ (dropEndWhile p s).getLast?, p x = false := by
  induction s with
  | nil => simp [dropEndWhile]
  | cons y s ih =>
    rw [dropEndWhile]
    split
    next => split <;> simp_all
    next kept hne =>
      obtain ⟨z, rest, hz⟩ := List.exists_cons_of_ne_nil hne
      rw [hz] at ih ⊢
      rwa [List.getLast?_cons_cons]

theorem front_of_isPrefix (hs : ∀ x ∈ s.head?, isBlank x = false) (h : t <+: s) :
    ∀ x ∈ t.head?, isBlank x = false := by
  obtain ⟨rest, rfl⟩ := h
  cases t with
  | nil => simp
  | cons y t => exact hs

theorem front_skipBlank (s : List Char) : ∀ x ∈ (skipBlank s).head?, isBlank x = false := by
  have h := List.head?_dropWhile_not isBlank s
  intro x hx
  rw [skipBlank] at hx
  rw [Option.mem_def.1 hx] at h
  exact h

theorem Trimmed.upper (hs : Trimmed s) : Trimmed (upper s) where
  front := by
    cases s with
    | nil => simp [Text.upper]
    | cons y s =>
      intro x hx
      refine not_isBlank_of_mem_capitals (hs.front y rfl) x (List.mem_of_mem_head? ?_)
      rwa [upper_cons, List.head?_append_of_ne_nil _ (capitals_ne_nil y)] at hx
  back := by
    rcases List.eq_nil_or_concat s with rfl | ⟨s, y, rfl⟩
    · simp [Text.upper]
    · intro x hx
      refine not_isBlank_of_mem_capitals (hs.back y (by simp)) x (List.mem_of_mem_getLast? ?_)
      rwa [Text.upper, List.concat_eq_append, List.flatMap_append, List.flatMap_singleton,
        List.getLast?_append_of_ne_nil _ (capitals_ne_nil y)] at hx

theorem Trimmed.words (hs : Trimmed s) (hne : s ≠ []) :
    words s = frontWord s :: words (afterWord s) := by
  obtain ⟨x, s, rfl⟩ := List.exists_cons_of_ne_nil hne
  have hx := hs.front x rfl
  rw [words_of_not_blank hx, frontWord_of_not_blank hx, afterWord_of_not_blank hx]

theorem words_eq_nil_iff : words s = [] ↔ ∀ x ∈ s, isBlank x = true := by
  induction s with
  | nil => exact iff_of_true rfl (List.forall_mem_nil _)
  | cons x s ih =>
    rw [List.forall_mem_cons]
    cases hx : isBlank x with
    | true => rw [words_of_blank hx, ih, eq_self, true_and]
    | false => simp [words_of_not_blank hx]

theorem Trimmed.words_ne_nil_of_prefix (ht : Trimmed t) (h : s <+: t) (hne : s ≠ []) :
    Text.words s ≠ [] := by
  obtain ⟨x, s, rfl⟩ := List.exists_cons_of_ne_nil hne
  rw [words_of_not_blank (front_of_isPrefix ht.front h x rfl)]
  exact List.cons_ne_nil _ _

theorem Trimmed.words_ne_nil_of_suffix (ht : Trimmed t) (h : s <:+ t) (hne : s ≠ []) :
    Text.words s ≠ [] := by
  obtain ⟨front, rfl⟩ := h
  have hlast := ht.back (s.getLast hne) (by
    rw [List.getLast?_append_of_ne_nil _ hne]
    exact List.getLast?_eq_some_getLast hne)
  intro hnil
  cases (words_eq_nil_iff.1 hnil _ (List.getLast_mem hne)).symm.trans hlast

end Trimmed

end Failover.Text
