import Failover.Proofs.Running
import Failover.Proofs.Words

/-!
# Statements with the same words

What a statement does to a transaction is told by its first two words, or by a word TO in its
middle (`Part`, `effectOf`). But these are looked for as whole phrases with single blanks in them,
and where a phrase is spelled otherwise (`WellSpaced` fails), an opened transaction is missed
(`transactionAfter_cases`). So two statements with the same words are told alike if the phrases
stand in both or in neither of them (`effects_agree_iff`).
-/

namespace Failover.Sql

open Text

theorem front_skipComments {s : List Char} (hs : ∀ x ∈ s.head?, isBlank x = false) :
    ∀ x ∈ (skipComments s).head?, isBlank x = false := by
  induction s using skipComments.induct with
  | case1 s rest h _ ih =>
    rw [skipComments_of_some h]
    exact ih (front_skipBlank rest)
  | case2 s h => rwa [skipComments_of_none h]

theorem trimmed_body (s : List Char) : Trimmed (body s) where
  front := by
    rw [body_eq]
    exact front_of_isPrefix (front_skipComments (front_skipBlank _))
      ((dropEndWhile_isPrefix _).trans (dropEndWhile_isPrefix _))
  back := getLast?_dropEndWhile _

/-! ## Words that count -/

/-- What a word in capitals is to a transaction. -/
inductive Part
  | start
  | transaction
  | begin
  /-- A word that begins with COMMIT or with ROLLBACK. -/
  | finish
  | to
  | other
  deriving DecidableEq

def part (word : List Char) : Part :=
  if word = "START".toList then .start
  else if "TRANSACTION".toList <+: word then .transaction
  else if word = "BEGIN".toList then .begin
  else if "COMMIT".toList <+: word ∨ "ROLLBACK".toList <+: word then .finish
  else if word = "TO".toList then .to
  else .other

/-- What the words of a statement do to a transaction. -/
def effectOf : List Part → Option Bool
  | .start :: .transaction :: _ => some true
  | .begin :: _ => some true
  | .finish :: rest => some (decide (.to ∈ rest.dropLast))
  | _ => none

/-- The words of a text in capitals, as far as they count. -/
def parts (t : List Char) : List Part := (words t).map part

/-- What the words call for is spelled as a phrase with single blanks in it. -/
def Phrased (t : List Char) : Prop :=
  match parts t with
  | .start :: .transaction :: _ => "START TRANSACTION".toList <+: t
  | .begin :: _ :: _ => "BEGIN ".toList <+: t
  | .finish :: rest => .to ∈ rest.dropLast → " TO ".toList <:+: t
  | _ => True

section Parts

variable {word t : List Char} {more : List Part}

theorem part_eq_start_iff : part word = .start ↔ word = "START".toList := by
  unfold part
  split_ifs <;> simp_all

theorem part_eq_transaction_iff : part word = .transaction ↔ "TRANSACTION".toList <+: word := by
  unfold part
  split_ifs <;> simp_all

theorem part_eq_to_iff : part word = .to ↔ word = "TO".toList := by
  unfold part
  split_ifs with _ htransaction _ hfinish <;> simp_all
  · rintro rfl
    exact absurd htransaction (by decide)
  · rintro rfl
    exact absurd hfinish (by decide)

theorem part_eq_begin_iff : part word = .begin ↔ word = "BEGIN".toList := by
  unfold part
  split_ifs with _ htransaction <;> simp_all
  rintro rfl
  exact absurd htransaction (by decide)

theorem part_eq_finish_iff : part word = .finish ↔
    "COMMIT".toList <+: word ∨ "ROLLBACK".toList <+: word := by
  unfold part
  split_ifs with _ htransaction <;> simp_all
  obtain ⟨rest, rfl⟩ := htransaction
  simp

theorem mentions_iff {mark : List Char} (hm : mark ≠ []) (s : List Char) :
    mentions mark s = true ↔ mark <:+: s := by
  unfold mentions
  induction s with
  | nil => simp [afterFirst, hm]
  | cons x s ih =>
    rw [afterFirst, afterFront, List.infix_cons_iff, ← ih]
    split <;> simp_all

theorem parts_append_of_isBlank {x : Char} (hx : isBlank x = true) (s t : List Char) :
    parts (s ++ x :: t) = parts s ++ parts t := by
  rw [parts, words_append_of_blank hx, List.map_append]
  rfl

/-- What a text begins with decides about its first word. -/
theorem parts_of_isPrefix {p : Part} (hne : word ≠ []) (hword : ∀ x ∈ word, isBlank x = false)
    (hpart : ∀ rest, part (word ++ rest) = p) (h : word <+: t) : ∃ more, parts t = p :: more := by
  obtain ⟨rest, rfl⟩ := h
  rw [parts, words_append_of_run hne hword, List.map_cons, hpart]
  exact ⟨_, rfl⟩

theorem parts_of_start (h : "START TRANSACTION".toList <+: t) :
    ∃ more, parts t = .start :: .transaction :: more := by
  obtain ⟨rest, rfl⟩ := h
  have hsplit : "START TRANSACTION".toList ++ rest =
      "START".toList ++ ' ' :: ("TRANSACTION".toList ++ rest) := by simp
  obtain ⟨more, hmore⟩ : ∃ more, parts ("TRANSACTION".toList ++ rest) = .transaction :: more :=
    parts_of_isPrefix (by simp) (by simp [isBlank])
      (fun _ => part_eq_transaction_iff.2 (List.prefix_append _ _)) (List.prefix_append _ rest)
  rw [hsplit, parts_append_of_isBlank (by decide), hmore]
  exact ⟨more, rfl⟩

theorem parts_of_begin (h : "BEGIN ".toList <+: t) : ∃ more, parts t = .begin :: more := by
  obtain ⟨rest, rfl⟩ := h
  have hsplit : "BEGIN ".toList ++ rest = "BEGIN".toList ++ ' ' :: rest := by simp
  rw [hsplit, parts_append_of_isBlank (by decide)]
  exact ⟨_, rfl⟩

theorem parts_of_finish (h : "COMMIT".toList <+: t ∨ "ROLLBACK".toList <+: t) :
    ∃ more, parts t = .finish :: more := by
  rcases h with h | h
  · exact parts_of_isPrefix (by simp) (by simp [isBlank])
      (fun _ => part_eq_finish_iff.2 (.inl (List.prefix_append _ _))) h
  · exact parts_of_isPrefix (by simp) (by simp [isBlank])
      (fun _ => part_eq_finish_iff.2 (.inr (List.prefix_append _ _))) h

end Parts

section Texts

variable {t : List Char} (ht : Trimmed t)

include ht

/-- The first part is that of the word in front. -/
theorem front_of_parts {p : Part} {more : List Part} (h : parts t = p :: more) :
    part (frontWord t) = p ∧ parts (afterWord t) = more := by
  have hne : t ≠ [] := by
    rintro rfl
    cases h
  rw [parts, ht.words hne, List.map_cons, List.cons.injEq] at h
  exact h

theorem finish_of_parts {more : List Part} (h : parts t = .finish :: more) :
    "COMMIT".toList <+: t ∨ "ROLLBACK".toList <+: t := by
  have hfront : frontWord t <+: t := List.takeWhile_prefix _
  exact (part_eq_finish_iff.1 (front_of_parts ht h).1).imp (·.trans hfront) (·.trans hfront)

theorem eq_begin_of_parts (h : parts t = [.begin]) : t = "BEGIN".toList := by
  obtain ⟨hfront, hwords⟩ := front_of_parts ht h
  rw [part_eq_begin_iff] at hfront
  have hafter : afterWord t = [] := by
    by_contra hrest
    exact ht.words_ne_nil_of_suffix (List.dropWhile_suffix _) hrest (List.map_eq_nil_iff.1 hwords)
  rw [← hfront, ← List.append_nil (frontWord t), ← hafter, frontWord, afterWord,
    List.takeWhile_append_dropWhile]

theorem to_mem_of_infix {more : List Part} (h : parts t = .finish :: more)
    (hto : " TO ".toList <:+: t) : .to ∈ more.dropLast := by
  obtain ⟨a, b, rfl⟩ := hto
  have hsplit : a ++ " TO ".toList ++ b = a ++ ' ' :: ("TO".toList ++ ' ' :: b) := by simp
  have ha : a ≠ [] := by
    rintro rfl
    exact absurd (ht.front ' ' rfl) (by decide)
  have hfront : parts a ≠ [] := List.map_eq_nil_iff.not.2
    (ht.words_ne_nil_of_prefix ⟨" TO ".toList ++ b, by rw [List.append_assoc]⟩ ha)
  have hback : parts b ≠ [] := by
    have hblank : isBlank ' ' = true := by decide
    have hsuffix := ht.words_ne_nil_of_suffix (s := ' ' :: b)
      ⟨a ++ " TO".toList, by simp⟩ (List.cons_ne_nil _ _)
    rw [words_of_blank hblank] at hsuffix
    exact List.map_eq_nil_iff.not.2 hsuffix
  obtain ⟨p, ps, hp⟩ := List.exists_cons_of_ne_nil hfront
  rw [hsplit, parts_append_of_isBlank (by decide), parts_append_of_isBlank (by decide), hp,
    List.cons_append, List.cons.injEq] at h
  obtain ⟨-, rfl⟩ := h
  have hto : parts "TO".toList = [.to] := rfl
  rw [hto, List.singleton_append, List.dropLast_append_of_ne_nil (List.cons_ne_nil _ _),
    List.dropLast_cons_of_ne_nil hback]
  simp

end Texts

/-! ## The effect of a statement -/

/-- What is told of a statement whose phrase is not found. -/
def unphrased : List Part → Option Bool
  | .finish :: _ => some false
  | _ => none

/-- A statement whose words call for a phrase is told by it; where the phrase is not found, the
words would have opened a transaction or kept one open. -/
theorem transactionAfter_cases (s : List Char) :
    (Phrased (upper (body s)) ∧ transactionAfter s = effectOf (parts (upper (body s)))) ∨
    (¬Phrased (upper (body s)) ∧ effectOf (parts (upper (body s))) = some true ∧
      transactionAfter s = unphrased (parts (upper (body s)))) := by
  have ht := (trimmed_body s).upper
  unfold transactionAfter
  generalize upper (body s) = t at ht ⊢
  dsimp only
  split_ifs with hopen hfinish
  · refine .inl ?_
    rcases hopen with hstart | rfl | hbegin
    · obtain ⟨more, hp⟩ := parts_of_start hstart
      exact ⟨by rw [Phrased, hp]; exact hstart, by rw [hp, effectOf]⟩
    · exact ⟨trivial, rfl⟩
    · obtain ⟨more, hp⟩ := parts_of_begin hbegin
      refine ⟨?_, by rw [hp, effectOf]⟩
      rw [Phrased, hp]
      cases more with
      | nil => trivial
      | cons p more => exact hbegin
  · obtain ⟨more, hp⟩ := parts_of_finish hfinish
    have hto := to_mem_of_infix ht hp
    have hmentions : mentions " TO ".toList t = true ↔ " TO ".toList <:+: t :=
      mentions_iff (by simp) t
    rw [Phrased, hp, effectOf]
    by_cases hphrase : " TO ".toList <:+: t
    · rw [hmentions.2 hphrase, decide_eq_true (hto hphrase)]
      exact .inl ⟨fun _ => hphrase, rfl⟩
    · rw [Bool.eq_false_iff.2 (hmentions.not.2 hphrase)]
      by_cases hmem : .to ∈ more.dropLast
      · exact .inr ⟨fun h => hphrase (h hmem), by rw [decide_eq_true hmem], rfl⟩
      · exact .inl ⟨fun h => absurd h hmem, by rw [decide_eq_false hmem]⟩
  · obtain ⟨hstart, hword, hbegin⟩ : _ ∧ _ ∧ _ := by simpa only [not_or] using hopen
    rw [Phrased]
    split
    next hp => exact .inr ⟨hstart, by rw [hp, effectOf], by rw [hp]; rfl⟩
    next hp => exact .inr ⟨hbegin, by rw [hp, effectOf], by rw [hp]; rfl⟩
    next hp => exact absurd (finish_of_parts ht hp) hfinish
    next hstart' hbegin' hfinish' =>
      have hopens : ∀ more, parts t = .begin :: more → False := fun more hp => by
        cases more with
        | nil => exact hword (eq_begin_of_parts ht hp)
        | cons p more => exact hbegin' p more hp
      exact .inl ⟨trivial, by rw [effectOf] <;> assumption⟩

theorem unphrased_ne (ps : List Part) : unphrased ps ≠ some true := by
  unfold unphrased
  split <;> simp

theorem transactionAfter_eq_iff {s t : List Char}
    (h : parts (upper (body s)) = parts (upper (body t))) :
    transactionAfter s = transactionAfter t ↔
      (Phrased (upper (body s)) ↔ Phrased (upper (body t))) := by
  rcases transactionAfter_cases s with ⟨hs, hs'⟩ | ⟨hs, hopen, hs'⟩ <;>
    rcases transactionAfter_cases t with ⟨ht, ht'⟩ | ⟨ht, hopen', ht'⟩ <;>
    rw [hs', ht', h]
  · simp [hs, ht]
  · exact iff_of_false (fun he => unphrased_ne _ (he.symm.trans hopen')) (by simp [hs, ht])
  · rw [h] at hopen
    exact iff_of_false (fun he => unphrased_ne _ (he.trans hopen)) (by simp [hs, ht])
  · simp [hs, ht]

/-! ## Letter case -/

/-- An upper casing that differs from ours only where no ASCII letter comes out. -/
def Capitalizes (fold : Char → List Char) : Prop :=
  ∀ x, fold x = capitals x ∨
    ((∃ y ∈ (fold x).head?, 128 ≤ y.toNat) ∧ ∃ y ∈ (capitals x).head?, 128 ≤ y.toNat)

section Folding

variable {fold : Char → List Char}

/-- Either two upper casings agree, or they part at a character beyond ASCII. -/
theorem flatMap_cases (hf : Capitalizes fold) (word : List Char) :
    word.flatMap fold = upper word ∨ ∃ front x r y r', word.flatMap fold = front ++ x :: r ∧
      upper word = front ++ y :: r' ∧ 128 ≤ x.toNat ∧ 128 ≤ y.toNat := by
  induction word with
  | nil => exact .inl rfl
  | cons z word ih =>
    rw [List.flatMap_cons, upper_cons]
    rcases hf z with hz | ⟨⟨x, hx, hx128⟩, y, hy, hy128⟩
    · rw [hz]
      rcases ih with heq | ⟨front, x, r, y, r', hx, hy, hbeyond⟩
      · exact .inl (by rw [heq])
      · refine .inr ⟨capitals z ++ front, x, r, y, r', ?_, ?_, hbeyond⟩
        · rw [hx, List.append_assoc]
        · rw [hy, List.append_assoc]
    · obtain ⟨r, hr⟩ := List.head?_eq_some_iff.1 hx
      obtain ⟨r', hr'⟩ := List.head?_eq_some_iff.1 hy
      exact .inr ⟨[], x, r ++ word.flatMap fold, y, r' ++ upper word, by rw [hr]; rfl,
        by rw [hr']; rfl, hx128, hy128⟩

/-- What a word is to a transaction shows in front of its first character beyond ASCII. -/
theorem part_append_of_beyond {x y : Char} (hx : 128 ≤ x.toNat) (hy : 128 ≤ y.toNat)
    (front r r' : List Char) : part (front ++ x :: r) = part (front ++ y :: r') := by
  have hnot : ∀ {k : List Char} {z : Char}, (∀ c ∈ k, c.toNat < 128) → 128 ≤ z.toNat → z ∉ k :=
    fun hk hz hmem => absurd (hk _ hmem) (Nat.not_lt.2 hz)
  have hprefix {k : List Char} (hk : ∀ c ∈ k, c.toNat < 128) :
      k <+: front ++ x :: r ↔ k <+: front ++ y :: r' := by
    constructor
    · intro h
      exact (isPrefix_of_not_mem (hnot hk hx) h).trans (List.prefix_append _ _)
    · intro h
      exact (isPrefix_of_not_mem (hnot hk hy) h).trans (List.prefix_append _ _)
  have hword {k : List Char} (hk : ∀ c ∈ k, c.toNat < 128) :
      front ++ x :: r = k ↔ front ++ y :: r' = k := by
    refine iff_of_false ?_ ?_
    · rintro rfl
      exact hnot hk hx (by simp)
    · rintro rfl
      exact hnot hk hy (by simp)
  simp only [part, hword (k := "START".toList) (by simp),
    hprefix (k := "TRANSACTION".toList) (by simp), hword (k := "BEGIN".toList) (by simp),
    hprefix (k := "COMMIT".toList) (by simp), hprefix (k := "ROLLBACK".toList) (by simp),
    hword (k := "TO".toList) (by simp)]

theorem part_flatMap (hf : Capitalizes fold) (word : List Char) :
    part (word.flatMap fold) = part (upper word) := by
  rcases flatMap_cases hf word with heq | ⟨front, x, r, y, r', hx, hy, hx128, hy128⟩
  · rw [heq]
  · rw [hx, hy, part_append_of_beyond hx128 hy128]

end Folding

/-! ## Single blanks -/

section Joining

variable {word first : List Char} {ws : List (List Char)}

theorem isPrefix_intercalate (sep word : List Char) (ws : List (List Char)) :
    word <+: sep.intercalate (word :: ws) := by
  cases ws with
  | nil => rw [List.intercalate_singleton]
  | cons next ws =>
    rw [List.intercalate_cons_cons, List.append_assoc]
    exact List.prefix_append _ _

/-- A word between two others stands between separators. -/
theorem isInfix_intercalate (sep : List Char) (h : word ∈ ws.dropLast) :
    sep ++ word ++ sep <:+: sep.intercalate (first :: ws) := by
  induction ws generalizing first with
  | nil => cases h
  | cons next ws ih =>
    cases ws with
    | nil => cases h
    | cons third ws =>
      rw [List.intercalate_cons_cons]
      rw [List.dropLast_cons_cons, List.mem_cons] at h
      rcases h with rfl | h
      · rw [List.intercalate_cons_cons]
        exact ⟨first, sep.intercalate (third :: ws), by simp⟩
      · exact (ih h).trans (List.suffix_append _ _).isInfix

theorem upper_intercalate (ws : List (List Char)) :
    upper ([' '].intercalate ws) = [' '].intercalate (ws.map upper) := by
  induction ws with
  | nil => rfl
  | cons word ws ih =>
    cases ws with
    | nil => simp
    | cons next ws =>
      rw [List.intercalate_cons_cons, upper, List.flatMap_append, List.flatMap_append, ← upper,
        ← upper, ← upper, ih]
      exact (List.intercalate_cons_cons).symm

end Joining

/-- The text is its words with single blanks between them. -/
def Joined (t : List Char) : Prop := [' '].intercalate (words t) = t

theorem Joined.upper {t : List Char} (h : Joined t) : Joined (upper t) := by
  rw [Joined, words_upper, ← upper_intercalate, h]

theorem Joined.phrased {t : List Char} (h : Joined t) : Phrased t := by
  rw [Phrased]
  split
  next hp =>
    obtain ⟨w, ws, hwords, hw, hws⟩ := List.map_eq_cons_iff.1 hp
    obtain ⟨w', ws, rfl, hw', -⟩ := List.map_eq_cons_iff.1 hws
    obtain rfl := part_eq_start_iff.1 hw
    rw [← h, hwords, List.intercalate_cons_cons]
    exact (List.prefix_append_right_inj ['S', 'T', 'A', 'R', 'T', ' ']).2
      ((part_eq_transaction_iff.1 hw').trans (isPrefix_intercalate _ _ _))
  next hp =>
    obtain ⟨w, ws, hwords, hw, hws⟩ := List.map_eq_cons_iff.1 hp
    obtain ⟨w', ws, rfl, -, -⟩ := List.map_eq_cons_iff.1 hws
    obtain rfl := part_eq_begin_iff.1 hw
    rw [← h, hwords, List.intercalate_cons_cons]
    exact List.prefix_append _ _
  next hp =>
    obtain ⟨w, ws, hwords, -, rfl⟩ := List.map_eq_cons_iff.1 hp
    intro hto
    rw [← List.map_dropLast, List.mem_map] at hto
    obtain ⟨w', hmem, hw'⟩ := hto
    obtain rfl := part_eq_to_iff.1 hw'
    rw [← h, hwords]
    exact isInfix_intercalate [' '] hmem
  next => trivial

/-! ## The same words -/

/-- The words of two statements differ in letter case at most. -/
def SameWords (fold : Char → List Char) (s t : String) : Prop :=
  (words (body s.toList)).map (List.flatMap fold) = (words (body t.toList)).map (List.flatMap fold)

/-- What the words of a statement call for is spelled as a phrase. -/
def WellSpaced (sql : String) : Prop := Phrased (upper (body sql.toList))

/-- The statement is its words with single blanks between them. -/
def SingleSpaced (sql : String) : Prop := Joined (body sql.toList)

theorem SingleSpaced.wellSpaced {sql : String} (h : SingleSpaced sql) : WellSpaced sql :=
  Joined.phrased (Joined.upper h)

theorem SameWords.parts {fold : Char → List Char} {s t : String} (hf : Capitalizes fold)
    (h : SameWords fold s t) : parts (upper (body s.toList)) = parts (upper (body t.toList)) := by
  have hparts (u : List Char) :
      Sql.parts (upper u) = ((words u).map (List.flatMap fold)).map part := by
    rw [Sql.parts, words_upper, List.map_map, List.map_map]
    exact List.map_congr_left fun word _ => (part_flatMap hf word).symm
  rw [hparts, hparts, h]

/-- Statements that leave the same handles behind, whichever way they are sent and whatever they are
answered, as long as both succeed. -/
def HandledAlike (s t : String) : Prop :=
  ∀ {σ : Type} [Cluster σ] (h : Handle) (w v v' : World σ) (r r' : QueryResult),
    ∀ cmd ∈ [Command.query s, .execute s], ∀ cmd' ∈ [Command.query t, .execute t],
      h.run cmd w = (some (.ok r), v) → h.run cmd' w = (some (.ok r'), v') → v.handles = v'.handles

section Runs

variable {σ : Type} [Cluster σ] {h : Handle} {cmd : Command} {w w' : World σ} {r : QueryResult}

/-- What a command that succeeds makes of the handles. -/
theorem handles_of_run (hrun : h.run cmd w = (some (.ok r), w')) :
    w'.handles = match cmd.transactionAfter with
      | some b => w.handles.put { h with inTransaction := b }
      | none => w.handles := by
  obtain ⟨wait, result, hshown, hran⟩ := meets_run.value hrun
  cases result with
  | error e =>
    rw [cmd.shown_error] at hshown
    cases hshown
  | ok r => exact hran.handles

end Runs

theorem handledAlike {s t : String} (h : transactionEffect s = transactionEffect t) :
    HandledAlike s t := by
  intro σ _ x w v v' r r' cmd hcmd cmd' hcmd' hrun hrun'
  have heffect : cmd.transactionAfter = transactionEffect s := by
    rcases List.mem_pair.1 hcmd with rfl | rfl <;> rfl
  have heffect' : cmd'.transactionAfter = transactionEffect t := by
    rcases List.mem_pair.1 hcmd' with rfl | rfl <;> rfl
  rw [handles_of_run hrun, handles_of_run hrun', heffect, heffect', h]

/-- Statements with the same words are told alike if and only if both or neither spell the phrase
that their words call for; then they leave the same handles. So it is with one in single blanks if
and only if the other spells the phrase. -/
theorem effects_agree_iff {fold : Char → List Char} {s t : String} (hf : Capitalizes fold)
    (h : SameWords fold s t) :
    (transactionEffect s = transactionEffect t ↔ (WellSpaced s ↔ WellSpaced t)) ∧
      ((WellSpaced s ↔ WellSpaced t) → HandledAlike s t) ∧
      (SingleSpaced t → (transactionEffect s = transactionEffect t ↔ WellSpaced s)) := by
  have hiff : transactionEffect s = transactionEffect t ↔ (WellSpaced s ↔ WellSpaced t) :=
    transactionAfter_eq_iff (h.parts hf)
  refine ⟨hiff, fun hspaced => handledAlike (hiff.2 hspaced), ?_⟩
  intro ht
  rw [hiff, iff_true_right ht.wellSpaced]

/-- The capitals of a text whose only letter beyond ASCII is an accented one. -/
def accented (x : Char) : List Char := if x = 'é' then ['É'] else capitals x

/-- A rollback to a savepoint in small letters, with two blanks where none are called for. -/
theorem effects_agree_on_rollback : Capitalizes accented ∧
    SameWords accented " rollback  work to savepoint é ;" "ROLLBACK WORK TO SAVEPOINT É" ∧
    SingleSpaced "ROLLBACK WORK TO SAVEPOINT É" ∧
    transactionEffect " rollback  work to savepoint é ;" =
      transactionEffect "ROLLBACK WORK TO SAVEPOINT É" := by
  have hfold : Capitalizes accented := fun x => by
    unfold accented
    split
    next hx =>
      subst hx
      exact .inr ⟨⟨'É', rfl, by decide⟩, 'é', rfl, by decide⟩
    next => exact .inl rfl
  have hwords : SameWords accented " rollback  work to savepoint é ;"
      "ROLLBACK WORK TO SAVEPOINT É" := by
    rw [SameWords]
    decide +kernel
  have hsingle : SingleSpaced "ROLLBACK WORK TO SAVEPOINT É" := by
    rw [SingleSpaced, Joined]
    decide +kernel
  refine ⟨hfold, hwords, hsingle, ((effects_agree_iff hfold hwords).2.2 hsingle).2 ?_⟩
  have hparts : parts (upper (body " rollback  work to savepoint é ;".toList)) =
      [.finish, .other, .to, .other, .other] := by decide +kernel
  rw [WellSpaced, Phrased, hparts]
  exact fun _ => by decide +kernel

/-- Two blanks hide that a transaction is started. -/
theorem start_unnoticed : ¬∀ s t : String, SameWords capitals s t →
    transactionEffect s = transactionEffect t := by
  intro claim
  have hwords : SameWords capitals "START  TRANSACTION" "START TRANSACTION" := by
    rw [SameWords]
    decide +kernel
  exact absurd (claim _ _ hwords) (by decide +kernel)

end Failover.Sql
