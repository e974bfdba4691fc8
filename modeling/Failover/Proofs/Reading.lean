import Failover.Command
import Failover.Proofs.Words
import Failover.Sql.Identifier
import Failover.Text.Alphanumeric

/-!
# Which texts count as reads

A text counts as a read if it begins with a word for reading and has no word INTO. What stands
behind a semicolon is told from the same front: a second statement passes for a read unless it has
the word INTO (`second_read_iff`). And INTO is a word only between blanks, so it goes unnoticed
where another character follows it at once (`into_noticed_iff`).
-/

namespace Failover.Sql

open Text

/-! ## Fronts without comments -/

/-- No comment begins anywhere in the text. -/
def Uncommented (s : List Char) : Prop := ∀ mark ∈ blockOpen :: lineMarks, ¬mark <:+: s

instance (s : List Char) : Decidable (Uncommented s) :=
  inferInstanceAs (Decidable (∀ mark ∈ blockOpen :: lineMarks, ¬mark <:+: s))

/-- The marks that quoted texts and names begin and end with. -/
def quoteMarks : List Char := [Char.ofNat 0x27, Char.ofNat 0x22, backtick]

/-- A text without quotes and comments. -/
def Plain (s : List Char) : Prop := (∀ mark ∈ quoteMarks, mark ∉ s) ∧ Uncommented s

section Fronts

variable {x : Char} {s t : List Char}

theorem Uncommented.of_infix (hs : Uncommented s) (h : t <:+: s) : Uncommented t :=
  fun mark hm hin => hs mark hm (hin.trans h)

theorem Uncommented.afterComment (h : ∀ mark ∈ blockOpen :: lineMarks, ¬mark <+: s) :
    afterComment s = none := by
  unfold Sql.afterComment
  rw [if_neg (h _ (by decide)), if_neg]
  rintro (hdashes | hhash)
  · exact h _ (by decide) hdashes
  · exact h _ (by decide) hhash

theorem Uncommented.skipComments (hs : Uncommented s) : skipComments s = s :=
  skipComments_of_none (afterComment fun mark hm hp => hs mark hm hp.isInfix)

theorem Uncommented.skipComments_append (hs : Uncommented s)
    (hx : ∀ mark ∈ blockOpen :: lineMarks, x ∉ mark) :
    Sql.skipComments (s ++ x :: t) = s ++ x :: t :=
  skipComments_of_none (afterComment fun mark hm hp =>
    hs mark hm (isPrefix_of_not_mem (hx mark hm) hp).isInfix)

theorem skipBlank_isSuffix (s : List Char) : skipBlank s <:+ s := List.dropWhile_suffix _

theorem dropBlankEnd_isPrefix (s : List Char) : dropBlankEnd s <+: s := dropEndWhile_isPrefix s

/-- A statement without the semicolons and blanks at its end. -/
def withoutEnd (s : List Char) : List Char := dropBlankEnd (dropEndWhile (· = ';') s)

theorem body_eq_withoutEnd (s : List Char) :
    body s = withoutEnd (Sql.skipComments (skipBlank (dropBlankEnd s))) := body_eq s

/-- A front without comments is read up to the blanks before it. -/
theorem Uncommented.body (hs : Uncommented s) :
    body s = withoutEnd (dropBlankEnd (skipBlank s)) := by
  have hskipped : Uncommented (dropBlankEnd (skipBlank s)) :=
    hs.of_infix ((dropBlankEnd_isPrefix _).isInfix.trans (skipBlank_isSuffix s).isInfix)
  rw [body_eq_withoutEnd, skipBlank_dropBlankEnd, hskipped.skipComments]

theorem Uncommented.body_append (hs : Uncommented s)
    (hx : ∀ mark ∈ blockOpen :: lineMarks, x ∉ mark) (hblank : isBlank x = false)
    (t : List Char) : Sql.body (s ++ x :: t) = withoutEnd (skipBlank s ++ x :: dropBlankEnd t) := by
  have hend : dropBlankEnd (s ++ x :: t) = s ++ x :: dropBlankEnd t :=
    dropEndWhile_append hblank s t
  have hfront : skipBlank (s ++ x :: dropBlankEnd t) = skipBlank s ++ x :: dropBlankEnd t :=
    dropWhile_append_cons_of_neg hblank s _
  rw [body_eq_withoutEnd, hend, hfront,
    (hs.of_infix (skipBlank_isSuffix s).isInfix).skipComments_append hx]

theorem withoutEnd_append_of_ne_nil (h : withoutEnd t ≠ []) (s : List Char) :
    withoutEnd (s ++ t) = s ++ withoutEnd t := by
  have hcut : dropEndWhile (· = ';') t ≠ [] := fun hnil => h (by rw [withoutEnd, hnil]; rfl)
  unfold withoutEnd
  rw [dropEndWhile_append_of_ne_nil hcut]
  exact dropEndWhile_append_of_ne_nil h s

theorem afterFirst_isSuffix {mark rest : List Char} (h : afterFirst mark s = some rest) :
    rest <:+ s := by
  induction s with
  | nil =>
    rw [afterFirst] at h
    split at h
    · rw [← Option.some.inj h]
    · cases h
  | cons y s ih =>
    rw [afterFirst, afterFront] at h
    split at h
    · rw [← Option.some.inj h]
      exact List.drop_suffix _ _
    · exact (ih h).trans (List.suffix_cons y s)

theorem afterComment_isSuffix {rest : List Char} (h : Sql.afterComment s = some rest) :
    rest <:+ s := by
  unfold Sql.afterComment at h
  split at h
  · exact afterFirst_isSuffix h
  · split at h
    · cases hline : afterFirst ['\n'] s with
      | none =>
        rw [hline] at h
        rw [← Option.some.inj h]
        exact List.nil_suffix
      | some more =>
        rw [hline] at h
        rw [← Option.some.inj h]
        exact afterFirst_isSuffix hline
    · cases h

theorem skipComments_isSuffix (s : List Char) : Sql.skipComments s <:+ s := by
  induction s using skipComments.induct with
  | case1 s rest h _ ih =>
    rw [skipComments_of_some h]
    exact ih.trans ((skipBlank_isSuffix rest).trans (afterComment_isSuffix h))
  | case2 s h => rw [skipComments_of_none h]

end Fronts

/-! ## Keywords -/

section Keywords

variable {x : Char} {s : List Char}

theorem keyword_cons (x : Char) (s : List Char) :
    keyword (x :: s) = if x.isAlpha then x.toUpper :: keyword s else [] := by
  unfold keyword
  rw [List.takeWhile_cons]
  split <;> rfl

theorem keyword_of_not_isAlpha (hx : x.isAlpha = false) (s : List Char) :
    keyword (x :: s) = [] := by
  rw [keyword_cons, hx, if_neg Bool.false_ne_true]

theorem keyword_append_cons (hx : x.isAlpha = false) (s t : List Char) :
    keyword (s ++ x :: t) = keyword s :=
  congrArg (List.map Char.toUpper) (takeWhile_append_cons_of_neg hx s t)

theorem keyword_append_of_isAlpha {run : List Char} (h : ∀ y ∈ run, y.isAlpha = true)
    (t : List Char) : keyword (run ++ t) = run.map Char.toUpper ++ keyword t := by
  unfold keyword
  rw [List.takeWhile_append_of_pos h, List.map_append]

theorem keyword_dropEndWhile {p : Char → Bool} (hp : ∀ y, p y = true → y.isAlpha = false)
    (s : List Char) : keyword (dropEndWhile p s) = keyword s := by
  induction s with
  | nil => rfl
  | cons y s ih =>
    rw [dropEndWhile, keyword_cons y s, ← ih]
    split
    next hnil =>
      rw [hnil]
      split
      next hy => rw [hp y hy]; rfl
      next => exact keyword_cons y []
    next hkept => rw [keyword_cons]

theorem keyword_dropBlankEnd (s : List Char) : keyword (dropBlankEnd s) = keyword s :=
  keyword_dropEndWhile (fun _ h => not_isAlpha_of_isBlank h) s

theorem keyword_withoutEnd (s : List Char) : keyword (withoutEnd s) = keyword s := by
  have hsemicolon : ∀ y : Char, decide (y = ';') = true → y.isAlpha = false := fun y hy => by
    rw [of_decide_eq_true hy]
    decide
  exact (keyword_dropBlankEnd _).trans (keyword_dropEndWhile hsemicolon s)

theorem Uncommented.keyword (hs : Uncommented s) :
    keyword (Sql.body s) = Sql.keyword (skipBlank s) := by
  rw [hs.body, keyword_withoutEnd, keyword_dropBlankEnd]

end Keywords

/-! ## The word INTO -/

/-- The word that no read has, in whatever letters. -/
def isInto (word : List Char) : Bool := sameLetters ['I', 'N', 'T', 'O'] word

/-- Whether one of the words is INTO. -/
def hasInto (ws : List (List Char)) : Bool := ws.any isInto

section Into

variable {word s t : List Char}

theorem readsOnly_iff : readsOnly s = true ↔
    keyword (body s) ∈ readingWords ∧ hasInto (words (body s)) = false := by
  unfold readsOnly hasInto isInto
  simp

theorem toUpper_of_isInto (h : isInto word = true) :
    word.map Char.toUpper = ['I', 'N', 'T', 'O'] := by
  have hlower : word.map Char.toLower = ['i', 'n', 't', 'o'] := (beq_iff_eq.1 h).symm
  have hboth : word.map Char.toUpper = (word.map Char.toLower).map Char.toUpper := by simp
  rw [hboth, hlower]
  rfl

theorem isAlpha_of_isInto (h : isInto word = true) : ∀ x ∈ word, x.isAlpha = true := by
  intro x hx
  have hupper : x.toUpper ∈ ['I', 'N', 'T', 'O'] := by
    rw [← toUpper_of_isInto h]
    exact List.mem_map_of_mem hx
  have hletters : ∀ y ∈ ['I', 'N', 'T', 'O'], y.isAlpha = true := by simp
  rw [← Char.isAlpha_toUpper_eq_isAlpha]
  exact hletters _ hupper

theorem isInto_append_iff (h : isInto word = true) : isInto (word ++ t) = true ↔ t = [] := by
  refine ⟨?_, fun ht => by rwa [ht, List.append_nil]⟩
  intro h'
  have hlength := congrArg List.length (toUpper_of_isInto h)
  have hlength' := congrArg List.length (toUpper_of_isInto h')
  rw [List.length_map] at hlength hlength'
  exact List.length_eq_zero_iff.1 (by simp_all)

/-- What begins with INTO does not begin with a word for reading. -/
theorem keyword_not_mem_of_isInto (h : isInto word = true) (t : List Char) :
    keyword (word ++ t) ∉ readingWords := by
  have apart : ∀ reading ∈ readingWords, ¬['I', 'N', 'T', 'O'] <+: reading := by decide
  rw [keyword_append_of_isAlpha (isAlpha_of_isInto h), toUpper_of_isInto h]
  exact fun hm => apart _ hm (List.prefix_append _ _)

theorem hasInto_append (ws vs : List (List Char)) :
    hasInto (ws ++ vs) = (hasInto ws || hasInto vs) := List.any_append

/-- The first word of a text that begins with a word for reading is not INTO. -/
theorem hasInto_words_of_keyword (h : keyword s ∈ readingWords) :
    hasInto (words s) = hasInto (words s).tail := by
  cases s with
  | nil => exact absurd h (by decide)
  | cons x s =>
    have hx : isBlank x = false := not_isBlank_of_isAlpha (by
      by_contra hx
      rw [keyword_of_not_isAlpha (Bool.not_eq_true _ ▸ hx)] at h
      exact absurd h (by decide))
    have hfront : isInto (frontWord (x :: s)) = false := by
      rw [← Bool.not_eq_true]
      intro hinto
      refine keyword_not_mem_of_isInto hinto (afterWord (x :: s)) ?_
      rwa [frontWord, afterWord, List.takeWhile_append_dropWhile]
    rw [frontWord_of_not_blank hx] at hfront
    rw [words_of_not_blank hx, hasInto, List.any_cons, hfront, Bool.false_or, List.tail_cons,
      hasInto]

end Into

/-! ## A second statement -/

section Second

variable {r w : List Char}

theorem not_mem_mark_of_isAlpha {x : Char} (hx : x.isAlpha = true) :
    ∀ mark ∈ blockOpen :: lineMarks, x ∉ mark := by
  have hmarks : ∀ mark ∈ blockOpen :: lineMarks, ∀ y ∈ mark, y.isAlpha = false := by
    simp [blockOpen, lineMarks]
  intro mark hm hin
  cases hx.symm.trans (hmarks mark hm x hin)

/-- What stands behind a semicolon is read to its end, with its own end as that of the whole. -/
theorem body_second (hr : Uncommented r) (hw : body w ≠ []) :
    ∃ front, body (r ++ ';' :: w) = skipBlank r ++ ';' :: front ++ body w := by
  rw [body_eq_withoutEnd] at hw
  have hleft := (skipComments_isSuffix _).trans (skipBlank_isSuffix (dropBlankEnd w))
  obtain ⟨front, hfront⟩ := hleft
  refine ⟨front, ?_⟩
  rw [hr.body_append (by decide) (by decide), ← hfront, body_eq_withoutEnd w,
    ← withoutEnd_append_of_ne_nil hw, List.append_assoc, List.cons_append, hfront]

theorem keyword_body_second (hr : Uncommented r) (w : List Char) :
    keyword (body (r ++ ';' :: w)) = keyword (body r) := by
  rw [hr.body_append (by decide) (by decide), keyword_withoutEnd,
    keyword_append_cons (by decide), hr.keyword]

/-- A second statement that begins with a word for reading is searched for INTO along with the
first. -/
theorem hasInto_second (hr : Uncommented r) (hw : keyword (body w) ∈ readingWords)
    (hinto : hasInto (words (body (r ++ ';' :: w))) = false) :
    hasInto (words (body w)) = false := by
  have hne : body w ≠ [] := fun hnil => absurd (hnil ▸ hw) (by decide)
  obtain ⟨front, hbody⟩ := body_second hr hne
  have htail := (tail_words_isSuffix (skipBlank r ++ ';' :: front) (body w)).trans
    (List.tail_suffix _)
  rw [← hbody] at htail
  rw [hasInto_words_of_keyword hw]
  exact List.any_eq_false.2 fun word hm => List.any_eq_false.1 hinto word (htail.subset hm)

end Second

/-- A text that begins like a read and has no word INTO, with a second statement that begins
otherwise. -/
structure Smuggles (r w : String) : Prop where
  front : keyword (body r.toList) ∈ readingWords
  second : keyword (body w.toList) ∉ readingWords
  into : hasInto (words (body (r ++ ";" ++ w).toList)) = false

theorem toList_second (r w : String) : (r ++ ";" ++ w).toList = r.toList ++ ';' :: w.toList := by
  simp

theorem second_read_iff_not_smuggles {r : String} (hr : Uncommented r.toList) (w : String) :
    (isRead (r ++ ";" ++ w) = true → isRead w = true) ↔ ¬Smuggles r w := by
  have hkeyword := keyword_body_second hr w.toList
  unfold isRead
  rw [readsOnly_iff, readsOnly_iff, toList_second, hkeyword]
  constructor
  · intro h hs
    exact hs.second (h ⟨hs.front, by rw [← toList_second]; exact hs.into⟩).1
  · rintro hs ⟨hfront, hinto⟩
    have hw : keyword (body w.toList) ∈ readingWords := by
      by_contra hw
      exact hs ⟨hfront, hw, by rw [toList_second]; exact hinto⟩
    exact ⟨hw, hasInto_second hr hw hinto⟩

/-- A second statement that is no read goes unnoticed just where the text begins like a read, the
second statement does not, and no word of the text is INTO. Such a text is repeated after a failover
and passes for a read on a replica. -/
theorem second_read_iff {r : String} (hr : Uncommented r.toList) (w : String) :
    ((isRead (r ++ ";" ++ w) = true → isRead w = true) ↔ ¬Smuggles r w) ∧
    ∀ cmd ∈ [Command.query (r ++ ";" ++ w), Command.execute (r ++ ";" ++ w)],
      ((cmd.isRepeatable = true ∨ cmd.isWrite = false → isRead w = true) ↔ ¬Smuggles r w) := by
  have hsecond := second_read_iff_not_smuggles hr w
  refine ⟨hsecond, ?_⟩
  intro cmd hcmd
  rcases List.mem_pair.1 hcmd with rfl | rfl <;>
    simpa [Command.isRepeatable, Command.isWrite] using hsecond

/-- A second read behind a comment, in small letters. -/
theorem second_read_of_show : Uncommented "SELECT a FROM t".toList ∧
    isRead ("SELECT a FROM t" ++ ";" ++ " /* second */ show tables ;") = true ∧
    isRead " /* second */ show tables ;" = true := by
  have hr : Uncommented "SELECT a FROM t".toList := by decide +kernel
  have hboth : isRead ("SELECT a FROM t" ++ ";" ++ " /* second */ show tables ;") = true := by
    decide +kernel
  refine ⟨hr, hboth, (second_read_iff hr _).1.2 (fun hs => ?_) hboth⟩
  exact hs.second (by decide +kernel)

/-- A write behind a read counts as a part of the read. -/
theorem second_write_unnoticed : ¬∀ r w : String, Plain r.toList → body w.toList ≠ [] →
    isRead (r ++ ";" ++ w) = true → isRead w = true := by
  intro claim
  have hplain : Plain "SELECT 1".toList := ⟨by simp [quoteMarks, backtick], by decide +kernel⟩
  have hread := claim "SELECT 1" " DELETE FROM t" hplain (by decide +kernel) (by decide +kernel)
  exact absurd hread (by decide +kernel)

/-! ## Reads into a place -/

section Places

variable {s word : List Char} {x : Char}

theorem dropEndWhile_append_run {p : Char → Bool} {run : List Char} (hne : run ≠ [])
    (hrun : ∀ y ∈ run, p y = false) (s t : List Char) :
    dropEndWhile p (s ++ (run ++ t)) = s ++ (run ++ dropEndWhile p t) := by
  obtain ⟨front, y, rfl⟩ := List.eq_nil_or_concat run |>.resolve_left hne
  have hy : p y = false := hrun y (by simp)
  simpa using dropEndWhile_append hy (s ++ front) t

/-- Behind a front without comments, a word is read with what follows it. -/
theorem Uncommented.body_append_run (hs : Uncommented s) (hne : word ≠ [])
    (hword : ∀ y ∈ word, y.isAlpha = true) (t : List Char) :
    Sql.body (s ++ (word ++ t)) = skipBlank s ++ (word ++ withoutEnd (dropBlankEnd t)) := by
  have hblank : ∀ y ∈ word, isBlank y = false := fun y hy => not_isBlank_of_isAlpha (hword y hy)
  have hsemicolon : ∀ y ∈ word, decide (y = ';') = false := fun y hy =>
    decide_eq_false fun he => absurd (he ▸ hword y hy) (by decide)
  have hfront (u : List Char) : Sql.skipComments (skipBlank (s ++ (word ++ u))) =
      skipBlank s ++ (word ++ u) := by
    obtain ⟨y, rest, rfl⟩ := List.exists_cons_of_ne_nil hne
    have hskip : skipBlank (s ++ y :: (rest ++ u)) = skipBlank s ++ y :: (rest ++ u) :=
      dropWhile_append_cons_of_neg (hblank y List.mem_cons_self) s _
    rw [List.cons_append, hskip]
    exact (hs.of_infix (skipBlank_isSuffix s).isInfix).skipComments_append
      (not_mem_mark_of_isAlpha (hword y List.mem_cons_self))
  unfold withoutEnd
  rw [body_eq_withoutEnd, dropBlankEnd, dropEndWhile_append_run hne hblank, hfront, withoutEnd,
    dropEndWhile_append_run hne hsemicolon, dropBlankEnd, dropEndWhile_append_run hne hblank]
  rfl

theorem skipBlank_concat (hx : isBlank x = true) (s : List Char) :
    skipBlank (s ++ [x]) = if skipBlank s = [] then [] else skipBlank s ++ [x] := by
  induction s with
  | nil => exact skipBlank_cons_of_blank hx []
  | cons y s ih =>
    cases hy : isBlank y with
    | true => rw [List.cons_append, skipBlank_cons_of_blank hy, skipBlank_cons_of_blank hy, ih]
    | false =>
      rw [List.cons_append, skipBlank_cons hy, skipBlank_cons hy, if_neg (List.cons_ne_nil y s)]
      rfl

theorem words_skipBlank (s : List Char) : words (skipBlank s) = words s := by
  induction s with
  | nil => rfl
  | cons y s ih =>
    cases hy : isBlank y with
    | true => rw [skipBlank_cons_of_blank hy, words_of_blank hy, ih]
    | false => rw [skipBlank_cons hy]

/-- No comment comes about with a blank at the end. -/
theorem Uncommented.concat (hs : Uncommented s) (hx : isBlank x = true) :
    Uncommented (s ++ [x]) := by
  intro mark hm hin
  have hnot : x ∉ mark := by
    have hmarks : ∀ mark ∈ blockOpen :: lineMarks, ∀ y ∈ mark, isBlank y = false := by
      simp [blockOpen, lineMarks, isBlank]
    intro hmem
    cases hx.symm.trans (hmarks mark hm x hmem)
  rcases List.infix_concat_iff.1 hin with hsuffix | hin
  · rcases List.suffix_concat_iff.1 hsuffix with rfl | ⟨front, rfl, -⟩
    · exact absurd hm (by decide)
    · exact hnot (List.mem_append_right front (List.mem_singleton_self x))
  · exact hs mark hm hin

/-- What is told of a text with INTO behind a blank depends on what follows the word. -/
theorem readsOnly_into (hs : Uncommented s) (hx : isBlank x = true) (hword : isInto word = true)
    (t : List Char) : readsOnly (s ++ x :: (word ++ t)) = false ↔
      keyword (body s) ∉ readingWords ∨ hasInto (words s) = true ∨
        frontWord (withoutEnd (dropBlankEnd t)) = [] ∨
        hasInto (words (afterWord (withoutEnd (dropBlankEnd t)))) = true := by
  have hletters := isAlpha_of_isInto hword
  have hne : word ≠ [] := fun hnil => absurd (hnil ▸ hword) (by decide)
  have hbody := (hs.concat hx).body_append_run hne hletters t
  rw [List.append_assoc, List.singleton_append, skipBlank_concat hx] at hbody
  rw [← Bool.not_eq_true, readsOnly_iff, hbody, hs.keyword]
  generalize withoutEnd (dropBlankEnd t) = u
  split
  next hnil =>
    have hfirst := keyword_not_mem_of_isInto hword u
    rw [List.nil_append, hnil]
    exact iff_of_true (fun h => hfirst h.1) (.inl (by decide))
  next =>
    have hfollows : isInto (word ++ frontWord u) = decide (frontWord u = []) := by
      rw [Bool.eq_iff_iff, decide_eq_true_eq, isInto_append_iff hword]
    rw [List.append_assoc, List.singleton_append, keyword_append_cons (not_isAlpha_of_isBlank hx),
      words_append_of_blank hx, words_skipBlank, hasInto_append,
      words_append_of_run hne fun y hy => not_isBlank_of_isAlpha (hletters y hy), hasInto,
      hasInto, List.any_cons, hfollows, ← hasInto, ← hasInto]
    simp only [Bool.or_eq_false_iff, decide_eq_false_iff_not, not_and_or, Bool.not_eq_false]
    tauto

end Places

theorem toList_into (a : String) (x : Char) (word t : String) :
    (a ++ String.singleton x ++ word ++ t).toList = a.toList ++ x :: (word.toList ++ t.toList) := by
  simp

/-- A text with INTO behind a blank counts as no read just where it would not be one without that
word, or has another INTO, or where the word ends at once: in a blank, or at the end of the
statement. -/
theorem into_noticed_iff {a word : String} {x : Char} (ha : Uncommented a.toList)
    (hx : isBlank x = true) (hword : isInto word.toList = true) (t : String) :
    isRead (a ++ String.singleton x ++ word ++ t) = false ↔
      keyword (body a.toList) ∉ readingWords ∨ hasInto (words a.toList) = true ∨
        frontWord (withoutEnd (dropBlankEnd t.toList)) = [] ∨
        hasInto (words (afterWord (withoutEnd (dropBlankEnd t.toList)))) = true := by
  unfold isRead
  rw [toList_into]
  exact readsOnly_into ha hx hword t.toList

/-- The word ends in a tab. -/
theorem into_noticed_before_tab : Uncommented "select a".toList ∧ isBlank '\n' = true ∧
    isInto "iNto".toList = true ∧
    isRead ("select a" ++ String.singleton '\n' ++ "iNto" ++ "\t@x; ") = false := by
  have ha : Uncommented "select a".toList := by decide +kernel
  have hword : isInto "iNto".toList = true := by decide +kernel
  refine ⟨ha, by decide, hword, (into_noticed_iff ha (by decide) hword _).2 ?_⟩
  exact .inr (.inr (.inl (by decide +kernel)))

/-- Whether a character can stand inside a name. -/
def inName (x : Char) : Bool := isAlphanumeric x || x = '_' || x = '$'

/-- A variable that follows at once hides the word. -/
theorem into_unnoticed : ¬∀ a b word : String, ∀ x y : Char, Plain a.toList → Plain b.toList →
    isBlank x = true → isInto word.toList = true → inName y = false →
    isRead (a ++ String.singleton x ++ word ++ (String.singleton y ++ b)) = false := by
  intro claim
  have ha : Plain "SELECT a".toList := ⟨by simp [quoteMarks, backtick], by decide +kernel⟩
  have hb : Plain "x FROM t".toList := ⟨by simp [quoteMarks, backtick], by decide +kernel⟩
  have hwrite := claim "SELECT a" "x FROM t" "INTO" ' ' '@' ha hb (by decide) (by decide +kernel)
    (by decide)
  exact absurd hwrite (by decide +kernel)

end Failover.Sql
