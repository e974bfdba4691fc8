import Failover.Sql.Statement
import Mathlib.Data.List.Infix

/-!
# Leading comments

What a statement does is told without its leading comments (`leading_comments_alike_iff`). The one
exception is a block comment whose text begins with a slash: that slash ends it together with the
asterisk of its own opening, and the rest of its text counts as a part of the statement.
-/

namespace Failover

namespace Text

section Cuts

variable {α : Type} [DecidableEq α] {mark before after : List α}

/-- A mark that stands nowhere before is found. -/
theorem afterFirst_append (hm : mark ≠ []) (h : ¬mark <:+: (before ++ mark).dropLast) :
    afterFirst mark (before ++ (mark ++ after)) = some after := by
  induction before with
  | nil =>
    obtain ⟨x, rest, rfl⟩ := List.exists_cons_of_ne_nil hm
    simp [afterFirst, afterFront]
  | cons x before ih =>
    have hlast : (x :: before ++ mark).dropLast = x :: (before ++ mark).dropLast :=
      List.dropLast_cons_of_ne_nil (by simp [hm])
    rw [hlast] at h
    have hfront : ¬mark <+: x :: (before ++ (mark ++ after)) := fun hp => by
      refine h (List.IsPrefix.isInfix ?_)
      have hwhole : x :: (before ++ mark).dropLast <+: x :: (before ++ (mark ++ after)) := by
        have hshort := List.dropLast_prefix (before ++ mark)
        rw [← List.append_assoc]
        exact List.prefix_cons_inj x |>.2 (hshort.trans (List.prefix_append _ _))
      exact List.prefix_of_prefix_length_le hp hwhole (by simp; omega)
    rw [List.cons_append, afterFirst, afterFront, if_neg hfront]
    exact ih fun hin => h (hin.trans (List.suffix_cons x _).isInfix)

theorem afterFirst_singleton_append {x : α} (h : x ∉ before) :
    afterFirst [x] (before ++ x :: after) = some after :=
  afterFirst_append (List.cons_ne_nil x []) fun hin =>
    h (by simpa using hin.subset (List.mem_singleton_self x))

theorem afterFirst_singleton_of_not_mem {x : α} (h : x ∉ before) :
    afterFirst [x] before = none := by
  induction before with
  | nil => rfl
  | cons y before ih =>
    obtain ⟨hne, hrest⟩ := not_or.1 (List.mem_cons.not.1 h)
    simp [afterFirst, afterFront, hne, ih hrest]

end Cuts

section Ends

variable {α : Type} {p : α → Bool}

theorem dropEndWhile_concat {x : α} (h : p x = false) :
    ∀ xs : List α, dropEndWhile p (xs ++ [x]) = xs ++ [x]
  | [] => by simp [dropEndWhile, h]
  | y :: xs => by
    rw [List.cons_append, dropEndWhile, dropEndWhile_concat h xs]
    cases xs <;> rfl

theorem dropEndWhile_append_of_ne_nil {ys : List α} (h : dropEndWhile p ys ≠ []) :
    ∀ xs : List α, dropEndWhile p (xs ++ ys) = xs ++ dropEndWhile p ys
  | [] => rfl
  | x :: xs => by
    rw [List.cons_append, dropEndWhile, dropEndWhile_append_of_ne_nil h xs]
    split
    next hnil => exact absurd (List.append_eq_nil_iff.1 hnil).2 h
    next => rfl

theorem dropEndWhile_append_of_nil {ys : List α} (h : dropEndWhile p ys = []) :
    ∀ xs : List α, dropEndWhile p (xs ++ ys) = dropEndWhile p xs
  | [] => h
  | x :: xs => by
    rw [List.cons_append, dropEndWhile, dropEndWhile, dropEndWhile_append_of_nil h xs]

/-- Behind an element that stays, the end is cut off as if there were nothing before. -/
theorem dropEndWhile_append {x : α} (hx : p x = false) (xs ys : List α) :
    dropEndWhile p (xs ++ x :: ys) = xs ++ x :: dropEndWhile p ys := by
  by_cases hys : dropEndWhile p ys = []
  · rw [show xs ++ x :: ys = (xs ++ [x]) ++ ys by simp, dropEndWhile_append_of_nil hys,
      dropEndWhile_concat hx, hys]
  · rw [show xs ++ x :: ys = (xs ++ [x]) ++ ys by simp, dropEndWhile_append_of_ne_nil hys]
    simp

theorem dropEndWhile_isPrefix : ∀ xs : List α, dropEndWhile p xs <+: xs
  | [] => List.prefix_rfl
  | x :: xs => by
    rw [dropEndWhile]
    split
    next hnil =>
      split
      · exact List.nil_prefix
      · exact List.prefix_cons_inj x |>.2 List.nil_prefix
    next =>
      exact List.prefix_cons_inj x |>.2 (dropEndWhile_isPrefix xs)

end Ends

theorem skipBlank_cons_of_blank {x : Char} (h : isBlank x = true) (s : List Char) :
    skipBlank (x :: s) = skipBlank s := List.dropWhile_cons_of_pos h

theorem skipBlank_cons {x : Char} (h : isBlank x = false) (s : List Char) :
    skipBlank (x :: s) = x :: s := List.dropWhile_cons_of_neg (by simp [h])

/-- The two ends are trimmed in either order. -/
theorem skipBlank_dropBlankEnd (s : List Char) :
    skipBlank (dropBlankEnd s) = dropBlankEnd (skipBlank s) := by
  induction s with
  | nil => rfl
  | cons x s ih =>
    cases hx : isBlank x with
    | true =>
      rw [skipBlank_cons_of_blank hx, ← ih]
      unfold dropBlankEnd
      rw [dropEndWhile]
      split
      next hnil => simp [hx, hnil]
      next => rw [skipBlank_cons_of_blank hx]
    | false =>
      rw [skipBlank_cons hx]
      unfold dropBlankEnd
      rw [dropEndWhile]
      split
      · rw [hx, if_neg Bool.false_ne_true, skipBlank_cons hx]
      · rw [skipBlank_cons hx]

end Text

namespace Sql

open Text

/-! ## Comments one by one -/

theorem skipComments_of_none {s : List Char} (h : afterComment s = none) : skipComments s = s := by
  unfold skipComments
  split
  next rest hrest => cases h.symm.trans hrest
  next => rfl

theorem skipComments_of_some {s rest : List Char} (h : afterComment s = some rest) :
    skipComments s = skipComments (skipBlank rest) := by
  rw [skipComments]
  split
  next rest' hrest => rw [Option.some.inj (h.symm.trans hrest)]
  next hnone => cases h.symm.trans hnone

theorem skipComments_nil : skipComments [] = [] := skipComments_of_none rfl

/-- The marks that begin a comment of one line. -/
def lineMarks : List (List Char) := [['-', '-'], ['#']]

theorem mem_lineMarks {mark : List Char} : mark ∈ lineMarks ↔ mark = ['-', '-'] ∨ mark = ['#'] := by
  simp [lineMarks]

theorem newline_not_mem {mark text : List Char} (hm : mark ∈ lineMarks) (ht : '\n' ∉ text) :
    '\n' ∉ mark ++ text := by
  rcases mem_lineMarks.1 hm with rfl | rfl <;> simpa using ht

theorem afterComment_line {mark text rest : List Char} (hm : mark ∈ lineMarks)
    (ht : '\n' ∉ text) : afterComment (mark ++ (text ++ '\n' :: rest)) = some rest := by
  have hcut : afterFirst ['\n'] (mark ++ (text ++ '\n' :: rest)) = some rest := by
    rw [← List.append_assoc]
    exact afterFirst_singleton_append (newline_not_mem hm ht)
  unfold afterComment
  rw [hcut]
  rcases mem_lineMarks.1 hm with rfl | rfl <;> simp [blockOpen]

/-- A line comment without an end takes all. -/
theorem afterComment_endless {mark text : List Char} (hm : mark ∈ lineMarks)
    (ht : '\n' ∉ text) : afterComment (mark ++ text) = some [] := by
  unfold afterComment
  rw [afterFirst_singleton_of_not_mem (newline_not_mem hm ht)]
  rcases mem_lineMarks.1 hm with rfl | rfl <;> simp [blockOpen]

/-- Where the text holds no end of a comment, none comes about with the asterisk that follows. -/
theorem not_infix_concat {c : List Char} (h : ¬blockClose <:+: c) :
    ¬blockClose <:+: c ++ ['*'] := by
  rw [List.infix_concat_iff]
  rintro (⟨t, ht⟩ | hin)
  · have hlast := congrArg List.getLast? ht
    simp [blockClose] at hlast
  · exact h hin

theorem afterFirst_blockClose {c : List Char} (h : ¬blockClose <:+: c) (s : List Char) :
    afterFirst blockClose (c ++ (blockClose ++ s)) = some s :=
  afterFirst_append (by simp [blockClose]) (by
    rw [blockClose, List.dropLast_append_of_ne_nil (by simp)]
    exact not_infix_concat h)

/-- A block comment ends at the first mark behind its opening, unless its text begins with a slash:
then it ends right there. -/
theorem afterComment_block {c : List Char} (h : ¬blockClose <:+: c) (s : List Char) :
    afterComment (blockOpen ++ (c ++ (blockClose ++ s))) =
      some (if c.head? = some '/' then c.tail ++ (blockClose ++ s) else s) := by
  have hopen : blockOpen <+: blockOpen ++ (c ++ (blockClose ++ s)) := List.prefix_append _ _
  unfold afterComment
  rw [if_pos hopen]
  split
  next hslash =>
    obtain ⟨rest, rfl⟩ := List.head?_eq_some_iff.1 hslash
    simp [blockOpen, blockClose, afterFirst, afterFront]
  next hslash =>
    rw [← List.append_assoc]
    refine afterFirst_blockClose ?_ s
    simp only [blockOpen, List.cons_append, List.nil_append, List.infix_cons_iff]
    rintro (hp | hp | hin)
    · simp [blockClose] at hp
    · cases c with
      | nil => simp [blockClose] at hp
      | cons x rest =>
        refine hslash ?_
        simpa [blockClose, eq_comm] using hp
    · exact h hin

/-! ## Statements behind comments -/

theorem body_eq (s : List Char) : body s =
    dropBlankEnd (dropEndWhile (· = ';') (skipComments (skipBlank (dropBlankEnd s)))) := by
  rw [skipBlank_dropBlankEnd]
  rfl

theorem dropBlankEnd_blockClose (t s : List Char) :
    dropBlankEnd (t ++ (blockClose ++ s)) = t ++ (blockClose ++ dropBlankEnd s) := by
  have hclose := dropEndWhile_append (p := isBlank) (x := '/') (by decide) (t ++ ['*']) s
  simpa [blockClose, dropBlankEnd] using hclose

theorem body_blank {x : Char} (hx : isBlank x = true) (s : List Char) :
    body (x :: s) = body s := by
  unfold body Text.trim
  rw [skipBlank_cons_of_blank hx]

/-- What a comment at the front leaves to be read. -/
theorem body_comment {x y : Char} {front : List Char} {left : List Char → List Char}
    (hx : isBlank x = false) (hy : isBlank y = false)
    (hleft : ∀ s, afterComment (x :: front ++ y :: s) = some (left s))
    (htrim : ∀ s, dropBlankEnd (left s) = left (dropBlankEnd s)) (s : List Char) :
    body (x :: front ++ y :: s) = body (left s) := by
  have hend : dropBlankEnd (x :: front ++ y :: s) = x :: front ++ y :: dropBlankEnd s :=
    dropEndWhile_append hy (x :: front) s
  rw [body_eq, body_eq, hend, List.cons_append, skipBlank_cons hx, ← List.cons_append,
    skipComments_of_some (hleft _), htrim]

theorem body_block {c : List Char} (h : ¬blockClose <:+: c) (s : List Char) :
    body (blockOpen ++ (c ++ (blockClose ++ s))) =
      body (if c.head? = some '/' then c.tail ++ (blockClose ++ s) else s) := by
  have hblock (t : List Char) : '/' :: ('*' :: c ++ ['*']) ++ '/' :: t =
      blockOpen ++ (c ++ (blockClose ++ t)) := by
    simp [blockOpen, blockClose]
  have hleft (t : List Char) : afterComment ('/' :: ('*' :: c ++ ['*']) ++ '/' :: t) =
      some (if c.head? = some '/' then c.tail ++ (blockClose ++ t) else t) := by
    rw [hblock]
    exact afterComment_block h t
  rw [← hblock]
  refine body_comment (by decide) (by decide) hleft ?_ s
  intro t
  split
  · exact dropBlankEnd_blockClose _ _
  · rfl

section Lines

variable {mark text : List Char} (hm : mark ∈ lineMarks)

include hm

theorem skipBlank_lineMark (t : List Char) : skipBlank (mark ++ t) = mark ++ t := by
  rcases mem_lineMarks.1 hm with rfl | rfl <;> exact skipBlank_cons (by decide) _

theorem dropBlankEnd_lineMark (t : List Char) :
    dropBlankEnd (mark ++ t) = mark ++ dropBlankEnd t := by
  rcases mem_lineMarks.1 hm with rfl | rfl
  · exact dropEndWhile_append (x := '-') (by decide) ['-'] t
  · exact dropEndWhile_append (x := '#') (by decide) [] t

/-- A line comment without an end leaves nothing. -/
theorem body_endless (ht : '\n' ∉ text) : body (mark ++ text) = [] := by
  have hend : '\n' ∉ dropBlankEnd text := fun h => ht ((dropEndWhile_isPrefix text).subset h)
  rw [body_eq, dropBlankEnd_lineMark hm, skipBlank_lineMark hm,
    skipComments_of_some (afterComment_endless hm hend), skipBlank, List.dropWhile_nil,
    skipComments_nil]
  rfl

/-- A line comment leaves what stands behind its line. -/
theorem body_line (ht : '\n' ∉ text) (s : List Char) :
    body (mark ++ (text ++ '\n' :: s)) = body s := by
  by_cases hs : dropBlankEnd s = []
  · have hblank : dropEndWhile isBlank ('\n' :: s) = [] := by
      rw [dropEndWhile, show dropEndWhile isBlank s = [] from hs]
      rfl
    have hline : dropBlankEnd (text ++ '\n' :: s) = dropBlankEnd text :=
      dropEndWhile_append_of_nil hblank text
    rw [body_eq, dropBlankEnd_lineMark hm, hline, ← dropBlankEnd_lineMark hm, ← body_eq,
      body_endless hm ht, body_eq, hs, skipBlank, List.dropWhile_nil, skipComments_nil]
    rfl
  · have hkept : dropEndWhile isBlank ('\n' :: s) = '\n' :: dropBlankEnd s := by
      rw [dropEndWhile]
      split
      next hnil => exact absurd hnil hs
      next => rfl
    have hline : dropBlankEnd (text ++ '\n' :: s) = text ++ '\n' :: dropBlankEnd s := by
      rw [← hkept]
      exact dropEndWhile_append_of_ne_nil (by simp [hkept]) text
    rw [body_eq, dropBlankEnd_lineMark hm, hline, skipBlank_lineMark hm,
      skipComments_of_some (afterComment_line hm ht), body_eq]

end Lines

/-- What stands between the early end of a block comment and its mark is all blanks and comments
again, and the mark ends the last of these. -/
inductive Reopens : List Char → Prop
  | block {rest : List Char} (h : blockOpen <+: rest ++ blockClose) : Reopens rest
  | blank {x : Char} {rest : List Char} (hx : isBlank x = true) (h : Reopens rest) :
      Reopens (x :: rest)
  | line {mark text rest : List Char} (hm : mark ∈ lineMarks) (ht : '\n' ∉ text)
      (h : Reopens rest) : Reopens (mark ++ (text ++ '\n' :: rest))

/-- A further opening that the mark ends. A lone slash makes an opening together with the mark, and
ends it itself. -/
theorem body_reopened {rest : List Char} (h : blockOpen <+: rest ++ blockClose)
    (hfree : ¬blockClose <:+: rest) (s : List Char) :
    body (rest ++ (blockClose ++ s)) = body s := by
  match rest with
  | [] => simp [blockOpen, blockClose] at h
  | [x] =>
    obtain ⟨rfl, -⟩ : x = '/' ∧ _ := by simpa [blockOpen, eq_comm] using h
    have hleft (t : List Char) : afterComment ('/' :: ['*'] ++ '/' :: t) = some t := by
      simp [afterComment, blockOpen, blockClose, afterFirst, afterFront]
    exact body_comment (by decide) (by decide) hleft (fun t => rfl) s
  | x :: y :: rest =>
    obtain ⟨rfl, rfl⟩ : x = '/' ∧ y = '*' := by simpa [blockOpen, eq_comm] using h
    have hrest : ¬blockClose <:+: rest := fun hin =>
      hfree (hin.trans (List.suffix_append ['/', '*'] rest).isInfix)
    have hslash : rest.head? ≠ some '/' := by
      intro hhead
      obtain ⟨more, rfl⟩ := List.head?_eq_some_iff.1 hhead
      exact hfree ⟨['/'], more, rfl⟩
    have hblock := body_block hrest s
    rwa [if_neg hslash] at hblock

theorem Reopens.body_eq {rest : List Char} (h : Reopens rest) (hfree : ¬blockClose <:+: rest)
    (s : List Char) : body (rest ++ (blockClose ++ s)) = body s := by
  induction h with
  | block h => exact body_reopened h hfree s
  | blank hx _ ih =>
    rw [List.cons_append, body_blank hx]
    exact ih fun hin => hfree (hin.trans (List.suffix_cons _ _).isInfix)
  | @line mark text rest hm ht _ ih =>
    rw [List.append_assoc, List.append_assoc, List.cons_append, body_line hm ht]
    refine ih fun hin => hfree (hin.trans ?_)
    exact ⟨mark ++ (text ++ ['\n']), [], by simp⟩

/-- Where no comment begins in front of the mark, all is a part of the statement. -/
theorem afterComment_eq_none {rest : List Char} (hblock : ¬blockOpen <+: rest ++ blockClose)
    (hline : ∀ mark ∈ lineMarks, ¬mark <+: rest) (s : List Char) :
    afterComment (rest ++ (blockClose ++ s)) = none := by
  have hopen : ¬blockOpen <+: rest ++ (blockClose ++ s) := fun h => by
    rw [← List.append_assoc] at h
    exact hblock (List.prefix_of_prefix_length_le h (List.prefix_append _ s) (by
      simp [blockOpen, blockClose]))
  have hmarks : ¬(['-', '-'] <+: rest ++ (blockClose ++ s) ∨
      ['#'] <+: rest ++ (blockClose ++ s)) := by
    rintro (h | h)
    · refine hline ['-', '-'] (by decide) ?_
      rcases rest with _ | ⟨x, _ | ⟨y, rest⟩⟩
      · simp [blockClose] at h
      · simp [blockClose] at h
      · simpa using h
    · refine hline ['#'] (by decide) ?_
      rcases rest with _ | ⟨x, rest⟩
      · simp [blockClose] at h
      · simpa using h
  unfold afterComment
  rw [if_neg hopen, if_neg hmarks]

/-- What becomes of the text between the early end of a block comment and its mark. -/
inductive Ending (rest : List Char) : Prop
  /-- It ends in a comment again. -/
  | comment (h : Reopens rest)
  /-- It begins the statement, after some comments. -/
  | statement (r : List Char) (h : ∀ s, body (rest ++ (blockClose ++ s)) =
      dropBlankEnd (dropEndWhile (· = ';') (r ++ (blockClose ++ dropBlankEnd s))))
  /-- Its last line is skipped, together with what follows the mark. -/
  | lost (h : ∀ s, '\n' ∉ s → body (rest ++ (blockClose ++ s)) = [])

/-- Where something is skipped, all depends on what is left. -/
theorem Ending.of_skipped {rest more : List Char} (h : Ending more)
    (skipped : ∀ s, body (rest ++ (blockClose ++ s)) = body (more ++ (blockClose ++ s)))
    (hre : Reopens more → Reopens rest) : Ending rest := by
  cases h with
  | comment h => exact .comment (hre h)
  | statement r h => exact .statement r fun s => (skipped s).trans (h s)
  | lost h => exact .lost fun s hs => (skipped s).trans (h s hs)

theorem ending_of_statement {rest : List Char} (hblank : ∀ s, skipBlank
    (rest ++ (blockClose ++ s)) = rest ++ (blockClose ++ s))
    (hblock : ¬blockOpen <+: rest ++ blockClose) (hline : ∀ mark ∈ lineMarks, ¬mark <+: rest) :
    Ending rest := by
  refine .statement rest fun s => ?_
  rw [body_eq, dropBlankEnd_blockClose, hblank,
    skipComments_of_none (afterComment_eq_none hblock hline _)]

theorem ending : (rest : List Char) → Ending rest
  | [] => ending_of_statement (fun s => skipBlank_cons (by decide) _) (by decide) (by decide)
  | x :: rest => by
    cases hx : isBlank x with
    | true => exact (ending rest).of_skipped (fun s => body_blank hx _) (.blank hx)
    | false =>
      by_cases hblock : blockOpen <+: x :: rest ++ blockClose
      · exact .comment (.block hblock)
      by_cases hline : ∃ mark ∈ lineMarks, mark <+: x :: rest
      · obtain ⟨mark, hm, text, htext⟩ := hline
        by_cases hend : '\n' ∈ text
        · obtain ⟨line, more, rfl, hfree⟩ := List.eq_append_cons_of_mem hend
          have hshort : more.length < (x :: rest).length := by
            rw [← htext]
            simp
            omega
          refine (ending more).of_skipped ?_ fun h => htext ▸ .line hm hfree h
          intro s
          rw [← htext]
          simpa using body_line hm hfree (more ++ (blockClose ++ s))
        · refine .lost fun s hs => ?_
          rw [← htext, List.append_assoc]
          exact body_endless hm (by simp [blockClose, hend, hs])
      · exact ending_of_statement (fun s => skipBlank_cons hx _) hblock fun mark hm h =>
          hline ⟨mark, hm, h⟩
termination_by rest => rest.length
decreasing_by
  · exact hshort
  · exact Nat.lt_succ_self _

/-- Two statements of which the same is told: whether they only read, and what they do to a
transaction. -/
def Alike (s t : String) : Prop := isRead s = isRead t ∧ transactionEffect s = transactionEffect t

theorem alike_of_body {s t : String} (h : body s.toList = body t.toList) : Alike s t := by
  unfold Alike isRead transactionEffect readsOnly transactionAfter
  rw [h]
  exact ⟨rfl, rfl⟩

/-! ## Reads have no part in transactions -/

theorem capitals_of_isAlpha {x : Char} (h : x.isAlpha = true) : capitals x = [x.toUpper] := by
  have hascii : x.toNat < 128 := by
    rcases Bool.or_eq_true_iff.1 h with hupper | hlower
    · have hle : x.val ≤ 'Z'.val := (of_decide_eq_true hupper).2
      exact (UInt32.le_iff_toNat_le.1 hle).trans_lt (by decide)
    · have hle : x.val ≤ 'z'.val := of_decide_eq_true (Bool.and_eq_true_iff.1 hlower).2
      exact (UInt32.le_iff_toNat_le.1 hle).trans_lt (by decide)
  unfold capitals
  split <;> first | rfl | omega

theorem keyword_prefix_upper (s : List Char) : keyword s <+: upper s := by
  induction s with
  | nil => exact List.nil_prefix
  | cons x s ih =>
    unfold keyword upper at *
    rw [List.takeWhile_cons]
    split
    next hx =>
      rw [List.map_cons, List.flatMap_cons, capitals_of_isAlpha hx]
      exact List.prefix_cons_inj _ |>.2 ih
    next => exact List.nil_prefix

theorem keyword_append_blockClose (r s : List Char) :
    keyword (r ++ (blockClose ++ s)) = keyword r := by
  unfold keyword
  congr 1
  induction r with
  | nil => rfl
  | cons x r ih => rw [List.cons_append, List.takeWhile_cons, List.takeWhile_cons, ih]

/-- How statements begin that have an effect on a transaction. -/
def transactionStarts : List (List Char) :=
  ["START TRANSACTION".toList, "BEGIN".toList, "BEGIN ".toList, "COMMIT".toList,
    "ROLLBACK".toList]

/-- A statement that begins with a word for reading has no effect on a transaction. -/
theorem transactionAfter_of_keyword {s : List Char} (h : keyword (body s) ∈ readingWords) :
    transactionAfter s = none := by
  have hword := keyword_prefix_upper (body s)
  have apart : ∀ word ∈ readingWords, ∀ start ∈ transactionStarts,
      ¬word <+: start ∧ ¬start <+: word := by
    decide
  have free {start : List Char} (hm : start ∈ transactionStarts) : ¬start <+: upper (body s) :=
    fun hp => (List.prefix_or_prefix_of_prefix hword hp).elim (apart _ h _ hm).1 (apart _ h _ hm).2
  unfold transactionAfter
  rw [if_neg, if_neg]
  · rintro (hc | hr)
    · exact free (by decide) hc
    · exact free (by decide) hr
  · rintro (hs | hb | hb)
    · exact free (by decide) hs
    · exact free (by decide : "BEGIN".toList ∈ _) (hb ▸ List.prefix_rfl)
    · exact free (by decide) hb

/-! ## What is told of a commented statement -/

section Commented

variable {c : String}

theorem toList_block (c s : String) :
    ("/*" ++ c ++ "*/" ++ s).toList = blockOpen ++ (c.toList ++ (blockClose ++ s.toList)) := by
  simp [blockOpen, blockClose]

theorem alike_block (h : ¬blockClose <:+: c.toList)
    (hslash : c.toList.head? = some '/' → Reopens c.toList.tail) (s : String) :
    Alike ("/*" ++ c ++ "*/" ++ s) s := by
  refine alike_of_body ?_
  rw [toList_block, body_block h]
  split
  next hhead =>
    refine (hslash hhead).body_eq (fun hin => h ?_) s.toList
    exact hin.trans (List.tail_suffix _).isInfix
  next => rfl

/-- The two statements that tell where a block comment has not ended at its mark. -/
theorem reopens_of_alike (h : ¬blockClose <:+: c.toList)
    (halike : ∀ s, Alike ("/*" ++ c ++ "*/" ++ s) s) (hhead : c.toList.head? = some '/') :
    Reopens c.toList.tail := by
  have left (s : String) : body ("/*" ++ c ++ "*/" ++ s).toList =
      body (c.toList.tail ++ (blockClose ++ s.toList)) := by
    rw [toList_block, body_block h, if_pos hhead]
  have hread : isRead ("/*" ++ c ++ "*/" ++ "SELECT") = true :=
    (halike "SELECT").1.trans (by decide +kernel)
  have hbegin : transactionEffect ("/*" ++ c ++ "*/" ++ "BEGIN") = some true :=
    (halike "BEGIN").2.trans (by decide +kernel)
  cases ending c.toList.tail with
  | comment hre => exact hre
  | statement r hr =>
    have front (s : String) : keyword (body ("/*" ++ c ++ "*/" ++ s).toList) = keyword r := by
      have hkept {p : Char → Bool} (hp : p '/' = false) (t : List Char) :
          dropEndWhile p (r ++ (blockClose ++ t)) = r ++ (blockClose ++ dropEndWhile p t) := by
        simpa [blockClose] using dropEndWhile_append hp (r ++ ['*']) t
      unfold dropBlankEnd at hr
      rw [left, hr, hkept (by decide), hkept (by decide), keyword_append_blockClose]
    have hword : keyword (body ("/*" ++ c ++ "*/" ++ "SELECT").toList) ∈ readingWords :=
      List.contains_iff_mem.1 (Bool.and_eq_true_iff.1 hread).1
    rw [front, ← front "BEGIN"] at hword
    exact absurd (hbegin.symm.trans (transactionAfter_of_keyword hword)) (by decide)
  | lost hnone =>
    have hempty : body ("/*" ++ c ++ "*/" ++ "SELECT").toList = [] := by
      rw [left]
      exact hnone _ (by decide)
    unfold isRead readsOnly at hread
    rw [hempty] at hread
    exact absurd hread (by decide)

/-- The same is told of a statement behind a comment as of the statement alone. For a block comment
this fails if its text begins with a slash, unless the rest of the text is made up of comments. -/
theorem leading_comments_alike_iff (c : String) :
    (¬blockClose <:+: c.toList → ((∀ s, Alike ("/*" ++ c ++ "*/" ++ s) s) ↔
      (c.toList.head? = some '/' → Reopens c.toList.tail))) ∧
    ('\n' ∉ c.toList → ∀ s, Alike ("-- " ++ c ++ "\n" ++ s) s ∧
      Alike ("#" ++ c ++ "\n" ++ s) s) := by
  refine ⟨fun h => ⟨reopens_of_alike h, alike_block h⟩, ?_⟩
  intro h s
  constructor
  · refine alike_of_body ?_
    have hmark : ['-', '-'] ∈ lineMarks := by decide
    have hspace : '\n' ∉ ' ' :: c.toList := by simpa
    simpa using body_line hmark hspace s.toList
  · refine alike_of_body ?_
    have hmark : ['#'] ∈ lineMarks := by decide
    simpa using body_line hmark h s.toList

/-- The slash ends the first comment, and the mark a second one. -/
theorem comment_in_comment_alike : ¬blockClose <:+: "/ /* app=web ".toList ∧
    '\n' ∉ "/ /* app=web ".toList ∧ (∀ s, Alike ("/*" ++ "/ /* app=web " ++ "*/" ++ s) s) ∧
    ∀ s, Alike ("-- " ++ "/ /* app=web " ++ "\n" ++ s) s ∧
      Alike ("#" ++ "/ /* app=web " ++ "\n" ++ s) s := by
  have hblock : ¬blockClose <:+: "/ /* app=web ".toList := by decide +kernel
  have hline : '\n' ∉ "/ /* app=web ".toList := by decide +kernel
  have hre : Reopens "/ /* app=web ".toList.tail :=
    .blank (x := ' ') (by decide) (.block (by decide))
  obtain ⟨hiff, hlines⟩ := leading_comments_alike_iff "/ /* app=web "
  exact ⟨hblock, hline, (hiff hblock).2 fun _ => hre, hlines hline⟩

/-- The text of a block comment makes the write behind it a read. -/
theorem comment_hides_write : ¬∀ c s : String, ¬blockClose <:+: c.toList →
    ¬['!'] <+: c.toList → ¬['M', '!'] <+: c.toList → Alike ("/*" ++ c ++ "*/" ++ s) s := by
  intro claim
  have halike := claim "/ SELECT 1 " "DELETE FROM t" (by decide +kernel) (by decide +kernel)
    (by decide +kernel)
  have hread : isRead ("/*" ++ "/ SELECT 1 " ++ "*/" ++ "DELETE FROM t") = true := by
    decide +kernel
  have hwrite : isRead "DELETE FROM t" = false := by decide +kernel
  cases hread.symm.trans (halike.1.trans hwrite)

end Commented

end Sql

end Failover
