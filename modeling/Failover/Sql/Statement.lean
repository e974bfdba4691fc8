import Failover.Text.Blank
import Failover.Text.Case
import Failover.Text.Cut

/-!
# What a statement does

Whether a statement only reads and whether it opens or ends a transaction is told from its text:
leading comments, trailing semicolons and the blanks around them are skipped, then the first words
decide. A statement with the word INTO writes somewhere, so it never counts as a read.
-/

namespace Failover.Sql

open Text

def blockOpen : List Char := ['/', '*']
def blockClose : List Char := ['*', '/']

/-- What follows a comment at the very front. A block comment that does not end is no comment; a
line comment without a line end takes all. -/
def afterComment (s : List Char) : Option (List Char) :=
  if blockOpen <+: s then afterFirst blockClose s
  else if ['-', '-'] <+: s ∨ ['#'] <+: s then some ((afterFirst ['\n'] s).getD [])
  else none

theorem length_afterFront {front s rest : List Char} (h : afterFront front s = some rest) :
    rest.length = s.length - front.length := by
  simp only [afterFront] at h
  split at h <;> simp_all
  rw [← h]; simp

theorem length_afterFirst {mark s rest : List Char} (hm : mark ≠ [])
    (h : afterFirst mark s = some rest) : rest.length < s.length := by
  induction s with
  | nil => simp [afterFirst, hm] at h
  | cons c s ih =>
    simp only [afterFirst] at h
    cases hf : afterFront mark (c :: s) with
    | some r =>
      have := length_afterFront hf
      have := List.length_pos_iff.2 hm
      simp_all
      omega
    | none =>
      simp only [hf, Option.orElse_none] at h
      have := ih h
      simp only [List.length_cons]
      omega

theorem length_afterComment {s rest : List Char} (h : afterComment s = some rest) :
    rest.length < s.length := by
  simp only [afterComment] at h
  split at h
  · exact length_afterFirst (by simp [blockClose]) h
  · split at h
    next hs =>
      have hpos : 0 < s.length := by
        rcases hs with hs | hs <;> have := hs.length_le <;> simp at this <;> omega
      cases ha : afterFirst ['\n'] s with
      | none => simp_all
      | some r =>
        have := length_afterFirst (by simp) ha
        simp_all
    · simp at h

theorem length_skipBlank_le (s : List Char) : (skipBlank s).length ≤ s.length :=
  (List.dropWhile_sublist _).length_le

def skipComments (s : List Char) : List Char :=
  match h : afterComment s with
  | some rest =>
    have : (skipBlank rest).length < s.length :=
      Nat.lt_of_le_of_lt (length_skipBlank_le rest) (length_afterComment h)
    skipComments (skipBlank rest)
  | none => s
termination_by s.length

/-- The statement without leading comments, trailing semicolons and the blanks around them. -/
def body (s : List Char) : List Char :=
  dropBlankEnd (dropEndWhile (· = ';') (skipComments (trim s)))

def readingWords : List (List Char) :=
  [['S', 'E', 'L', 'E', 'C', 'T'], ['S', 'H', 'O', 'W'], ['D', 'E', 'S', 'C', 'R', 'I', 'B', 'E'],
    ['D', 'E', 'S', 'C'], ['E', 'X', 'P', 'L', 'A', 'I', 'N'], ['H', 'E', 'L', 'P']]

/-- The letters at the front, as capitals. -/
def keyword (s : List Char) : List Char := (s.takeWhile Char.isAlpha).map Char.toUpper

def readsOnly (s : List Char) : Bool :=
  readingWords.contains (keyword (body s))
    && !(words (body s)).any (sameLetters ['I', 'N', 'T', 'O'])

/-- Whether a transaction is open after the statement, for one that opens or ends it. A rollback
to a savepoint leaves it open. -/
def transactionAfter (s : List Char) : Option Bool :=
  let t := upper (body s)
  if "START TRANSACTION".toList <+: t ∨ t = "BEGIN".toList ∨ "BEGIN ".toList <+: t then some true
  else if "COMMIT".toList <+: t ∨ "ROLLBACK".toList <+: t then some (mentions " TO ".toList t)
  else none

/-- Check if a statement only reads data. -/
def isRead (sql : String) : Bool := readsOnly sql.toList

/-- Check if a statement opens, commits or rolls back a transaction. -/
def transactionEffect (sql : String) : Option Bool := transactionAfter sql.toList

end Failover.Sql
