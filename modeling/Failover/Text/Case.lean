/-!
# Letter case

Two texts match regardless of case when their ASCII letters do; all other characters have to be
the same. Upper casing also looks beyond ASCII, as far as an ASCII letter can come out of it: the
dotless i, the long s, the ligatures of f and s, and the letters that have no capital of their own.
-/

namespace Failover.Text

/-- Equal up to the case of ASCII letters. -/
def sameLetters (a b : List Char) : Bool := a.map Char.toLower == b.map Char.toLower

theorem sameLetters_refl (a : List Char) : sameLetters a a = true := by simp [sameLetters]

theorem sameLetters_comm (a b : List Char) : sameLetters a b = sameLetters b a := by
  simp only [sameLetters, Bool.beq_comm]

/-- The capitals of a character. Characters whose capitals hold no ASCII letter stand for
themselves. -/
def capitals (c : Char) : List Char :=
  match c.toNat with
  | 0x00DF => ['S', 'S']
  | 0x0131 => ['I']
  | 0x0149 => ['\u02BC', 'N']
  | 0x017F => ['S']
  | 0x01F0 => ['J', '\u030C']
  | 0x1E96 => ['H', '\u0331']
  | 0x1E97 => ['T', '\u0308']
  | 0x1E98 => ['W', '\u030A']
  | 0x1E99 => ['Y', '\u030A']
  | 0x1E9A => ['A', '\u02BE']
  | 0xFB00 => ['F', 'F']
  | 0xFB01 => ['F', 'I']
  | 0xFB02 => ['F', 'L']
  | 0xFB03 => ['F', 'F', 'I']
  | 0xFB04 => ['F', 'F', 'L']
  | 0xFB05 => ['S', 'T']
  | 0xFB06 => ['S', 'T']
  | _ => [c.toUpper]

def upper (s : List Char) : List Char := s.flatMap capitals

end Failover.Text
