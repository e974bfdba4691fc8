import Failover.Text.Printable

/-!
# Quoted texts

A quoted text stands between double quotes. Quotes, backslashes and the usual controls in it are
escaped by a letter, and any other character that does not show by itself by its code point.
-/

namespace Failover.Text

/-- The digits of a number to the base 16. -/
def hexDigits (n : Nat) : List Char := Nat.toDigits 16 n

def escape (c : Char) : List Char :=
  match c with
  | '\x00' => ['\x5c', '0']
  | '\t' => ['\x5c', 't']
  | '\r' => ['\x5c', 'r']
  | '\n' => ['\x5c', 'n']
  | '\x22' => ['\x5c', '\x22']
  | '\x5c' => ['\x5c', '\x5c']
  | _ =>
    if isPrintable c then [c]
    else ['\x5c', 'u', '\x7b'] ++ hexDigits c.toNat ++ ['\x7d']

def quoted (s : String) : String :=
  String.ofList (['\x22'] ++ s.toList.flatMap escape ++ ['\x22'])

end Failover.Text
