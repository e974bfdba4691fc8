import Failover.Toml.Text

/-!
# Numbers and moments

An integer has 64 bits and may be written to the base 2, 8, 10 or 16. A real number has a
fraction, an exponent or both, and must not exceed the largest one of double precision. A moment
is a date, a time or both, with an offset if it has both. Underscores may stand between digits.
-/

namespace Failover.Toml

open Toml.Parser

/-- Digits of a kind, with single underscores between them. -/
def digitRun (isDigit : Char → Bool) : Parser (List Char) := do
  let first ← one isDigit
  let more ← manyOf (one isDigit <|> (char '_' *> one isDigit))
  return first :: more

def sign : Parser (Option Char) := Parser.optional (one fun c => c = '+' || c = '-')

/-- Decimal digits without a leading zero. -/
def decimalDigits : Parser (List Char) :=
  (do
    let first ← one fun c => c.isDigit && c ≠ '0'
    let more ← manyOf (one Char.isDigit <|> (char '_' *> one Char.isDigit))
    return first :: more)
  <|> List.singleton <$> one Char.isDigit

def inRange (n : Int) : Parser Int :=
  if Int64.minValue.toInt ≤ n ∧ n ≤ Int64.maxValue.toInt then pure n else failure

def integer : Parser Int := do
  let based (mark : Char) (base : Nat) (isDigit : Char → Bool) : Parser Int := do
    exactly ['0', mark]
    inRange (valueOfDigits base (← digitRun isDigit))
  let decimal : Parser Int := do
    let s ← sign
    let n := valueOfDigits 10 (← decimalDigits)
    inRange (if s = some '-' then -n else n)
  based 'x' 16 isHexDigit <|> based 'o' 8 (fun c => '0' ≤ c && c ≤ '7')
    <|> based 'b' 2 (fun c => c = '0' || c = '1') <|> decimal

/-- From here on a number is rounded beyond the largest one of double precision. -/
def overflowBound : Nat := Nat.pow 2 1024 - Nat.pow 2 970

/-- Whether `digits` times ten to the power of `exponent` is too large. -/
def overflows (digits : List Char) (exponent : Int) : Bool :=
  let digits := digits.dropWhile (· = '0')
  let magnitude := digits.length + exponent
  if digits = [] || magnitude < 300 then false
  else if 320 < magnitude then true
  else
    let n := valueOfDigits 10 digits
    if 0 ≤ exponent then overflowBound ≤ n * Nat.pow 10 exponent.toNat
    else overflowBound * Nat.pow 10 (-exponent).toNat ≤ n

def real : Parser Unit := do
  let s ← sign
  let infinite := exactly ['i', 'n', 'f'] <|> exactly ['n', 'a', 'n']
  let finite : Parser Unit := do
    let whole ← decimalDigits
    let exponent : Parser Int := do
      discard (one fun c => c = 'e' || c = 'E')
      let s ← sign
      let n := valueOfDigits 10 (← digitRun Char.isDigit)
      return if s = some '-' then -n else n
    let fraction := char '.' *> digitRun Char.isDigit
    let (part, power) ← (do return (← fraction, (← Parser.optional exponent).getD 0))
      <|> (do return ([], ← exponent))
    if s ≠ some '-' && overflows (whole ++ part) (power - part.length) then failure
  finite <|> infinite

/-- A number of so many digits, up to a bound. -/
def count (digits low high : Nat) : Parser Nat := do
  let n := valueOfDigits 10 (← times (one Char.isDigit) digits)
  if low ≤ n ∧ n ≤ high then return n else failure

def daysOf (year month : Nat) : Nat :=
  let isLeap := year % 4 = 0 ∧ (year % 100 ≠ 0 ∨ year % 400 = 0)
  if month = 2 then (if isLeap then 29 else 28)
  else if month = 4 ∨ month = 6 ∨ month = 9 ∨ month = 11 then 30
  else 31

def date : Parser Unit := do
  let year ← count 4 0 9999
  discard (char '-')
  let month ← count 2 1 12
  discard (char '-')
  discard (count 2 1 (daysOf year month))

def time : Parser Unit := do
  discard (count 2 0 23 *> char ':' *> count 2 0 59 *> char ':' *> count 2 0 60)
  discard (Parser.optional (char '.' *> oneOrMore (one Char.isDigit)))

def offset : Parser Unit :=
  discard (one fun c => c = 'Z' || c = 'z')
  <|> discard (one (fun c => c = '+' || c = '-') *> count 2 0 23 *> char ':' *> count 2 0 59)

def moment : Parser Unit :=
  (do
    date
    discard (Parser.optional (do
      discard (one fun c => c = 'T' || c = 't' || c = ' ')
      time
      discard (Parser.optional offset))))
  <|> time

end Failover.Toml
