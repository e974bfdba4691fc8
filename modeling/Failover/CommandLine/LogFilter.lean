import Failover.Text.Alphanumeric
import Failover.Text.Blank
import Failover.Text.Case
import Failover.CommandLine.Pattern

/-!
# The filter of the log

A filter is a list of directives with commas between them. A directive is a level, or what it is
about with or without a level behind an equals sign: a target, a span in brackets, or both. A span
may have a field in braces, whose value is a number or a pattern. One that cannot be read is left
out with a note, and the others stay.

The blanks around a directive do not count for its form. Its level and its field are read from the
directive as it is written, though, at their distance from its first character that is no blank:
behind a blank in front they come out wrong.
-/

namespace Failover.CommandLine

open Text

inductive DirectiveFault
  | malformed
  | unknownLevel
  | badPattern (fault : PatternFault)
  deriving DecidableEq, Repr

def DirectiveFault.text : DirectiveFault → String
  | malformed => "invalid filter directive"
  | unknownLevel =>
    "error parsing level filter: expected one of \"off\", \"error\", \"warn\", \"info\", "
      ++ "\"debug\", \"trace\", or a number 0-5"
  | badPattern fault => s!"invalid field filter: {fault.text}"

namespace LogFilter

def byteSize (s : List Char) : Nat := s.foldl (· + ·.utf8Size) 0

/-- Cuts a text behind so many bytes, or behind the character that they end in. -/
def splitBytes : Nat → List Char → List Char × List Char
  | _, [] => ([], [])
  | n, c :: rest =>
    if n = 0 then ([], c :: rest)
    else
      let (front, back) := splitBytes (n - c.utf8Size) rest
      (c :: front, back)

theorem append_splitBytes (n : Nat) (s : List Char) :
    (splitBytes n s).1 ++ (splitBytes n s).2 = s := by
  induction s generalizing n with
  | nil => rfl
  | cons c rest ih =>
    rw [splitBytes]
    split
    · rfl
    · simp [ih]

/-- A level is a name in any case or a number up to five, which a plus sign may precede. -/
def isLevel (s : List Char) : Bool :=
  let digits := match s with
    | '+' :: rest => rest
    | _ => s
  let names := ["off", "error", "warn", "info", "debug", "trace"]
  names.any (fun name => sameLetters name.toList s)
    || (digits ≠ [] && digits.all Char.isDigit
      && (digits.dropWhile (· = '0') = []
        || ["1", "2", "3", "4", "5"].contains (String.ofList (digits.dropWhile (· = '0')))))

/-- A decimal number without a sign, or the name of infinity or of no number. -/
def isNumber (s : List Char) : Bool :=
  let whole := s.takeWhile Char.isDigit
  let rest := s.dropWhile Char.isDigit
  let behindPoint := if rest.head? = some '.' then rest.drop 1 else []
  let fraction := behindPoint.takeWhile Char.isDigit
  let exponent := if rest.head? = some '.' then behindPoint.dropWhile Char.isDigit else rest
  let isExponent : List Char → Bool
    | [] => true
    | e :: power =>
      let digits := if power.head? ∈ [some '+', some '-'] then power.drop 1 else power
      e.toLower = 'e' && digits ≠ [] && digits.all Char.isDigit
  ["inf", "infinity", "nan"].any (fun name => sameLetters name.toList s)
    || ((whole ≠ [] || fraction ≠ []) && isExponent exponent)

/-- A number that is no pattern has a plus sign. -/
def checkValue (s : List Char) : Except PatternFault Unit :=
  match s with
  | '+' :: number => if isNumber number then .ok () else checkPattern s
  | _ => checkPattern s

/-- The value of a field stands between the first two equals signs. -/
def checkField (s : List Char) : Except PatternFault Unit :=
  match pieces '=' s with
  | _ :: value :: _ => checkValue value
  | _ => .ok ()

section

variable (written : List Char)

/-- What is written as far from the start as `rest` stands in the directive without blanks. -/
def writtenAt (rest : List Char) : List Char :=
  (splitBytes (byteSize (trim written) - byteSize rest) written).2

/-- What stands behind the equals sign. Without a level all levels are meant. -/
def checkLevel (level : List Char) : Except DirectiveFault Unit :=
  if writtenAt written level = [] ∨ isLevel (writtenAt written level) then .ok ()
  else .error .unknownLevel

/-- What stands behind a span. -/
def checkRest : List Char → Except DirectiveFault Unit
  | [] => .ok ()
  | '=' :: level => checkLevel written level
  | _ => .error .malformed

/-- A span from behind its opening bracket on. -/
def checkSpan (s : List Char) : Except DirectiveFault Unit :=
  match s.dropWhile fun c => c ≠ ']' ∧ c ≠ '\x7b' with
  | ']' :: rest => checkRest written rest
  | '\x7b' :: s =>
    match cut '\x7d' s with
    | none | some ([], _) => .error .malformed
    | some (field, rest) =>
      match checkField (splitBytes (byteSize field) (writtenAt written s)).1, rest with
      | .error fault, _ => .error (.badPattern fault)
      | .ok (), ']' :: rest => checkRest written rest
      | .ok (), _ => .error .malformed
  | _ => .error .malformed

def checkDirective : Except DirectiveFault Unit :=
  match trim written with
  | '[' :: span => checkSpan written span
  | c :: rest =>
    if isAlphanumeric c ∨ c ∈ ['-', ':', '_'] then
      match rest.dropWhile fun c => c ≠ '=' ∧ c ≠ '[' with
      | '=' :: level => checkLevel written level
      | '[' :: span => checkSpan written span
      | _ => .ok ()
    else .error .malformed
  | [] => .error .malformed

end

/-- A note on each directive that cannot be read. -/
def notes (filter : String) : List String :=
  (pieces ',' filter.toList).filterMap fun directive =>
    if directive = [] then none
    else
      match checkDirective directive with
      | .ok () => none
      | .error fault => some s!"ignoring `{String.ofList directive}`: {fault.text}"

end LogFilter

end Failover.CommandLine
