import Failover.Text.Alphanumeric
import Failover.Text.Blank
import Failover.Text.Cut

/-!
# Patterns

A pattern is a regular expression: characters, classes in brackets, groups in parentheses,
alternatives between bars, and repetitions behind what they repeat. Flags decide how a group is
read from there on. There are no tables of characters beyond ASCII: unless the flag for them is
off, letter case has to count and no class is known by a letter. Without that flag a class may
only hold ASCII characters. Braces cannot count a repetition, since a pattern is written where the
first closing brace ends it.

A pattern is matched in one pass, which cannot tell where a word of any characters starts or ends.
-/

namespace Failover.CommandLine

open Text

inductive PatternFault
  | malformed
  | wordBoundary
  deriving DecidableEq, Repr

def PatternFault.text : PatternFault → String
  | malformed => "error building NFA"
  | wordBoundary =>
    "unsupported regex feature for DFAs: cannot build DFAs for regexes with Unicode word "
      ++ "boundaries; switch to ASCII word boundaries, or heuristically enable Unicode word "
      ++ "boundaries or use a different regex engine"

namespace Pattern

/-! ## Flags -/

structure Flags where
  /-- Letter case does not count. -/
  caseless : Bool := false
  /-- Classes and words are of all characters, not only of ASCII. -/
  unicode : Bool := true
  /-- Blanks and comments do not count. -/
  spaced : Bool := false
  deriving DecidableEq, Repr

/-- Drops blanks, and comments from a number sign to the end of the line. -/
def skipComments : (inside : Bool) → List Char → List Char
  | _, [] => []
  | true, c :: rest => skipComments (c ≠ '\n') rest
  | false, c :: rest =>
    if isBlank c then skipComments false rest
    else if c = '#' then skipComments true rest
    else c :: rest

namespace Flags

def skip (f : Flags) (s : List Char) : List Char := if f.spaced then skipComments false s else s

/-- The flags before a hyphen are on, those behind it off, and the others stay. -/
def changed (f : Flags) (letters : List Char) : Flags :=
  let on := letters.takeWhile (· ≠ '-')
  let value (c : Char) (old : Bool) := if c ∈ letters then decide (c ∈ on) else old
  { caseless := value 'i' f.caseless
    unicode := value 'u' f.unicode
    spaced := value 'x' f.spaced }

/-- Whether a character may be matched. One by its code is a byte without the tables. -/
def takes (f : Flags) (c : Char) (byCode : Bool) : Bool :=
  if f.unicode then !f.caseless else c.toNat < 0x80 || !(byCode || f.caseless)

/-- Whether a character may belong to a class. -/
def takesMember (f : Flags) (c : Char) : Bool :=
  if f.unicode then !f.caseless else c.toNat < 0x80

/-- Whether a class known by a letter may be matched. -/
def takesKind (f : Flags) (negated : Bool) : Bool := !f.unicode && !negated

/-- Whether a class known by a name may belong to a class. -/
def takesNamed (f : Flags) (negated : Bool) : Bool :=
  if f.unicode then !f.caseless else !negated

end Flags

/-- Flags are given once each, on or behind one hyphen off. -/
def areFlags (letters : List Char) : Bool :=
  letters.all (· ∈ ['-', 'i', 'm', 's', 'U', 'u', 'R', 'x']) && letters.Nodup
    && letters.getLast? ≠ some '-'

/-! ## Escapes -/

inductive Escaped
  | literal (c : Char) (byCode : Bool)
  | kind (negated : Bool)
  | edge
  | wordBoundary
  deriving DecidableEq, Repr

def hexValue? (c : Char) : Option Nat :=
  if c.isDigit then some (c.toNat - '0'.toNat)
  else if 'a' ≤ c.toLower ∧ c.toLower ≤ 'f' then some (c.toLower.toNat - 'a'.toNat + 10)
  else none

/-- A character by so many digits of its code point. -/
def coded? (digits : Nat) (s : List Char) : Option (Char × List Char) := do
  let values ← (s.take digits).mapM hexValue?
  let n := values.foldl (16 * · + ·) 0
  if values.length = digits ∧ n.isValidChar then some (.ofNat n, s.drop digits) else none

/-- What a backslash escapes, and the rest. -/
def escaped? : List Char → Option (Escaped × List Char)
  | [] => none
  | 'x' :: rest => (coded? 2 rest).map fun (c, rest) => (.literal c true, rest)
  | 'u' :: rest => (coded? 4 rest).map fun (c, rest) => (.literal c false, rest)
  | 'U' :: rest => (coded? 8 rest).map fun (c, rest) => (.literal c false, rest)
  | 'a' :: rest => some (.literal '\x07' false, rest)
  | 't' :: rest => some (.literal '\t' false, rest)
  | 'n' :: rest => some (.literal '\n' false, rest)
  | 'v' :: rest => some (.literal '\x0b' false, rest)
  | 'f' :: rest => some (.literal '\x0c' false, rest)
  | 'r' :: rest => some (.literal '\r' false, rest)
  | c :: rest =>
    if c ∈ ['A', 'z'] then some (.edge, rest)
    else if c ∈ ['b', 'B', '<', '>'] then some (.wordBoundary, rest)
    else if c ∈ ['d', 's', 'w'] then some (.kind false, rest)
    else if c ∈ ['D', 'S', 'W'] then some (.kind true, rest)
    else if c.toNat < 0x80 ∧ ¬c.isAlphanum then some (.literal c false, rest)
    else none

/-! ## Classes -/

/-- A member of a class, which is a character or known by a letter, and the rest. -/
def member? (f : Flags) : List Char → Option (Option Char × List Char)
  | [] => none
  | '\x5c' :: rest =>
    match escaped? rest with
    | some (.literal c _, rest) => if f.takesMember c then some (some c, rest) else none
    | some (.kind negated, rest) => if f.takesKind negated then some (none, rest) else none
    | _ => none
  | c :: rest => if f.takesMember c then some (some c, rest) else none

/-- Behind a member of a class or a range of characters, which may not descend. -/
def afterRange? (f : Flags) (s : List Char) : Option (List Char) := do
  let (low, rest) ← member? f s
  match f.skip rest with
  | [] => none
  | '-' :: more =>
    match f.skip more with
    | [] => none
    | ']' :: _ | '-' :: _ => some ('-' :: more)
    | more =>
      let (some low, some high, rest) := (low, ← member? f more) | none
      if low ≤ high then some rest else none
  | rest => some rest

def classNames : List String :=
  ["alnum", "alpha", "ascii", "blank", "cntrl", "digit", "graph", "lower", "print", "punct",
    "space", "upper", "word", "xdigit"]

/-- Whether a class known by its name between colons is negated, and the rest. -/
def namedClass? : List Char → Option (Bool × List Char)
  | ':' :: s =>
    let negated := s.head? = some '^'
    match cut ':' (if negated then s.drop 1 else s) with
    | some (name, ']' :: rest) =>
      if String.ofList name ∈ classNames then some (negated, rest) else none
    | _ => none
  | _ => none

/-- Behind the start of a class, where a caret negates, and hyphens or else one closing bracket
stand for themselves. -/
def afterClassStart? (f : Flags) (s : List Char) : Option (List Char) :=
  let s := f.skip s
  let negated := s.head? = some '^'
  match if negated then f.skip (s.drop 1) else s with
  | c :: rest =>
    if negated && !f.unicode then none
    else if c ∈ [']', '-'] && !f.takesMember c then none
    else if c = ']' then some rest
    else some ((c :: rest).dropWhile (· = '-'))
  | [] => none

/-- Behind a class that lies in so many others, from one of its members on. Each round reads a
character, so their number bounds the rounds. -/
def afterClass? (f : Flags) : (rounds depth : Nat) → List Char → Option (List Char)
  | 0, _, _ => none
  | n + 1, depth, s =>
    match f.skip s with
    | [] => none
    | '[' :: rest =>
      match namedClass? rest with
      | some (negated, rest) => if f.takesNamed negated then afterClass? f n depth rest else none
      | none => (afterClassStart? f rest).bind (afterClass? f n (depth + 1))
    | ']' :: rest =>
      match depth with
      | 0 => some rest
      | depth + 1 => afterClass? f n depth rest
    | '&' :: '&' :: rest | '-' :: '-' :: rest | '~' :: '~' :: rest => afterClass? f n depth rest
    | s => (afterRange? f s).bind (afterClass? f n depth)

/-! ## The whole -/

def isGroupName : List Char → Bool
  | [] => false
  | c :: rest =>
    (c = '_' || (isAlphanumeric c && !c.isDigit))
      && rest.all fun c => c ∈ ['_', '.', '[', ']'] || isAlphanumeric c

/-- What has been read of a pattern. -/
structure Progress where
  flags : Flags := {}
  /-- The flags outside of each open group, the innermost first. -/
  outer : List Flags := []
  names : List (List Char) := []
  /-- Whether something to repeat stands right before. -/
  operand : Bool := false
  hasWordBoundary : Bool := false

namespace Progress

variable (p : Progress)

def opened (flags : Flags) : Progress :=
  { p with outer := p.flags :: p.outer, flags, operand := false }

/-- Opens a group or sets flags, from behind an opening parenthesis on. -/
def openGroup? : List Char → Option (Progress × List Char)
  | '?' :: 'P' :: '<' :: s | '?' :: '<' :: s => do
    let (name, rest) ← cut '>' s
    if isGroupName name ∧ name ∉ p.names then
      some ({ p.opened p.flags with names := name :: p.names }, rest)
    else none
  | '?' :: s =>
    let letters := s.takeWhile fun c => c ≠ ':' ∧ c ≠ ')'
    let flags := p.flags.changed letters
    match areFlags letters, s.drop letters.length with
    | true, ':' :: rest => some (p.opened flags, rest)
    | true, ')' :: rest =>
      if letters = [] then none else some ({ p with flags, operand := false }, rest)
    | _, _ => none
  | s => some (p.opened p.flags, s)

def closeGroup? : Option Progress :=
  match p.outer with
  | [] => none
  | flags :: outer => some { p with flags, outer, operand := true }

def escape? : Escaped → Option Progress
  | .edge => some { p with operand := true }
  | .wordBoundary =>
    some { p with operand := true, hasWordBoundary := p.hasWordBoundary || p.flags.unicode }
  | .kind negated => if p.flags.takesKind negated then some { p with operand := true } else none
  | .literal c byCode => if p.flags.takes c byCode then some { p with operand := true } else none

/-- Reads what starts with a character. -/
def step? (c : Char) (rest : List Char) : Option (Progress × List Char) :=
  match c with
  | '(' => p.openGroup? (p.flags.skip rest)
  | ')' => p.closeGroup?.map (·, rest)
  | '|' => some ({ p with operand := false }, rest)
  | '[' => do
    let rest ← afterClass? p.flags (rest.length + 1) 0 (← afterClassStart? p.flags rest)
    return ({ p with operand := true }, rest)
  | '\x5c' => do
    let (e, rest) ← escaped? rest
    return (← p.escape? e, rest)
  | '?' | '*' | '+' => if p.operand then some (p, rest) else none
  | '\x7b' => none
  | '^' | '$' => some ({ p with operand := true }, rest)
  | '.' => if p.flags.unicode then some ({ p with operand := true }, rest) else none
  | _ => if p.flags.takes c false then some ({ p with operand := true }, rest) else none

/-- Reads a pattern to its end. Each round reads a character, so their number bounds the rounds. -/
def run? : (rounds : Nat) → Progress → List Char → Option Progress
  | n, p, s =>
    match n, p.flags.skip s with
    | _, [] => if p.outer = [] then some p else none
    | 0, _ => none
    | n + 1, c :: rest => do
      let (p, rest) ← p.step? c rest
      run? n p rest

end Progress

end Pattern

def checkPattern (s : List Char) : Except PatternFault Unit :=
  match Pattern.Progress.run? s.length {} s with
  | none => .error .malformed
  | some p => if p.hasWordBoundary then .error .wordBoundary else .ok ()

end Failover.CommandLine
