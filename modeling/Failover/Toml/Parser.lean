/-!
# Parsers

A parser reads a value off the front of a text and gives the rest, or fails. Repetition ends
because it goes on only while the rest gets shorter.
-/

namespace Failover.Toml

abbrev Parser := StateT (List Char) Option

namespace Parser

variable {α β : Type}

/-- One character of a kind. -/
def one (p : Char → Bool) : Parser Char := fun s =>
  match s with
  | c :: rest => if p c then some (c, rest) else none
  | [] => none

def char (c : Char) : Parser Char := one (· = c)

/-- Exactly this text. -/
def exactly (t : List Char) : Parser Unit := fun s =>
  if t <+: s then some ((), s.drop t.length) else none

/-- The end of the text. -/
def atEnd : Parser Unit := fun s => if s = [] then some ((), s) else none

/-- As often as possible. -/
def many (p : Parser α) (s : List Char) : Option (List α × List Char) :=
  match p s with
  | some (a, rest) =>
    if rest.length < s.length then
      match many p rest with
      | some (more, rest) => some (a :: more, rest)
      | none => none
    else some ([], s)
  | none => some ([], s)
termination_by s.length

def manyOf (p : Parser α) : Parser (List α) := many p

/-- At least once. -/
def oneOrMore (p : Parser α) : Parser (List α) := do return (← p) :: (← manyOf p)

def optional (p : Parser α) : Parser (Option α) := (some <$> p) <|> pure none

/-- Between `low` and `high` times. -/
def times (p : Parser α) (n : Nat) : Parser (List α) :=
  match n with
  | 0 => pure []
  | n + 1 => do return (← p) :: (← times p n)

/-- Items with separators between them, maybe none at all. -/
def separated (p : Parser α) (separator : Parser β) : Parser (List α) :=
  (do return (← p) :: (← manyOf (separator *> p))) <|> pure []

end Parser

end Failover.Toml
