import Failover.Toml.Number
import Failover.Toml.Value

/-!
# Documents

A document is a list of lines: a key with its value, the header of a table, or the doubled header
of a further table in a list of them. Keys after a header go into its table. Lists and tables in
one piece may be nested 79 deep, and a dotted key has as many parts at most.
-/

namespace Failover.Toml

open Toml.Parser

/-- Lists, tables and dotted keys stay below this depth. -/
def depthLimit : Nat := 80

def bareKey : Parser String := do
  return String.ofList (← oneOrMore (one fun c => c.isAlphanum || c = '_' || c = '-'))

def keyPart : Parser String := do
  spaces
  let part ← escapedString <|> literalString <|> bareKey
  spaces
  return part

/-- The parts of a dotted key, the last one apart. -/
def key : Parser (List String × String) := do
  let first ← keyPart
  let more ← manyOf (char '.' *> keyPart)
  let parts := first :: more
  if depthLimit ≤ parts.length then failure
  return (parts.dropLast, parts.getLastD first)

/-- A key with its value, which `value` reads. -/
def assignment (value : Parser Value) : Parser ((List String × String) × Value) := do
  let k ← key
  discard (char '=')
  spaces
  let v ← value
  spaces
  return (k, v)

def scalar : Parser Value :=
  Value.text <$> stringValue
  <|> (exactly "true".toList *> pure (.flag true))
  <|> (exactly "false".toList *> pure (.flag false))
  <|> (moment *> pure .moment)
  <|> (real *> pure .real)
  <|> Value.integer <$> integer

/-- The values of a list; a comma may follow the last one. -/
def listOf (value : Parser Value) : Parser Value := do
  discard (char '[')
  let values ← separated (gap *> value <* gap) (char ',')
  if values ≠ [] then discard (Parser.optional (char ','))
  gap
  discard (char ']')
  return .list values

def tableOf (value : Parser Value) : Parser Value := do
  discard (char '\x7b')
  let assignments ← separated (assignment value) (char ',')
  spaces
  discard (char '\x7d')
  let entries : Option Entries := assignments.foldlM (fun es ((path, key), v) =>
    es.assign path key v .inline) []
  return .table .inline (← entries)

/-- A value in which lists and tables are nested no deeper than this. -/
def value : Nat → Parser Value
  | 0 => scalar
  | depth + 1 => listOf (value depth) <|> tableOf (value depth) <|> scalar

inductive Line
  | blank
  | assign (path : List String) (key : String) (v : Value)
  | header (path : List String) (key : String)
  | doubledHeader (path : List String) (key : String)

def header : Parser Line := do
  discard (char '[')
  let (path, key) ← key
  discard (char ']')
  return .header path key

def doubledHeader : Parser Line := do
  exactly ['[', '[']
  let (path, key) ← key
  exactly [']', ']']
  return .doubledHeader path key

def line : Parser Line := do
  let content ← (newline *> pure .blank)
    <|> (comment *> lineEnd *> pure .blank)
    <|> ((doubledHeader <|> header) <* lineRest)
    <|> (do
      let ((path, key), v) ← assignment (value (depthLimit - 1))
      lineRest
      return .assign path key v)
  spaces
  return content

def document : Parser (List Line) := do
  discard (Parser.optional (char '\uFEFF'))
  spaces
  let lines ← manyOf line
  atEnd
  return lines

/-- The entries of a document together with the path of the table that is open. -/
structure Draft where
  entries : Entries := []
  path : List String := []

namespace Draft

def add (d : Draft) : Line → Option Draft
  | .blank => some d
  | .assign path key v => do
    let assign := Entries.assign path key v
    return { d with entries := ← d.entries.changeAt false assign d.path .header }
  | .header path key => do
    let entries ← d.entries.changeAt false (Entries.openTable key) path .header
    return { entries, path := path ++ [key] }
  | .doubledHeader path key => do
    let entries ← d.entries.changeAt false (Entries.openElement key) path .header
    return { entries, path := path ++ [key] }

end Draft

/-- The entries of a document, if it is one. -/
def parse (s : String) : Option Entries := do
  let (lines, _) ← document s.toList
  return (← lines.foldlM Draft.add {}).entries

end Failover.Toml
