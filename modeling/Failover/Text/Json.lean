/-!
# JSON documents

Objects keep their members in order. A document is printed with one value a line, each level two
spaces further in; an empty list or object stays on its line.
-/

namespace Failover.Text

inductive Json
  | null
  | bool (b : Bool)
  | number (n : Nat)
  | text (s : String)
  | list (values : List Json)
  | object (members : List (String × Json))

namespace Json

/-- Quotes, backslashes and controls are escaped. -/
def escape (c : Char) : List Char :=
  match c with
  | '\x22' => ['\x5c', '\x22']
  | '\x5c' => ['\x5c', '\x5c']
  | '\x08' => ['\x5c', 'b']
  | '\x0c' => ['\x5c', 'f']
  | '\n' => ['\x5c', 'n']
  | '\r' => ['\x5c', 'r']
  | '\t' => ['\x5c', 't']
  | _ =>
    if c.toNat < 0x20 then
      ['\x5c', 'u', '0', '0', (c.toNat / 16).digitChar, (c.toNat % 16).digitChar]
    else [c]

def string (s : String) : String :=
  String.ofList (['\x22'] ++ s.toList.flatMap escape ++ ['\x22'])

def indent (depth : Nat) : String := "\n" ++ String.ofList (List.replicate (2 * depth) ' ')

mutual

/-- The text of a value that is so deep in the document. -/
def print (depth : Nat) : Json → String
  | null => "null"
  | bool b => toString b
  | number n => toString n
  | text s => string s
  | list [] => "[]"
  | list (v :: rest) =>
    "[" ++ indent (depth + 1) ++ print (depth + 1) v ++ printValues (depth + 1) rest
      ++ indent depth ++ "]"
  | object [] => "\x7b\x7d"
  | object ((k, v) :: rest) =>
    "\x7b" ++ indent (depth + 1) ++ string k ++ ": " ++ print (depth + 1) v
      ++ printMembers (depth + 1) rest ++ indent depth ++ "\x7d"

def printValues (depth : Nat) : List Json → String
  | [] => ""
  | v :: rest => "," ++ indent depth ++ print depth v ++ printValues depth rest

def printMembers (depth : Nat) : List (String × Json) → String
  | [] => ""
  | (k, v) :: rest =>
    "," ++ indent depth ++ string k ++ ": " ++ print depth v ++ printMembers depth rest

end

end Json

end Failover.Text
