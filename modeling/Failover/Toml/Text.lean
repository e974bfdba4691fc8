import Failover.Toml.Parser

/-!
# Blanks, comments and strings

A string is written between double quotes, where a backslash escapes, or between single quotes,
where nothing does; three quotes open one that may hold line ends. Up to two quotes may stand
right before the three that close it.
-/

namespace Failover.Toml

open Toml.Parser

def isSpace (c : Char) : Bool := c = ' ' || c = '\t'

/-- Characters that may stand for themselves: no controls but the tab. -/
def isPlain (c : Char) : Bool := c = '\t' || (0x20 ≤ c.toNat && c.toNat ≠ 0x7F)

def spaces : Parser Unit := discard (manyOf (one isSpace))

def newline : Parser Unit := exactly ['\n'] <|> exactly ['\r', '\n']

def comment : Parser Unit := do
  discard (char '#')
  discard (manyOf (one isPlain))

def lineEnd : Parser Unit := newline <|> atEnd

/-- The rest of a line after something was said on it. -/
def lineRest : Parser Unit := do
  spaces
  discard (Parser.optional comment)
  lineEnd

/-- Spaces, line ends and comments, as between the values of a list. -/
def gap : Parser Unit :=
  discard (manyOf (discard (one isSpace) <|> newline <|> (comment *> newline)))

def hexValue (c : Char) : Nat :=
  if c.isDigit then c.toNat - 48 else c.toLower.toNat - 87

def isHexDigit (c : Char) : Bool :=
  c.isDigit || ('a' ≤ c.toLower && c.toLower ≤ 'f')

def valueOfDigits (base : Nat) (digits : List Char) : Nat :=
  digits.foldl (fun n c => base * n + hexValue c) 0

/-- A code point of so many digits, which has to be a character. -/
def codePoint (digits : Nat) : Parser Char := do
  let n := valueOfDigits 16 (← times (one isHexDigit) digits)
  if n.isValidChar then return .ofNat n else failure

def escapeSequence : Parser Char := do
  discard (char '\x5c')
  match ← one fun _ => true with
  | 'b' => return '\x08'
  | 't' => return '\t'
  | 'n' => return '\n'
  | 'f' => return '\x0c'
  | 'r' => return '\r'
  | '\x22' => return '\x22'
  | '\x5c' => return '\x5c'
  | 'u' => codePoint 4
  | 'U' => codePoint 8
  | _ => failure

def stringOf (pieces : List (List Char)) : String := String.ofList pieces.flatten

def escapedString : Parser String := do
  discard (char '\x22')
  let plain := one fun c => isPlain c && c ≠ '\x22' && c ≠ '\x5c'
  let content ← manyOf (plain <|> escapeSequence)
  discard (char '\x22')
  return String.ofList content

def literalString : Parser String := do
  discard (char '\x27')
  let content ← manyOf (one fun c => isPlain c && c ≠ '\x27')
  discard (char '\x27')
  return String.ofList content

/-- Up to two quotes inside a string that three of them close. -/
def innerQuotes (quote : Char) : Parser (List Char) := fun s =>
  if [quote, quote, quote] <+: s then none
  else (oneOrMore (char quote)).run s

/-- The three closing quotes, with up to two more before them. -/
def closingQuotes (quote : Char) : Parser (List Char) := do
  let before ← (exactly [quote, quote, quote, quote, quote] *> pure [quote, quote])
    <|> (exactly [quote, quote, quote, quote] *> pure [quote])
    <|> (exactly [quote, quote, quote] *> pure [])
  return before

/-- A backslash at the end of a line, with all blanks and line ends after it. -/
def lineContinuation : Parser Unit := do
  discard (char '\x5c')
  spaces
  newline
  discard (manyOf (discard (one isSpace) <|> newline))

/-- A string between three quotes on each side; a line end right after the opening is left out. -/
def longString (quote : Char) (piece : Parser (List Char)) : Parser String := do
  exactly [quote, quote, quote]
  discard (Parser.optional newline)
  let pieces ← manyOf (innerQuotes quote <|> piece <|> (newline *> pure ['\n']))
  return stringOf (pieces ++ [← closingQuotes quote])

def longEscapedString : Parser String :=
  longString '\x22' ((lineContinuation *> pure [])
    <|> (List.singleton <$> escapeSequence)
    <|> (List.singleton <$> one fun c => isPlain c && c ≠ '\x22' && c ≠ '\x5c'))

def longLiteralString : Parser String :=
  longString '\x27' (List.singleton <$> one fun c => isPlain c && c ≠ '\x27')

def stringValue : Parser String :=
  longEscapedString <|> escapedString <|> longLiteralString <|> literalString

end Failover.Toml
