/-!
# Arguments

The command line is a list of words: options for all commands, the name of a command, then the
command's own options and values. An option takes its value from the same word or the next one,
which must not look like an option itself, and may be given once. After a lone double dash all
words are values. The words are read in order, so that a plea for help or for the version counts
if no fault stands before it. An option whose value is a word of its own is only checked when the
next option comes or all words are read, those of the command included.
-/

namespace Failover.CommandLine

inductive Request
  | init (output : String)
  | validate
  | status (json : Bool)
  | query (sql : String) (readOnly : Bool)
  deriving DecidableEq, Repr

inductive Topic
  | whole
  | init
  | validate
  | status
  | query
  | help
  deriving DecidableEq, Repr

structure Invocation where
  config : String
  logLevel : Option String
  request : Request
  deriving DecidableEq, Repr

/-- How reading the words ends without an invocation. -/
inductive Ending
  | help (topic : Topic)
  | version
  | usageError
  deriving DecidableEq, Repr

/-- What an option takes. A path may not be empty. -/
inductive Arity
  | switch
  | text
  | path
  deriving DecidableEq, Repr

structure KnownOption where
  name : String
  letter : Option Char := none
  arity : Arity

/-- What the words of one command came to: options by name, and values. -/
structure Reading where
  options : List (String × String) := []
  values : List String := []
  /-- An option with its value from a word of its own, not checked yet. -/
  pending : Option (KnownOption × String) := none

namespace Reading

def get? (r : Reading) (name : String) : Option String := r.options.lookup name

def has (r : Reading) (name : String) : Bool := (r.get? name).isSome

end Reading

def looksLikeOption (word : String) : Bool :=
  match word.toList with
  | '-' :: _ :: _ => true
  | _ => false

/-- Sets an option that has not been set before. -/
def record (o : KnownOption) (value : String) (r : Reading) : Except Ending Reading :=
  if o.name = "help" then .error (.help .whole)
  else if o.name = "version" then .error .version
  else if r.has o.name then .error .usageError
  else if o.arity = .path ∧ value = "" then .error .usageError
  else .ok { r with options := (o.name, value) :: r.options }

/-- Checks and sets the option that is still pending. -/
def settle (r : Reading) : Except Ending Reading :=
  match r.pending with
  | some (o, value) => record o value { r with pending := none }
  | none => .ok r

def setOption (o : KnownOption) (value : String) (r : Reading) : Except Ending Reading := do
  record o value (← settle r)

/-- A value for an option from the next word. -/
def takeNext (o : KnownOption) (words : List String) (r : Reading) :
    Except Ending (Reading × List String) :=
  match words with
  | value :: rest =>
    if looksLikeOption value then .error .usageError
    else return ({ ← settle r with pending := some (o, value) }, rest)
  | [] => .error .usageError

/-- Reads a word with a double dash in front. -/
def readLong (known : List KnownOption) (body : List Char) (words : List String) (r : Reading) :
    Except Ending (Reading × List String) := do
  let name := String.ofList (body.takeWhile (· ≠ '='))
  let given := body.dropWhile (· ≠ '=')
  let some o := known.find? (·.name = name) | throw .usageError
  match o.arity, given with
  | .switch, [] => return (← setOption o "" r, words)
  | .switch, _ => throw .usageError
  | _, _ :: value => return (← setOption o (String.ofList value) r, words)
  | _, [] => takeNext o words r

/-- Reads the letters after a single dash. -/
def readLetters (known : List KnownOption) :
    List Char → List String → Reading → Except Ending (Reading × List String)
  | [], words, r => .ok (r, words)
  | c :: letters, words, r => do
    let some o := known.find? (·.letter = some c) | throw .usageError
    match o.arity, letters with
    | .switch, _ => readLetters known letters words (← setOption o "" r)
    | _, [] => takeNext o words r
    | _, '=' :: value => return (← setOption o (String.ofList value) r, words)
    | _, value => return (← setOption o (String.ofList value) r, words)

/-- Reads options until a value comes, which stays with the words. Each word is read once, so
their number bounds the reading. -/
def readOptions (known : List KnownOption) :
    Nat → List String → Reading → Except Ending (Reading × List String)
  | _, [], r => .ok (r, [])
  | 0, words, r => .ok (r, words)
  | n + 1, word :: words, r => do
    match word.toList with
    | ['-', '-'] => return (r, word :: words)
    | '-' :: '-' :: body =>
      let (r, words) ← readLong known body words r
      readOptions known n words r
    | '-' :: c :: letters =>
      let (r, words) ← readLetters known (c :: letters) words r
      readOptions known n words r
    | _ => return (r, word :: words)

/-- Reads options and up to so many values. -/
def readWords (known : List KnownOption) :
    (values : Nat) → List String → Reading → Except Ending Reading
  | values, words, r => do
    let (r, rest) ← readOptions known words.length words r
    match values, rest with
    | _, [] => settle r
    | values, "--" :: more =>
      if more.length ≤ values then settle { r with values := r.values ++ more }
      else throw .usageError
    | 0, _ => throw .usageError
    | values + 1, value :: more =>
      readWords known values more { r with values := r.values ++ [value] }

def helpOption : KnownOption := { name := "help", letter := some 'h', arity := .switch }

def commonOptions : List KnownOption :=
  [{ name := "config", letter := some 'c', arity := .path },
    { name := "log-level", letter := some 'l', arity := .text }, helpOption,
    { name := "version", letter := some 'V', arity := .switch }]

def defaultConfig : String := "wolfha.toml"

def topic? : String → Option Topic
  | "init" => some .init
  | "validate" => some .validate
  | "status" => some .status
  | "query" => some .query
  | "help" => some .help
  | _ => none

/-- The options of a command. -/
def optionsOf : Topic → List KnownOption
  | .init => [{ name := "output", letter := some 'o', arity := .path }, helpOption]
  | .status => [{ name := "json", arity := .switch }, helpOption]
  | .query => [{ name := "read-only", arity := .switch }, helpOption]
  | .validate | .whole | .help => [helpOption]

/-- The command behind a name, from the words after it. -/
def readRequest (t : Topic) (words : List String) : Except Ending Request := do
  let values := if t = .query then 1 else 0
  let r ← match readWords (optionsOf t) values words {} with
    | .error (.help _) => .error (.help t)
    | outcome => outcome
  match t with
  | .init => return .init ((r.get? "output").getD defaultConfig)
  | .validate => return .validate
  | .status => return .status (r.has "json")
  | .query =>
    match r.values with
    | sql :: _ => return .query sql (r.has "read-only")
    | [] => throw .usageError
  | .whole | .help => throw .usageError

/-- What the word `help` asks for. -/
def helpTopic : List String → Ending
  | [] => .help .whole
  | [name] =>
    match topic? name with
    | some t => .help t
    | none => .usageError
  | _ => .usageError

def parse (words : List String) : Except Ending Invocation := do
  let (r, rest) ← readOptions commonOptions words.length words {}
  match rest with
  | [] => throw .usageError
  | name :: words =>
    match topic? name with
    | none => throw .usageError
    | some .help => throw (helpTopic words)
    | some t =>
      let request ← readRequest t words
      let r ← settle r
      return {
        config := (r.get? "config").getD defaultConfig
        logLevel := r.get? "log-level"
        request }

end Failover.CommandLine
