/-!
# Files

A tree of files and directories, told by places: the names that lead from the root. A path is
followed part by part, from the root if it starts with a slash and else from the working
directory. Slashes side by side count as one, a single dot stays where it is, and two dots lead to
the directory above. What goes wrong is told in the words of the operating system.
-/

namespace Failover.CommandLine

/-- The names on the way from the root. -/
abbrev Place := List String

/-- Where a part of a path leads. -/
def Place.move (p : Place) (part : String) : Place :=
  if part = "." then p else if part = ".." then p.dropLast else p ++ [part]

inductive Node
  | file (contents : ByteArray)
  | directory

/-- The working directory and those above it are always there. -/
structure FileTree where
  working : Place := []
  nodes : List (Place × Node) := []

inductive FileError
  | notFound
  | notADirectory
  | isADirectory
  | nameTooLong
  | unusableName
  | notText
  deriving DecidableEq, Repr

def FileError.text : FileError → String
  | notFound => "No such file or directory (os error 2)"
  | notADirectory => "Not a directory (os error 20)"
  | isADirectory => "Is a directory (os error 21)"
  | nameTooLong => "File name too long (os error 36)"
  | unusableName => "file name contained an unexpected NUL byte"
  | notText => "stream did not contain valid UTF-8"

/-- A path from the root. -/
structure Route where
  parts : List String
  /-- A slash ends the path, so it can only lead to a directory. -/
  endsInSlash : Bool
  deriving DecidableEq, Repr

namespace FileTree

variable (t : FileTree)

def node? (p : Place) : Option Node :=
  if p.isPrefixOf t.working then some .directory else t.nodes.lookup p

def put (p : Place) (n : Node) : FileTree :=
  { t with nodes := (p, n) :: t.nodes.filter (·.1 ≠ p) }

theorem node?_working : t.node? t.working = some .directory := by
  simp [node?]

/-- What was put at a place stands there, unless the working directory needs the place. -/
theorem node?_put_self {p : Place} (n : Node) (h : p.isPrefixOf t.working = false) :
    (t.put p n).node? p = some n := by
  simp [node?, put, h]

def route (path : String) : Except FileError Route :=
  if '\x00' ∈ path.toList then .error .unusableName
  else if path = "" then .error .notFound
  else if 4096 ≤ path.utf8ByteSize then .error .nameTooLong
  else
    let parts := (path.splitOn "/").filter (· ≠ "")
    .ok {
      parts := if path.startsWith "/" then parts else t.working ++ parts
      endsInSlash := path.endsWith "/" }

/-- One part of a path, which has to start in a directory. -/
def enter (p : Place) (part : String) : Except FileError Place :=
  match t.node? p with
  | none => .error .notFound
  | some (.file _) => .error .notADirectory
  | some .directory =>
    if 255 < part.utf8ByteSize then .error .nameTooLong
    else if (t.node? (p.move part)).isSome then .ok (p.move part)
    else .error .notFound

def follow (parts : List String) : Except FileError Place := parts.foldlM t.enter []

/-- What a path leads to. -/
def find (path : String) : Except FileError Node := do
  let r ← t.route path
  match t.node? (← t.follow r.parts) with
  | none => throw .notFound
  | some .directory => return .directory
  | some (.file contents) =>
    if r.endsInSlash then throw .notADirectory
    return .file contents

def has (path : String) : Bool := (t.find path).isOk

def read (path : String) : Except FileError String := do
  match ← t.find path with
  | .directory => throw .isADirectory
  | .file contents =>
    match String.fromUTF8? contents with
    | some s => return s
    | none => throw .notText

/-- Opens a file for writing, which makes an empty one where there is none. -/
def openFile (path : String) : Except FileError (Place × FileTree) := do
  let r ← t.route path
  let some name := r.parts.getLast? | throw .isADirectory
  let parent ← t.enter (← t.follow r.parts.dropLast) "."
  if r.endsInSlash ∨ name = "." ∨ name = ".." then throw .isADirectory
  if 255 < name.utf8ByteSize then throw .nameTooLong
  let p := parent.move name
  match t.node? p with
  | some .directory => throw .isADirectory
  | some (.file _) => return (p, t)
  | none => return (p, t.put p (.file ByteArray.empty))

def write (path contents : String) : Except FileError FileTree := do
  let (p, t) ← t.openFile path
  return t.put p (.file contents.toUTF8)

end FileTree

end Failover.CommandLine
