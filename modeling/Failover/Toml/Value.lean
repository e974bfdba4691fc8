/-!
# Values of a TOML document

Tables keep their entries in the order of the document, and how they came about: a table may be
written in one piece, opened by a header of its own, implied by the header of another table, or
implied by a dotted key. That decides what may be added to it later on. A real number and a moment
are only told apart from the other kinds: nothing reads their amounts.
-/

namespace Failover.Toml

inductive Origin
  | inline
  | header
  | impliedByHeader
  | dottedKey
  deriving DecidableEq, Repr

inductive Value
  | text (s : String)
  | integer (n : Int)
  | flag (b : Bool)
  | real
  | moment
  | list (values : List Value)
  | table (origin : Origin) (entries : List (String × Value))
  /-- Tables opened one after another by a doubled header. -/
  | tables (elements : List (List (String × Value)))
  deriving Repr, Inhabited

abbrev Entries := List (String × Value)

namespace Entries

def put (es : Entries) (key : String) (v : Value) : Entries :=
  match es with
  | [] => [(key, v)]
  | (k, w) :: rest => if k = key then (k, v) :: rest else (k, w) :: put rest key v

/-- Changes the table at a path. Missing tables are made on the way with the given origin; when
the path stems from a dotted key, tables with a header of their own are out of bounds. -/
def changeAt (dotted : Bool) (change : Origin → Entries → Option Entries) :
    List String → Origin → Entries → Option Entries
  | [], origin, es => change origin es
  | key :: path, _, es => do
    match es.lookup key with
    | none =>
      let origin : Origin := if dotted then .dottedKey else .impliedByHeader
      return es.put key (.table origin (← changeAt dotted change path origin []))
    | some (.table origin inner) =>
      if origin = .inline ∨ (dotted ∧ origin = .header) then none
      else return es.put key (.table origin (← changeAt dotted change path origin inner))
    | some (.tables elements) =>
      let inner ← changeAt dotted change path .header (elements.getLastD [])
      return es.put key (.tables (elements.dropLast ++ [inner]))
    | some _ => none

/-- Adds a new key to a table. A dotted key only goes into tables that dotted keys made, any other
one only into tables of another origin. -/
def addKey (isDotted : Bool) (key : String) (v : Value) (origin : Origin) (es : Entries) :
    Option Entries :=
  if isDotted ≠ decide (origin = .dottedKey) ∨ (es.lookup key).isSome then none
  else some (es ++ [(key, v)])

/-- Sets a key, which may be dotted. -/
def assign (path : List String) (key : String) (v : Value) (origin : Origin) (es : Entries) :
    Option Entries :=
  changeAt true (addKey (path ≠ []) key v) path origin es

/-- Opens a table by its header. -/
def openTable (key : String) (_ : Origin) (es : Entries) : Option Entries :=
  match es.lookup key with
  | none => some (es ++ [(key, .table .header [])])
  | some (.table .impliedByHeader inner) => some (es.put key (.table .header inner))
  | some _ => none

/-- Opens a further table by its doubled header. -/
def openElement (key : String) (_ : Origin) (es : Entries) : Option Entries :=
  match es.lookup key with
  | none => some (es ++ [(key, .tables [[]])])
  | some (.tables elements) => some (es.put key (.tables (elements ++ [[]])))
  | some _ => none

end Entries

end Failover.Toml
