/-!
# Quoted identifiers

A name is quoted by backticks, and a backtick in it is written twice. Selecting a database is a
`USE` statement on its quoted name.
-/

namespace Failover.Sql

def backtick : Char := Char.ofNat 0x60

/-- Writes every backtick twice. -/
def doubleBackticks : List Char → List Char
  | [] => []
  | c :: rest =>
    if c = backtick then backtick :: backtick :: doubleBackticks rest
    else c :: doubleBackticks rest

def quoteIdentifier (name : List Char) : List Char :=
  backtick :: doubleBackticks name ++ [backtick]

/-- The statement that makes `database` the selected one. -/
def useDatabase (database : String) : String :=
  String.ofList (['U', 'S', 'E', ' '] ++ quoteIdentifier database.toList)

end Failover.Sql
