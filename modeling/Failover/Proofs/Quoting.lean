import Failover.Proofs.Account

/-!
# Quoted names are read back

A quoted identifier ends at the first backtick that is not doubled, and a doubled one stands for one
backtick of the name. By this rule the statement that selects a database is read as that database
and nothing more, whatever backticks the name has and wherever they stand, and no other statement is
read so (`Sql.readUse_whole_iff`). So a session that is asked for a database is asked for
no other one (`database_reads_back`).
-/

namespace Failover

open Act World

theorem Text.afterFront_eq_some_iff {α : Type} [DecidableEq α] {front s t : List α} :
    afterFront front s = some t ↔ s = front ++ t := by
  unfold afterFront
  constructor
  · intro h
    split at h
    next hfront =>
      obtain ⟨u, rfl⟩ := hfront
      simpa using h
    next => simp at h
  · rintro rfl
    simp

namespace Sql

/-- The rest of the name of an identifier that has been read in part, and what follows the backtick
that ends it. -/
def readQuoted : List Char → Option (List Char × List Char)
  | [] => none
  | [c] => if c = backtick then some ([], []) else none
  | c :: d :: s =>
    if c = backtick then
      if d = backtick then (readQuoted s).map fun (name, rest) => (backtick :: name, rest)
      else some ([], d :: s)
    else (readQuoted (d :: s)).map fun (name, rest) => (c :: name, rest)

/-- The database that a statement selects, and what follows its name. -/
def readUse (statement : String) : Option (String × String) := do
  let quoted ← Text.afterFront ['U', 'S', 'E', ' ', backtick] statement.toList
  let (name, rest) ← readQuoted quoted
  return (String.ofList name, String.ofList rest)

section Quoted

variable {s name rest : List Char} {c : Char}

theorem readQuoted_of_ne (hc : c ≠ backtick) (s : List Char) :
    readQuoted (c :: s) = (readQuoted s).map fun (name, rest) => (c :: name, rest) := by
  cases s <;> simp [readQuoted, hc]

theorem readQuoted_doubled (s : List Char) : readQuoted (backtick :: backtick :: s) =
    (readQuoted s).map fun (name, rest) => (backtick :: name, rest) := by
  simp [readQuoted]

theorem readQuoted_single (h : rest.head? ≠ some backtick) :
    readQuoted (backtick :: rest) = some ([], rest) := by
  cases rest with
  | nil => simp [readQuoted]
  | cons d rest =>
    have hd : d ≠ backtick := by simpa using h
    simp [readQuoted, hd]

/-- A name is read back, unless one more backtick follows its end. -/
theorem readQuoted_doubleBackticks (name : List Char) (h : rest.head? ≠ some backtick) :
    readQuoted (doubleBackticks name ++ backtick :: rest) = some (name, rest) := by
  induction name with
  | nil => exact readQuoted_single h
  | cons c name ih =>
    by_cases hc : c = backtick
    · subst hc
      simp [doubleBackticks, readQuoted_doubled, ih]
    · simp [doubleBackticks, hc, readQuoted_of_ne hc, ih]

/-- What is read as a name is the one quoted form that it has. -/
theorem eq_of_readQuoted (h : readQuoted s = some (name, rest)) :
    s = doubleBackticks name ++ backtick :: rest ∧ rest.head? ≠ some backtick := by
  fun_induction readQuoted s generalizing name rest with
  | case1 => simp at h
  | case2 =>
    obtain ⟨rfl, rfl⟩ : [] = name ∧ [] = rest := by simpa using h
    simp [doubleBackticks]
  | case3 => simp at h
  | case4 s ih =>
    obtain ⟨⟨name, rest⟩, hread, heq⟩ := Option.map_eq_some_iff.1 h
    cases heq
    obtain ⟨hs, hend⟩ := ih hread
    exact ⟨by simp [doubleBackticks, hs], hend⟩
  | case5 d s hd =>
    obtain ⟨rfl, rfl⟩ : [] = name ∧ d :: s = rest := by simpa using h
    simp [doubleBackticks, hd]
  | case6 c d s hc ih =>
    obtain ⟨⟨name, rest⟩, hread, heq⟩ := Option.map_eq_some_iff.1 h
    cases heq
    obtain ⟨hs, hend⟩ := ih hread
    exact ⟨by simp [doubleBackticks, hc, hs], hend⟩

theorem readQuoted_eq_some_iff : readQuoted s = some (name, rest) ↔
    s = doubleBackticks name ++ backtick :: rest ∧ rest.head? ≠ some backtick := by
  constructor
  · exact eq_of_readQuoted
  · rintro ⟨rfl, hend⟩
    exact readQuoted_doubleBackticks name hend

end Quoted

section Use

variable {statement name rest database : String}

/-- A statement is read as selecting a database if it is written so, up to a character that does not
go on with the name. -/
theorem readUse_eq_some_iff : readUse statement = some (name, rest) ↔
    statement = useDatabase name ++ rest ∧ rest.toList.head? ≠ some backtick := by
  constructor
  · intro h
    obtain ⟨quoted, hfront, h⟩ := Option.bind_eq_some_iff.1 h
    obtain ⟨⟨name', rest'⟩, hread, heq⟩ := Option.bind_eq_some_iff.1 h
    obtain ⟨rfl, rfl⟩ : String.ofList name' = name ∧ String.ofList rest' = rest := by
      simpa using heq
    obtain ⟨hs, hend⟩ := readQuoted_eq_some_iff.1 hread
    refine ⟨?_, by simpa using hend⟩
    rw [← String.toList_inj, Text.afterFront_eq_some_iff.1 hfront, hs]
    simp [useDatabase, quoteIdentifier]
  · rintro ⟨rfl, hend⟩
    have hfront : Text.afterFront ['U', 'S', 'E', ' ', backtick] (useDatabase name ++ rest).toList =
        some (doubleBackticks name.toList ++ backtick :: rest.toList) :=
      Text.afterFront_eq_some_iff.2 (by simp [useDatabase, quoteIdentifier])
    unfold readUse
    rw [hfront]
    simp [readQuoted_eq_some_iff.2 ⟨rfl, hend⟩]

/-- The whole of a statement is read as selecting a database only if it is written so. -/
theorem readUse_whole_iff :
    readUse statement = some (database, "") ↔ statement = useDatabase database := by
  rw [readUse_eq_some_iff]
  simp

theorem useDatabase_injective : Function.Injective useDatabase := by
  intro database other h
  have hread := readUse_whole_iff.2 h
  rw [readUse_whole_iff.2 rfl] at hread
  simpa using hread

end Use

end Sql

/-- A session that is asked for a database gets one statement, which is read as selecting that
database and nothing more. No other statement is read so, and none is used for two databases. -/
theorem database_reads_back {σ : Type} [Cluster σ] (n : SessionId) (database : String)
    (w : World σ) : ∃ statement reply,
      w.since (selectDatabase n database w).2 = [.called n (.execute statement) reply] ∧
      (∀ name rest, Sql.readUse statement = some (name, rest) ↔ name = database ∧ rest = "") ∧
      (∀ s, Sql.readUse s = some (database, "") ↔ s = statement) ∧
      ∀ other, Sql.useDatabase other = statement ↔ other = database := by
  have hasked : (selectDatabase n database : Act σ _).Always fun w w' => ∃ reply,
      w.Notes [.called n (.execute (Sql.useDatabase database)) reply] w' := by
    apply always_call
    intro w reply servers now
    exact ⟨reply, notes_of_cons rfl⟩
  obtain ⟨reply, hnotes⟩ := hasked w
  refine ⟨Sql.useDatabase database, reply, hnotes.since, ?_, fun s => Sql.readUse_whole_iff,
    fun other => Sql.useDatabase_injective.eq_iff⟩
  intro name rest
  rw [Sql.readUse_whole_iff.2 rfl]
  simp [eq_comm]

example : Sql.useDatabase "a`; DROP DATABASE b" = "USE `a``; DROP DATABASE b`" := by decide

end Failover
