import Failover.CommandLine.Run
import Failover.Offline

/-!
# The command line

Looks at the files that the words and the configuration name, runs the command on them, writes
the files that changed and prints. There is no transport to a server here, so every host refuses.
-/

open Failover CommandLine

namespace Failover.CommandLine

def Place.path (p : Place) : String := "/" ++ "/".intercalate p

/-- What can be read at a place, or refuses that for its kind. -/
def look (p : Place) : IO (Option Node) := do
  try
    return some (.file (← IO.FS.readBinFile p.path))
  catch
    | .inappropriateType .. => return some .directory
    | _ => return none

/-- Adds what stands along a path. -/
def explore (path : String) (t : FileTree) : IO FileTree := do
  match t.route path with
  | .error _ => return t
  | .ok r =>
    let mut t := t
    let mut p : Place := []
    for part in r.parts do
      p := p.move part
      if let some n ← look p then t := t.put p n
    return t

/-- The files that an invocation may touch. -/
def exploreFor (i : Invocation) : IO FileTree := do
  let working := ((← IO.currentDir).toString.splitOn "/").filter (· ≠ "")
  let t ← explore i.config { working }
  match i.request with
  | .init output => explore output t
  | _ =>
    match loadConfig i.config t with
    | .ok { logging := { file := some file, .. }, .. } => explore file t
    | _ => return t

def FileTree.contents? (t : FileTree) (p : Place) : Option ByteArray :=
  match t.node? p with
  | some (.file contents) => some contents
  | _ => none

def saveChanges (before after : FileTree) : IO Unit := do
  for (p, _) in after.nodes do
    let old := (before.contents? p).map (·.data)
    if let some new := after.contents? p then
      if old ≠ some new.data then IO.FS.writeBinFile p.path new

end Failover.CommandLine

def main (words : List String) : IO UInt32 := do
  let before ← match CommandLine.parse words with
    | .ok i => exploreFor i
    | .error _ => pure {}
  let after := CommandLine.run words before (← IO.monoMsNow) fun _ => Offline.mk
  saveChanges before after.files
  match after.output with
  | some o =>
    IO.print o.stdout
    IO.eprint o.stderr
    return o.code.toUInt32
  | none => return 1
