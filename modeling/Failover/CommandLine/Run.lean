import Failover.Config.Sample
import Failover.CommandLine.FileTree
import Failover.CommandLine.LogFilter
import Failover.CommandLine.Report

/-!
# Running a command

A run takes the words of the command line, the files and the servers as a configuration reaches
them. It comes to what it prints, its exit code, and the files and servers as it leaves them. A
run that waits for an answer for ever comes to nothing.
-/

namespace Failover.CommandLine

open Text

structure Output where
  code : Nat := 0
  stdout : String := ""
  stderr : String := ""
  deriving DecidableEq, Repr

namespace Output

def printing (stdout : String) : Output := { stdout }

def failing (f : Fault) : Output := { code := 1, stderr := f.text }

end Output

variable {σ : Type} [Cluster σ]

/-- Writes the sample configuration where there is no file yet. -/
def runInit (output : String) (t : FileTree) : Output × FileTree :=
  if t.has output then
    (.failing { message := s!"{quoted output} already exists, refusing to overwrite" }, t)
  else
    match t.write output Config.sample with
    | .ok t =>
      (.printing (lines [s!"Configuration written to {quoted output}",
        "Edit the host list and credentials, then run `wolfha validate`."]), t)
    | .error e =>
      (.failing { message := s!"Failed to write {quoted output}", causes := [e.text] }, t)

def loadConfig (path : String) (t : FileTree) : Except Error Config :=
  match t.read path with
  | .ok s => Config.ofText s
  | .error e => .error (.io e.text)

def runValidate (path : String) (t : FileTree) : Output :=
  let outcome := do
    let c ← loadConfig path t
    return configText c (← c.addresses)
  match outcome with
  | .ok shown => .printing shown
  | .error e =>
    { code := 1
      stderr := lines [s!"✗ Configuration error: {e.message}"] ++ (Fault.ofError e).text }

/-- What a command does with an open connection. -/
abbrev Errand (σ : Type) := Pool σ → Connection → Option (Except Error String) × Pool σ

def showStatus (json : Bool) : Errand σ := fun p c =>
  let s := p.status c
  let (closed, p) := p.perform 0 c (Operation.close.invoke p.deployment)
  (closed.map fun _ => .ok (if json then lines [(statusJson s).print 0] else statusText s), p)

def runStatement (sql : String) (readOnly : Bool) : Errand σ := fun p c =>
  let d := p.deployment
  p.perform 0 c do
    if readOnly then
      if let .error e ← (Operation.setReadOnly true).invoke d then return .error e
    let result ← execute d (if Sql.isRead sql then .query sql else .execute sql)
    discard (Operation.close.invoke d)
    return result.map resultText

/-- Opens a connection for an errand. -/
def withConnection (c : Config) (now : Nat) (servers : σ) (errand : Errand σ) :
    Option Output × σ :=
  match Pool.start c servers with
  | .error e => (some (.failing (.ofError e)), servers)
  | .ok p =>
    match Pool.connect { p with world := { p.world with now } } with
    | (none, p) => (none, p.world.servers)
    | (some (.error e), p) =>
      (some (.failing (.inContext "No usable host found" e)), p.world.servers)
    | (some (.ok ()), p) =>
      match p.connection? 0 with
      | none => (none, p.world.servers)
      | some c =>
        let (outcome, p) := errand p c
        let output : Except Error String → Output
          | .ok shown => .printing shown
          | .error e => .failing (.ofError e)
        (outcome.map output, p.world.servers)

/-- What is there after a run. -/
structure Aftermath (σ : Type) where
  /-- Missing if the run never ends. -/
  output : Option Output
  files : FileTree
  /-- Missing if no server was ever wanted. -/
  servers : Option σ := none

def Aftermath.warned (notes : List String) (a : Aftermath σ) : Aftermath σ :=
  { a with output := a.output.map fun o => { o with stderr := lines notes ++ o.stderr } }

/-- Loads the configuration, reads the filter of the log and opens its file before anything
else. -/
def runConnected (path : String) (level : Option String) (t : FileTree) (now : Nat)
    (servers : Config → σ) (errand : Errand σ) : Aftermath σ :=
  match loadConfig path t with
  | .error e =>
    let fault := Fault.inContext s!"Failed to load configuration from {quoted path}" e
    { output := some (.failing fault), files := t }
  | .ok c =>
    let run (t : FileTree) : Aftermath σ :=
      let (output, servers) := withConnection c now (servers c) errand
      { output, files := t, servers }
    let opened := match c.logging.file with
      | none => run t
      | some file =>
        match t.openFile file with
        | .ok (_, t) => run t
        | .error e =>
          let message := s!"Failed to open log file {quoted file}"
          { output := some (.failing { message, causes := [e.text] }), files := t }
    opened.warned (LogFilter.notes (level.getD c.logging.level))

/-- The level of the log where nothing else says one. -/
def defaultLevel : String := "info"

def run (words : List String) (t : FileTree) (now : Nat) (servers : Config → σ) : Aftermath σ :=
  match parse words with
  | .error (.help topic) => { output := some (.printing (helpText topic)), files := t }
  | .error .version => { output := some (.printing versionText), files := t }
  | .error .usageError => { output := some { code := 2, stderr := usageText }, files := t }
  | .ok i =>
    let warned (a : Aftermath σ) := a.warned (LogFilter.notes (i.logLevel.getD defaultLevel))
    match i.request with
    | .init output =>
      let (output, files) := runInit output t
      warned { output := some output, files }
    | .validate => warned { output := some (runValidate i.config t), files := t }
    | .status json => runConnected i.config i.logLevel t now servers (showStatus json)
    | .query sql readOnly =>
      runConnected i.config i.logLevel t now servers (runStatement sql readOnly)

end Failover.CommandLine
