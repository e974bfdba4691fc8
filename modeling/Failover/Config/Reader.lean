import Failover.Config
import Failover.Toml.Document

/-!
# Reading a configuration

A section of a configuration is a table of settings; unknown keys are ignored and missing ones
have defaults. A section may also be a list of its settings in their order, or a date or time,
which holds no settings. A setting that is one of several names may be written as the name, or as
a table from the name to an empty list or table.
-/

namespace Failover

open Toml

namespace Config

/-- The settings of a section, by key or by place. -/
inductive Settings
  | named (entries : List (String × Value))
  | listed (values : List Value)

def Settings.get? : Settings → Nat → String → Option Value
  | named entries, _, key => entries.lookup key
  | listed values, place, _ => values[place]?

abbrev Reader (α : Type) := Value → Option α

def readText : Reader String
  | .text s => some s
  | _ => none

def readFlag : Reader Bool
  | .flag b => some b
  | _ => none

/-- A number below `bound`. -/
def readNumber (bound : Nat) : Reader Nat
  | .integer n => if 0 ≤ n ∧ n < bound then some n.toNat else none
  | _ => none

/-- One of several names. -/
def readName {α : Type} (ofName? : String → Option α) : Reader α
  | .text s => ofName? s
  | .table _ [(s, .table _ [])] | .table _ [(s, .list [])] => ofName? s
  | _ => none

def readSettings : Reader Settings
  | .table _ entries => some (.named entries)
  | .list values => some (.listed values)
  | .moment => some (.named [])
  | _ => none

def readTexts : Reader (List String)
  | .list values => values.mapM readText
  | _ => none

/-- A setting that may be missing. -/
def Settings.read {α : Type} (s : Settings) (place : Nat) (key : String) (reader : Reader α)
    (default : α) : Option α :=
  match s.get? place key with
  | some v => reader v
  | none => some default

def readFailover (v : Value) : Option FailoverSettings := do
  let s ← readSettings v
  let millis := readNumber UInt64.size
  let standard : FailoverSettings := {}
  return {
    retriesAllDown := ← s.read 0 "retries_all_down" (readNumber UInt32.size) standard.retriesAllDown
    secondsBeforeRetryMaster := ← s.read 1 "seconds_before_retry_master" (readNumber UInt64.size)
      standard.secondsBeforeRetryMaster
    queriesBeforeRetryMaster := ← s.read 2 "queries_before_retry_master" (readNumber UInt64.size)
      standard.queriesBeforeRetryMaster
    blacklistTimeout := ← s.read 3 "blacklist_timeout_ms" millis standard.blacklistTimeout
    failOnReadOnly := ← s.read 4 "fail_on_read_only" readFlag standard.failOnReadOnly
    autoReconnect := ← s.read 5 "auto_reconnect" readFlag standard.autoReconnect
    connectTimeout := ← s.read 6 "connect_timeout_ms" millis standard.connectTimeout
    loadBalance := ← s.read 7 "load_balance" (readName LoadBalance.ofName?) standard.loadBalance }

/-- In a list of the logging settings the file has to be given. -/
def readLogging (v : Value) : Option LoggingSettings := do
  let s ← readSettings v
  let standard : LoggingSettings := {}
  let file ← match s, s.get? 2 "file" with
    | _, some v => some <$> readText v
    | .named _, none => some none
    | .listed _, none => none
  return {
    level := ← s.read 0 "level" readText standard.level
    format := ← s.read 1 "format" readText standard.format
    file }

/-- The configuration in the table of a whole document. -/
def ofEntries (entries : List (String × Value)) : Option Config := do
  let s := Settings.named entries
  return {
    topology := ← s.read 0 "topology" (readName Topology.ofName?) .standalone
    hosts := ← readTexts (← s.get? 1 "hosts")
    user := ← s.read 2 "user" readText ""
    password := ← s.read 3 "password" readText ""
    database := ← s.read 4 "database" (fun v => some <$> readText v) none
    failover := ← s.read 5 "failover" readFailover {}
    logging := ← s.read 6 "logging" readLogging {} }

/-- The configuration of a TOML document, checked. -/
def ofText (s : String) : Except Error Config := do
  let some entries := Toml.parse s | throw (.unreadableConfig "not a TOML document")
  let some config := ofEntries entries | throw (.unreadableConfig "not a configuration")
  discard config.check
  return config

end Config

end Failover
