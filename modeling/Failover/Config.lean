import Failover.Host

/-!
# Configurations

A configuration names the hosts of a deployment and tunes its failover. Checking it gives the
parsed hosts, so that a deployment has passed the checks by construction.
-/

namespace Failover

/-- The order in which equally good masters are tried. -/
inductive LoadBalance
  | sequential
  | random
  deriving DecidableEq, Repr

namespace LoadBalance

def name : LoadBalance → String
  | sequential => "sequential"
  | random => "random"

def ofName? : String → Option LoadBalance
  | "sequential" => some sequential
  | "random" => some random
  | _ => none

end LoadBalance

structure FailoverSettings where
  /-- Passes over the hosts before an election gives up. -/
  retriesAllDown : Nat := 120
  /-- Seconds on a replica before the master is tried again. -/
  secondsBeforeRetryMaster : Nat := 30
  /-- Reads on a replica before the master is tried again. -/
  queriesBeforeRetryMaster : Nat := 50
  /-- How long a failed host stays excluded, in milliseconds. -/
  blacklistTimeout : Nat := 50000
  /-- Refuse writes outright while a replica stands in for the master. -/
  failOnReadOnly : Bool := false
  /-- Reconnect before the next command when no session is left. -/
  autoReconnect : Bool := false
  /-- Bound on connecting and on asking for a role, in milliseconds. -/
  connectTimeout : Nat := 3000
  loadBalance : LoadBalance := .sequential
  deriving DecidableEq, Repr

structure LoggingSettings where
  level : String := "info"
  format : String := "pretty"
  file : Option String := none
  deriving DecidableEq, Repr

structure Config where
  topology : Topology := .standalone
  /-- Candidate hosts in order of preference. -/
  hosts : List String
  user : String := ""
  password : String := ""
  database : Option String := none
  failover : FailoverSettings := {}
  logging : LoggingSettings := {}
  deriving DecidableEq, Repr

namespace Config

def addresses (c : Config) : Except Error (List Host) :=
  Host.parseAll c.topology c.hosts

/-- The hosts of a sound configuration, or the first fault. -/
def check (c : Config) : Except Error (List Host) := do
  if c.hosts = [] then throw (.badConfig "hosts cannot be empty")
  if c.topology = .standalone ∧ c.hosts.length ≠ 1 then
    throw (.badConfig s!"standalone topology takes exactly one host, got {c.hosts.length}")
  if c.failover.retriesAllDown = 0 then
    throw (.badConfig "failover.retries_all_down must be at least 1")
  if c.failover.connectTimeout = 0 then
    throw (.badConfig "failover.connect_timeout_ms must be greater than 0")
  c.addresses

end Config

/-- A configuration with its hosts. -/
structure Deployment where
  config : Config
  hosts : List Host

namespace Deployment

def ofConfig (c : Config) : Except Error Deployment := do
  return { config := c, hosts := ← c.check }

variable (d : Deployment)

def hasReplicas : Bool := d.config.topology.hasReplicas

def connectTimeout : Nat := d.config.failover.connectTimeout

/-- Milliseconds on a replica before the master is tried again. -/
def retryMasterAfter : Nat := 1000 * d.config.failover.secondsBeforeRetryMaster

/-- Passes of an election without a bound to one. -/
def passes : Nat := max 1 d.config.failover.retriesAllDown

end Deployment

end Failover
