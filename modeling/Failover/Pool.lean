import Failover.Operation

/-!
# Pools of connections

A pool opens any number of connections to one deployment. All of them share the servers and the
blacklist, so a host that failed one of them is tried last by the others. Connections are numbered
in the order in which they were asked for; one that could not be established leaves its number
unused.
-/

namespace Failover

structure Pool (σ : Type) where
  deployment : Deployment
  world : World σ
  connections : List (Option Connection) := []

/-- What a connection shows of itself. -/
structure Status where
  topology : Topology
  current : Option Role
  master : Option Endpoint
  replica : Option Endpoint
  masterDown : Bool
  replicaDown : Bool
  readOnly : Bool
  closed : Bool
  failovers : Nat
  blacklist : List Failure
  deriving Repr

namespace Pool

variable {σ α : Type}

/-- A pool for a sound configuration. -/
def start (config : Config) (servers : σ) : Except Error (Pool σ) := do
  let d ← Deployment.ofConfig config
  let ready : LogLine :=
    ⟨.debug, s!"Driver ready for {config.topology.name} topology with {d.hosts.length} host(s)"⟩
  return { deployment := d, world := { servers, log := [ready] } }

def connection? (p : Pool σ) (i : Nat) : Option Connection := p.connections[i]?.join

/-- Adds a connection that has no session yet. -/
def addConnection (p : Pool σ) : Pool σ :=
  { p with connections := p.connections ++ [some (.new p.deployment.hasReplicas)] }

/-- Runs a job alone on a connection. -/
def perform (p : Pool σ) (i : Nat) (c : Connection) (t : Job σ α) : Option α × Pool σ :=
  match t.run c p.world with
  | (some (a, c), world) =>
    (some a, { p with world, connections := p.connections.set i (some c) })
  | (none, world) => (none, { p with world })

/-- Opens a connection. -/
def connect [Cluster σ] (p : Pool σ) : Option (Except Error Unit) × Pool σ :=
  match establish p.deployment (.new p.deployment.hasReplicas) p.world with
  | (some (outcome, c), world) =>
    let slot := match outcome with
      | .ok () => some c
      | .error _ => none
    (some outcome, { p with world, connections := p.connections ++ [slot] })
  | (none, world) => (none, { p with world })

def status (p : Pool σ) (c : Connection) : Status :=
  { topology := p.deployment.config.topology
    current := c.current
    master := c.master.map (·.host.toEndpoint)
    replica := c.replica.map (·.host.toEndpoint)
    masterDown := c.masterDown
    replicaDown := c.replicaDown
    readOnly := c.readOnly
    closed := c.closed
    failovers := c.failovers
    blacklist := p.world.blacklist.snapshot }

end Pool

end Failover
