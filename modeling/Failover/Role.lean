/-!
# Roles and topologies

A master takes reads and writes, a replica reads only. The topology says how the hosts of one
deployment are arranged, and with it how a host's role is found out.
-/

namespace Failover

inductive Role
  | master
  | replica
  deriving DecidableEq, Repr

def Role.name : Role → String
  | .master => "master"
  | .replica => "replica"

inductive Topology
  /-- A single server. -/
  | standalone
  /-- One master and read-only replicas, declared host by host. -/
  | replication
  /-- Every reachable node accepts writes. -/
  | multiMaster
  /-- A cloud cluster whose roles are asked of the servers. -/
  | aurora
  deriving DecidableEq, Repr

namespace Topology

def name : Topology → String
  | standalone => "standalone"
  | replication => "replication"
  | multiMaster => "multi-master"
  | aurora => "aurora"

/-- Whether a replica connection is kept beside the master's. -/
def hasReplicas : Topology → Bool
  | replication | aurora => true
  | standalone | multiMaster => false

/-- The topology of a name or an alias, in exact case. -/
def ofName? : String → Option Topology
  | "standalone" => some standalone
  | "replication" => some replication
  | "multi-master" | "galera" | "loadbalance" => some multiMaster
  | "aurora" | "cloud-replica" => some aurora
  | _ => none

theorem ofName?_name (t : Topology) : ofName? t.name = some t := by cases t <;> rfl

end Topology

end Failover
