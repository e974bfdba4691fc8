/-!
# What an election looks for

A goal names the roles still wanted. It may be content with one of two wanted roles, and it may
be bounded to a single pass over the hosts.
-/

namespace Failover

structure Goal where
  wantsMaster : Bool
  wantsReplica : Bool
  /-- Stop as soon as a master is found, even if a replica is still wanted. -/
  masterSuffices : Bool := false
  /-- Stop as soon as a replica is found, even if a master is still wanted. -/
  replicaSuffices : Bool := false
  singlePass : Bool := false
  deriving DecidableEq, Repr

namespace Goal

def masterOnly : Goal := { wantsMaster := true, wantsReplica := false }

def replicaOnly : Goal := { wantsMaster := false, wantsReplica := true }

def both : Goal := { wantsMaster := true, wantsReplica := true }

def orReplicaOnly (g : Goal) : Goal := { g with replicaSuffices := true }

def inOnePass (g : Goal) : Goal := { g with singlePass := true }

def masterFound (g : Goal) : Goal := { g with wantsMaster := false }

def replicaFound (g : Goal) : Goal := { g with wantsReplica := false }

/-- Nothing left to look for. -/
def isReached (g : Goal) : Bool := !g.wantsMaster && !g.wantsReplica

/-- Enough is found to stop. -/
def isEnough (g : Goal) : Bool :=
  g.isReached || (g.masterSuffices && !g.wantsMaster) || (g.replicaSuffices && !g.wantsReplica)

def text (g : Goal) : String :=
  let wants := s!"SearchFilter\x7bmaster={g.wantsMaster}, replica={g.wantsReplica}"
  wants ++ (if g.masterSuffices then ", fine_if_only_master" else "")
    ++ (if g.replicaSuffices then ", fine_if_only_replica" else "")
    ++ (if g.singlePass then ", unique_loop" else "") ++ "\x7d"

end Goal

end Failover
