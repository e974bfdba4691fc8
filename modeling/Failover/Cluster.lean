import Failover.Host
import Failover.QueryResult

/-!
# Clusters

What the servers do, as seen from a client: a cluster is a type of states that answers to
connecting, to calls on a session and to closing one. A call may stay unanswered for ever;
connecting and closing always come to an end. Sessions are numbered by the client.
-/

namespace Failover

abbrev SessionId := Nat

inductive Request
  | query (sql : String)
  | execute (sql : String)
  | ping
  deriving DecidableEq, Repr

/-- What comes of a call, an answer after some milliseconds or nothing at all. -/
inductive Reply
  | answer (wait : Nat) (result : Except Error QueryResult)
  | silence

/-- What the servers do. Connecting and closing also say how many milliseconds they took. -/
class Cluster (σ : Type) where
  connect : Host → SessionId → σ → Nat × Except Error Unit × σ
  call : SessionId → Request → σ → Reply × σ
  close : SessionId → σ → Nat × Option Error × σ
  /-- A number below the given bound, at random. -/
  draw : Nat → σ → Nat × σ

end Failover
