import Failover.Cluster

/-!
# No network

On a machine without a network every connect is refused, whatever the host, and nothing else can
ever be asked of a server.
-/

namespace Failover

/-- The servers of a machine without a network. -/
structure Offline where

namespace Offline

def reason : String := "error communicating with database: Network is unreachable (os error 101)"

instance : Cluster Offline where
  connect h _ s := (0, .error (.connectionFailed h.text reason), s)
  call _ _ s := (.answer 0 (.error .connectionClosed), s)
  close _ s := (0, none, s)
  draw _ s := (0, s)

end Offline

end Failover
