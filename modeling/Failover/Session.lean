import Failover.Sql.Identifier
import Failover.World

/-!
# Sessions at work

Running a command on a handle keeps track of its transaction: an answered command that opens or
ends one sets the flag, a failed one leaves it. The flag outlives the session, so that a failover
that comes late still sees whether a transaction was lost.
-/

namespace Failover

variable {σ : Type}

namespace Act

def handle? (n : SessionId) : Act σ (Option Handle) := ask (·.handles.get? n)

def keep (h : Handle) : Act σ Unit := change fun w => { w with handles := w.handles.put h }

end Act

open Act

variable [Cluster σ]

/-- Makes `database` the selected one. -/
def selectDatabase (n : SessionId) (database : String) : Act σ (Except Error QueryResult) :=
  call n (.execute (Sql.useDatabase database))

namespace Command

/-- The call a command makes. A ping and a change of database have nothing to show. -/
def send (n : SessionId) : Command → Act σ (Except Error QueryResult)
  | query sql => call n (.query sql)
  | execute sql => call n (.execute sql)
  | ping => return (← call n .ping).map fun _ => {}
  | setCatalog database => return (← selectDatabase n database).map fun _ => {}
  | begin => call n (.execute "START TRANSACTION")
  | commit => call n (.execute "COMMIT")
  | rollback => call n (.execute "ROLLBACK")

end Command

namespace Handle

/-- Runs a command on the session. -/
def run (h : Handle) (c : Command) : Act σ (Except Error QueryResult) := do
  note (.ran h.session c)
  let result ← c.send h.session
  if let .ok _ := result then
    if let some isOpen := c.transactionAfter then keep { h with inTransaction := isOpen }
  return result

/-- Closes the session, once. An error on the way is only logged. -/
def close (h : Handle) : Act σ Unit := do
  if h.closed then return
  keep { h with closed := true }
  if let some e ← hangUp h.session then
    log .debug s!"Error closing connection to {h.host.text}: {e.message}"

end Handle

/-- Closes the handle of a session. -/
def closeSession (n : SessionId) : Act σ Unit := do
  if let some h ← handle? n then h.close

end Failover
