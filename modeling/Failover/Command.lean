import Failover.Sql.Statement

/-!
# Commands

The data operations of a connection. Two questions decide how a command travels: whether it needs
a master, and whether it may be sent a second time after a failover. Sending twice is safe for
what only reads and for what sets a state of the session; it is not for a write, and not for the
end of a transaction that the lost session may have ended already.
-/

namespace Failover

inductive Command
  /-- A statement returning rows. -/
  | query (sql : String)
  /-- A statement executed for its side effects. -/
  | execute (sql : String)
  | ping
  | setCatalog (database : String)
  | begin
  | commit
  | rollback
  deriving DecidableEq, Repr

namespace Command

def name : Command → String
  | query _ => "query"
  | execute _ => "execute"
  | ping => "ping"
  | setCatalog _ => "set_catalog"
  | begin => "begin"
  | commit => "commit"
  | rollback => "rollback"

/-- Whether the command needs a writable master. -/
def isWrite : Command → Bool
  | query sql | execute sql => !Sql.isRead sql
  | commit => true
  | ping | setCatalog _ | begin | rollback => false

/-- Whether the command may be sent again on another session. -/
def isRepeatable : Command → Bool
  | query sql | execute sql => Sql.isRead sql
  | ping | setCatalog _ | begin => true
  | commit | rollback => false

/-- Whether a transaction is open after the command, for one that opens or ends it. -/
def transactionAfter : Command → Option Bool
  | begin => some true
  | commit | rollback => some false
  | query sql | execute sql => Sql.transactionEffect sql
  | ping | setCatalog _ => none

theorem not_repeatable_of_isWrite {c : Command} (h : c.isWrite = true) :
    c.isRepeatable = false := by
  cases c <;> simp_all [isWrite, isRepeatable]

end Command

end Failover
