import Failover.Cluster
import Failover.Text.Quoted

/-!
# Handles

A handle is a session whose role has been verified, with what is known of it since: whether a
transaction is open on it and whether it has been closed. Connections and the tasks that use them
share handles, so they live in one table and are named by their sessions.
-/

namespace Failover

/-- A session whose role is known. -/
structure Handle where
  session : SessionId
  host : Host
  role : Role
  inTransaction : Bool := false
  closed : Bool := false
  deriving DecidableEq, Repr

/-- Whether the handle takes writes. -/
def Handle.isPinned (h : Handle) : Bool := h.role = .master

/-- The handle as shown to a programmer. -/
def Handle.text (h : Handle) : String :=
  let tag := match h.host.tag with
    | none => "None"
    | some .master => "Some(Master)"
    | some .slave => "Some(Slave)"
  let role := match h.role with
    | .master => "Master"
    | .replica => "Replica"
  let host := s!"HostAddress \x7b host: {Text.quoted h.host.name}, port: {h.host.port.toNat}, "
    ++ s!"host_type: {tag} \x7d"
  s!"Handle \x7b host: {host}, role: {role}, in_transaction: {h.inTransaction}, "
    ++ s!"closed: {h.closed} \x7d"

/-- The handles ever bound, at most one for a session. -/
structure Handles where
  entries : List Handle := []

namespace Handles

def get? (t : Handles) (n : SessionId) : Option Handle := t.entries.find? (·.session = n)

def put (t : Handles) (h : Handle) : Handles :=
  ⟨h :: t.entries.filter (·.session ≠ h.session)⟩

theorem get?_put (t : Handles) (h : Handle) (n : SessionId) :
    (t.put h).get? n = if n = h.session then some h else t.get? n := by
  by_cases hn : n = h.session
  · subst hn; simp [get?, put]
  · simp only [get?, put, Ne.symm hn, decide_false, Bool.false_eq_true, not_false_eq_true,
      List.find?_cons_of_neg, List.find?_filter, hn, if_false]
    congr 1
    funext x
    by_cases hx : x.session = n <;> simp_all

end Handles

end Failover
