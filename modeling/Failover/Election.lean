import Failover.Classifier
import Failover.Connection
import Failover.Goal
import Failover.Text.Span

/-!
# Elections

An election passes over the hosts in order of preference, opens a session to each, asks for its
role and binds it if the goal wants that role. Hosts with a live session are left out and hosts
that failed of late come last. A replica that is met while a master is wanted may name the master:
if that host still waits, it is next. Between two passes the live replica is asked whether it has
been promoted meanwhile.

A pass ends because every attempt takes one host off those that wait, and naming a master only
reorders them.
-/

namespace Failover

open Act

/-- What an election has come to so far. -/
structure Election where
  connection : Connection
  goal : Goal
  /-- The error of the last host that could not be used. -/
  lastFailure : Option Error := none

inductive Outcome
  | found
  | exhausted (e : Error)

/-- Puts the named host, if it waits, in front of all others. -/
def bringForward (named : Option Endpoint) (waiting : List Host) : List Host :=
  match waiting.find? fun h => some h.toEndpoint = named with
  | some h => h :: waiting.eraseP fun h => some h.toEndpoint = named
  | none => waiting

theorem bringForward_perm (named : Option Endpoint) (waiting : List Host) :
    (bringForward named waiting).Perm waiting := by
  unfold bringForward
  split
  next h hf =>
    obtain ⟨hp, as, bs, rfl, has⟩ := List.find?_eq_some_iff_append.1 hf
    rw [List.eraseP_append_right _ (by simpa using has)]
    simp only [decide_eq_true_eq] at hp
    simp only [List.eraseP_cons, hp, decide_true, cond_true]
    exact List.perm_middle.symm
  next => exact .refl _

theorem length_bringForward (named : Option Endpoint) (waiting : List Host) :
    (bringForward named waiting).length = waiting.length :=
  (bringForward_perm named waiting).length_eq

variable {σ : Type} [Cluster σ]

/-- Puts a new session on the database of the connection. -/
def followCatalog (c : Connection) (h : Handle) : Act σ Unit := do
  if let some database := c.catalog then
    if let .error e ← selectDatabase h.session database then
      log .warn s!"Could not select database {database} on {h.host.text}: {e.message}"

/-- Closes the session in a slot that is about to be filled anew. -/
def closeSlot : Option Slot → Act σ Unit
  | some s => closeSession s.session
  | none => pure ()

def bindMaster (c : Connection) (h : Handle) : Act σ Connection := do
  if c.closed then
    h.close
    return c
  followCatalog c h
  closeSlot c.master
  log .info s!"Connected to master {h.host.text}"
  keep h
  return c.withMaster ⟨h.host, h.session⟩

def bindReplica (c : Connection) (h : Handle) : Act σ Connection := do
  if c.closed then
    h.close
    return c
  followCatalog c h
  closeSlot c.replica
  log .info s!"Connected to replica {h.host.text}"
  keep h
  return c.withReplica ⟨h.host, h.session⟩

section Passes

variable (d : Deployment)

/-- Without a master, asks the live replica whether it is one by now. -/
def recheckReplica (c : Connection) (g : Goal) : Act σ (Connection × Goal) := do
  if !c.masterDown || !c.replicaAvailable then return (c, g)
  let some s := c.replica | return (c, g)
  let some h ← handle? s.session | return (c, g)
  match ← d.config.topology.judge d.connectTimeout h.host s.session with
  | .role .master =>
    keep { h with role := .master }
    log .info s!"Replica {s.host.text} has been promoted to master"
    closeSlot c.master
    return (c.promote s, g.masterFound)
  | .role .replica => return (c, g)
  | .failed e =>
    log .debug s!"Role re-check on {s.host.text} failed: {e.message}"
    return (c, g)
  | .unanswered =>
    log .debug s!"Role re-check on {s.host.text} timed out after {Text.span d.connectTimeout}"
    return (c, g)

/-- The endpoint among those waiting that a replica names as the master. -/
def namedMaster (h : Host) (n : SessionId) (waiting : List Host) :
    Act σ (Option Endpoint) := do
  let failed (e : Error) : Act σ (Option Endpoint) := do
    log .debug s!"Master lookup on {h.text} failed: {e.message}"
    return none
  match ← within d.connectTimeout (d.config.topology.reportedMaster n d.hosts) with
  | some (.ok none) => return none
  | some (.ok (some master)) =>
    match waiting.find? (·.toEndpoint = master.toEndpoint) with
    | some master =>
      log .debug s!"{h.text} reports {master.text} as master, trying it next"
      return some master.toEndpoint
    | none => return none
  | some (.error e) => failed e
  | none => failed (.connectionTimeout h.text)

/-- Binds a session whose role is wanted and closes any other. -/
def place (h : Host) (n : SessionId) (r : Role) (e : Election) : Act σ Election := do
  let handle : Handle := { session := n, host := h, role := r }
  if e.goal.wantsMaster && r = .master then
    return { e with goal := e.goal.masterFound, connection := ← bindMaster e.connection handle }
  else if e.goal.wantsReplica && r = .replica then
    return { e with goal := e.goal.replicaFound, connection := ← bindReplica e.connection handle }
  else
    log .debug s!"{h.text} is a {r.name}, not wanted by this election"
    discard (hangUp n)
    return e

/-- Tries one host while others wait. Also gives the endpoint that is to be tried next. -/
def tryHost (h : Host) (waiting : List Host) (e : Election) :
    Act σ (Election × Option Endpoint) := do
  match ← connect h with
  | .error x =>
    log .debug s!"Could not connect to {h.text}: {x.message}"
    blacklist h
    return ({ e with lastFailure := some x }, none)
  | .ok n =>
    forgive h
    match ← d.config.topology.judge d.connectTimeout h n with
    | .role r =>
      log .debug s!"{h.text} classified as {r.name}"
      let named ← if r = .replica && e.goal.wantsMaster then namedMaster d h n waiting
        else pure none
      return (← place h n r e, named)
    | .failed x =>
      log .debug s!"Role probe failed on {h.text}: {x.message}"
      discard (hangUp n)
      blacklist h
      return ({ e with lastFailure := some x }, none)
    | .unanswered =>
      discard (hangUp n)
      blacklist h
      return ({ e with lastFailure := some (.connectionTimeout h.text) }, none)

/-- Tries the waiting hosts until the election is over or none is left; says which. -/
def sweep : (waiting : List Host) → Election → Act σ (Election × Bool)
  | [], e => pure (e, false)
  | h :: waiting, e => do
    let (e, named) ← tryHost d h waiting e
    if e.goal.isEnough then
      log .debug s!"Election satisfied after {h.text}"
      return (e, true)
    if !e.connection.masterDown && !e.connection.replicaDown then return (e, true)
    sweep (bringForward named waiting) e
termination_by waiting => waiting.length
decreasing_by simp [length_bringForward]

/-- Whether a host is still excluded; a failure that is too old is forgotten. -/
def isExcluded (h : Host) (timeout : Nat) : Act σ Bool := do
  let (excluded, table) ← ask fun w => w.blacklist.lookup h.toEndpoint w.now timeout
  change fun w => { w with blacklist := table }
  return excluded

/-- The hosts that are not excluded, and those that are. -/
def splitExcluded (timeout : Nat) :
    List Host → Act σ (List Host × List Host)
  | [] => pure ([], [])
  | h :: rest => do
    let excluded ← isExcluded h timeout
    let (fresh, stale) ← splitExcluded timeout rest
    return if excluded then (fresh, h :: stale) else (h :: fresh, stale)

/-- The hosts of one pass in the order in which they are tried: those without a live session, the
excluded ones last. -/
def passOrder (c : Connection) : Act σ (List Host) := do
  let (fresh, excluded) ← splitExcluded d.config.failover.blacklistTimeout
    (d.hosts.filter fun h => !c.isBound h)
  let fresh ← d.config.topology.order d.config.failover.loadBalance fresh
  return fresh ++ excluded

/-- Passes over the hosts, so many at most; says whether the election found what it wanted. Before
every pass but the first the live replica is asked again. -/
def passes (first : Bool) : Nat → Election → Act σ (Election × Bool)
  | 0, e => pure (e, false)
  | n + 1, e => do
    let (c, g) ← if first then pure (e.connection, e.goal)
      else recheckReplica d e.connection e.goal
    let e := { e with connection := c, goal := g }
    if !first && g.isEnough then return (e, true)
    let waiting ← passOrder d c
    if waiting.isEmpty then return (e, false)
    let (e, ended) ← sweep d waiting e
    if ended then return (e, true)
    passes false n e

/-- Runs one election. -/
def elect (c : Connection) (g : Goal) : Act σ (Outcome × Connection × Goal) := do
  log .debug s!"Starting election with {g.text}"
  if c.closed then return (.exhausted .connectionClosed, c, g)
  if !c.masterDown && !c.replicaDown then return (.found, c, g)
  let (e, found) ← passes d true (if g.singlePass then 1 else d.passes) ⟨c, g, none⟩
  if found then return (.found, e.connection, e.goal)
  let role : Role := if e.goal.wantsMaster then .master else .replica
  log .warn s!"No active connection found for {role.name}"
  return (.exhausted (.exhausted role e.lastFailure), e.connection, e.goal)

/-- Runs one election and routes the connection by its result. -/
def electAndRoute (c : Connection) (g : Goal) : Act σ (Outcome × Connection) := do
  let (outcome, c, _) ← elect d c g
  return (outcome, c.route)

end Passes

end Failover
