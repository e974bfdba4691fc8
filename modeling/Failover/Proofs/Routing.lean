import Failover.Connection
import Failover.Goal
import Mathlib.Tactic.SplitIfs

/-!
# Where commands go

The route of a connection at rest is a function of its slots and its mode (`Connection.target`).
Amid an election it may be open, but never points elsewhere (`Connection.Coherent`). Each change of
the state keeps it so, and routing at the end closes it (`Coherent.current_route`).
-/

namespace Failover

namespace Goal

def wants (g : Goal) : Role → Bool
  | .master => g.wantsMaster
  | .replica => g.wantsReplica

def found (g : Goal) : Role → Goal
  | .master => g.masterFound
  | .replica => g.replicaFound

end Goal

namespace Connection

/-- The slot that commands go to at rest: the replica's on request or for want of a master, or
else the master's. -/
def target (c : Connection) : Option Role :=
  if c.replica.isSome && (c.readOnly || c.master.isNone) then some .replica
  else if c.master.isSome then some .master
  else none

/-- A new session takes over in the slot of its role. -/
def fill (c : Connection) : Role → Slot → Connection
  | .master, s => c.withMaster s
  | .replica, s => c.withReplica s

/-- A role is down while its slot is empty, there is no replica where none is wanted, and
commands go to the target unless the route is open. -/
structure Coherent (c : Connection) : Prop where
  masterDown : c.masterDown = c.master.isNone
  replicaDown : c.replicaDown = (c.hasReplicas && c.replica.isNone)
  replica : c.replica.isSome = true → c.hasReplicas = true
  current : c.current = none ∨ c.current = c.target

/-- Forgets what has no part in routing. -/
def shape (c : Connection) : Connection :=
  { c with lastMasterFailure := none, catalog := none, fallbackReads := 0, failovers := 0 }

section Shape

variable {c c' : Connection} (h : c.shape = c'.shape)

include h

theorem slot_of_shape (r : Role) : c.slot? r = c'.slot? r := by
  have hs : c.shape.slot? r = c'.shape.slot? r := by rw [h]
  cases r <;> exact hs

theorem currentSlot_of_shape : c.currentSlot = c'.currentSlot := by
  change c.shape.currentSlot = c'.shape.currentSlot
  rw [h]

theorem isFallback_of_shape : c.isFallback = c'.isFallback := by
  change c.shape.isFallback = c'.shape.isFallback
  rw [h]

theorem target_of_shape : c.target = c'.target := by
  change c.shape.target = c'.shape.target
  rw [h]

theorem Coherent.of_shape (hc : c.Coherent) : c'.Coherent := by
  have hs : c.shape.Coherent := ⟨hc.masterDown, hc.replicaDown, hc.replica, hc.current⟩
  rw [h] at hs
  exact ⟨hs.masterDown, hs.replicaDown, hs.replica, hs.current⟩

end Shape

section Slots

variable (c : Connection) (s : Slot)

@[simp] theorem slot_fill_self (r : Role) : (c.fill r s).slot? r = some s := by
  cases r <;> simp only [fill, withMaster, withReplica] <;> split_ifs <;> rfl

theorem slot_fill_of_ne {r q : Role} (h : q ≠ r) : (c.fill r s).slot? q = c.slot? q := by
  cases r <;> cases q <;> simp only [ne_eq, not_true_eq_false] at h <;>
    simp only [fill, withMaster, withReplica] <;> split_ifs <;> rfl

@[simp] theorem slot_route (r : Role) : c.route.slot? r = c.slot? r := by
  unfold route
  split_ifs <;> cases r <;> rfl

@[simp] theorem slot_promote_master : (c.promote s).slot? .master = some s := slot_route _ _

@[simp] theorem slot_promote_replica : (c.promote s).slot? .replica = none := slot_route _ _

variable {c s}

theorem cases_slot_fill {r q : Role} {t : Slot} (h : (c.fill r s).slot? q = some t) :
    q = r ∧ t = s ∨ q ≠ r ∧ c.slot? q = some t := by
  by_cases hq : q = r
  · subst hq
    rw [slot_fill_self] at h
    exact .inl ⟨rfl, (Option.some.inj h).symm⟩
  · rw [slot_fill_of_ne _ _ hq] at h
    exact .inr ⟨hq, h⟩

theorem eq_of_slot_promote {r : Role} {t : Slot} (h : (c.promote s).slot? r = some t) :
    r = .master ∧ t = s := by
  cases r with
  | master => exact ⟨rfl, (Option.some.inj ((slot_promote_master c s).symm.trans h)).symm⟩
  | replica => cases (slot_promote_replica c s).symm.trans h

theorem slot_of_current (h : c.currentSlot = some s) : ∃ r, c.slot? r = some s := by
  obtain ⟨r, -, hr⟩ := Option.bind_eq_some_iff.1 h
  exact ⟨r, hr⟩

theorem slot_of_roleOf {n : SessionId} {r : Role} (h : c.roleOf n = some r) :
    ∃ t, c.slot? r = some t ∧ t.session = n := by
  unfold roleOf at h
  split_ifs at h with hm hr <;> obtain rfl := Option.some.inj h
  · simpa [slot?] using (Option.any_eq_true _ _).1 hm
  · simpa [slot?] using (Option.any_eq_true _ _).1 hr

/-- At rest there is a session to route to if there is any session. -/
theorem isSome_currentSlot (hrest : c.current = c.target) :
    c.currentSlot.isSome = (c.master.isSome || c.replica.isSome) := by
  unfold currentSlot
  rw [hrest]
  rcases hm : c.master with _ | m <;> rcases hr : c.replica with _ | r <;>
    cases hro : c.readOnly <;> simp [target, slot?, hm, hr, hro]

end Slots

section Fixed

/-! The mode, the topology, the database and the counts of a connection are no business of an
election. -/

variable (c : Connection) (s : Slot) (r : Role)
@[simp] theorem closed_fill : (c.fill r s).closed = c.closed := by
  cases r <;> simp only [fill, withMaster, withReplica] <;> split_ifs <;> rfl

@[simp] theorem readOnly_fill : (c.fill r s).readOnly = c.readOnly := by
  cases r <;> simp only [fill, withMaster, withReplica] <;> split_ifs <;> rfl

@[simp] theorem hasReplicas_fill : (c.fill r s).hasReplicas = c.hasReplicas := by
  cases r <;> simp only [fill, withMaster, withReplica] <;> split_ifs <;> rfl

@[simp] theorem catalog_fill : (c.fill r s).catalog = c.catalog := by
  cases r <;> simp only [fill, withMaster, withReplica] <;> split_ifs <;> rfl

@[simp] theorem failovers_fill : (c.fill r s).failovers = c.failovers := by
  cases r <;> simp only [fill, withMaster, withReplica] <;> split_ifs <;> rfl

@[simp] theorem fallbackReads_fill : (c.fill r s).fallbackReads = c.fallbackReads := by
  cases r <;> simp only [fill, withMaster, withReplica] <;> split_ifs <;> rfl

@[simp] theorem masterDown_fill_master : (c.fill .master s).masterDown = false := by
  simp only [fill, withMaster]
  split_ifs <;> rfl

@[simp] theorem masterDown_fill_replica : (c.fill .replica s).masterDown = c.masterDown := by
  simp only [fill, withReplica]
  split_ifs <;> rfl

@[simp] theorem masterDown_route : c.route.masterDown = c.masterDown := by
  unfold route; split_ifs <;> rfl

@[simp] theorem closed_route : c.route.closed = c.closed := by unfold route; split_ifs <;> rfl

@[simp] theorem masterDown_promote : (c.promote s).masterDown = false := masterDown_route _

@[simp] theorem readOnly_route : c.route.readOnly = c.readOnly := by unfold route; split_ifs <;> rfl

@[simp] theorem hasReplicas_route : c.route.hasReplicas = c.hasReplicas := by
  unfold route; split_ifs <;> rfl

@[simp] theorem catalog_route : c.route.catalog = c.catalog := by unfold route; split_ifs <;> rfl

@[simp] theorem failovers_route : c.route.failovers = c.failovers := by
  unfold route; split_ifs <;> rfl

@[simp] theorem fallbackReads_route : c.route.fallbackReads = c.fallbackReads := by
  unfold route; split_ifs <;> rfl

@[simp] theorem closed_promote : (c.promote s).closed = c.closed := closed_route _

@[simp] theorem readOnly_promote : (c.promote s).readOnly = c.readOnly := readOnly_route _

@[simp] theorem hasReplicas_promote : (c.promote s).hasReplicas = c.hasReplicas :=
  hasReplicas_route _

@[simp] theorem catalog_promote : (c.promote s).catalog = c.catalog := catalog_route _

@[simp] theorem failovers_promote : (c.promote s).failovers = c.failovers := failovers_route _

@[simp] theorem fallbackReads_promote : (c.promote s).fallbackReads = c.fallbackReads :=
  fallbackReads_route _

end Fixed

namespace Coherent

variable {c : Connection} {s : Slot}

theorem fill (h : c.Coherent) {r : Role} (hr : r = .replica → c.hasReplicas = true) :
    (c.fill r s).Coherent := by
  obtain ⟨hm, hd, hw, hc⟩ := h
  cases r with
  | master =>
    unfold Connection.fill withMaster
    rcases hrep : c.replica with _ | t <;> rcases hro : c.readOnly <;>
      constructor <;>
      simp_all [replicaAvailable, target]
  | replica =>
    unfold Connection.fill withReplica
    rcases hmas : c.master with _ | t <;> rcases hro : c.readOnly <;>
      constructor <;>
      simp_all [target]

/-- A coherent connection without a route yet is at rest once it is routed. -/
theorem current_route (h : c.Coherent) : c.route.current = c.route.target := by
  obtain ⟨hm, hd, hw, hc⟩ := h
  unfold Connection.route currentSlot
  rcases hmas : c.master with _ | m <;> rcases hrep : c.replica with _ | r <;>
    rcases hro : c.readOnly <;> rcases hcur : c.current with _ | _ | _ <;>
    simp_all [target, slot?, masterAvailable, replicaAvailable]

theorem route (h : c.Coherent) : c.route.Coherent := by
  have hc := h.current_route
  obtain ⟨hm, hd, hw, -⟩ := h
  refine ⟨?_, ?_, ?_, .inr hc⟩ <;> unfold Connection.route <;> split_ifs <;> assumption

theorem promote (h : c.Coherent) (hr : c.replica = some s) :
    (c.promote s).Coherent ∧ (c.promote s).current = (c.promote s).target := by
  have hw : c.hasReplicas = true := h.replica (by rw [hr]; rfl)
  unfold Connection.promote
  refine ⟨route ?hc, current_route ?hc⟩
  refine ⟨rfl, (Bool.and_true _).symm, fun _ => hw, ?_⟩
  rcases h.current with hc | hc
  · simp [hc]
  · rcases hcur : c.current with _ | _ | _
    · simp
    · simp [target]
    · simp

theorem withoutMaster (h : c.Coherent) (now : Nat) : (c.withoutMaster now).Coherent := by
  obtain ⟨hm, hd, hw, hc⟩ := h
  refine ⟨rfl, hd, hw, ?_⟩
  unfold Connection.withoutMaster
  rcases hrep : c.replica with _ | r <;> rcases hmas : c.master with _ | m <;>
    rcases hcur : c.current with _ | _ | _ <;> simp_all [target]

theorem withoutReplica (h : c.Coherent) (hr : c.replica.isSome = true) :
    c.withoutReplica.Coherent := by
  obtain ⟨hm, hd, hw, hc⟩ := h
  refine ⟨hm, ?_, fun h' => (Bool.false_ne_true h').elim, ?_⟩
  · simp [Connection.withoutReplica, hw hr]
  · unfold Connection.withoutReplica
    rcases hmas : c.master with _ | m <;> rcases hcur : c.current with _ | _ | _ <;>
      simp_all [target]

theorem withoutSessions (c : Connection) : c.withoutSessions.Coherent :=
  ⟨rfl, (Bool.and_true _).symm, nofun, .inl rfl⟩

theorem new (hasReplicas : Bool) : (Connection.new hasReplicas).Coherent :=
  ⟨rfl, (Bool.and_true _).symm, nofun, .inl rfl⟩

theorem master_eq_none (h : c.Coherent) (hdown : c.masterDown = true) : c.master = none := by
  rw [← Option.isNone_iff_eq_none, ← h.masterDown, hdown]

theorem masterAvailable (h : c.Coherent) : c.masterAvailable = c.master.isSome := by
  unfold Connection.masterAvailable
  rw [h.masterDown]
  cases c.master <;> rfl

theorem replicaAvailable (h : c.Coherent) : c.replicaAvailable = c.replica.isSome := by
  unfold Connection.replicaAvailable
  rw [h.replicaDown]
  cases c.replica <;> simp

/-- The hosts of live sessions are those of the slots. -/
theorem isBound_iff (hc : c.Coherent) {h : Host} :
    c.isBound h = true ↔ ∃ r s, c.slot? r = some s ∧ s.host.toEndpoint = h.toEndpoint := by
  have hm : (if c.masterDown then [] else (c.master.map Slot.host).toList) =
      (c.master.map Slot.host).toList := by
    rw [hc.masterDown]
    cases c.master <;> rfl
  have hr : (if c.replicaDown then [] else (c.replica.map Slot.host).toList) =
      (c.replica.map Slot.host).toList := by
    rw [hc.replicaDown]
    cases c.replica <;> simp
  unfold isBound boundHosts
  rw [hm, hr]
  constructor
  · intro h
    simp only [List.any_append, Bool.or_eq_true, List.any_eq_true, Option.mem_toList,
      Option.map_eq_some_iff, decide_eq_true_eq] at h
    rcases h with ⟨_, ⟨s, hs, rfl⟩, he⟩ | ⟨_, ⟨s, hs, rfl⟩, he⟩
    · exact ⟨.master, s, hs, he⟩
    · exact ⟨.replica, s, hs, he⟩
  · rintro ⟨_ | _, s, hs, he⟩
    · have hs : c.master = some s := hs
      simp [hs, he]
    · have hs : c.replica = some s := hs
      simp [hs, he]

end Coherent

end Connection

end Failover
