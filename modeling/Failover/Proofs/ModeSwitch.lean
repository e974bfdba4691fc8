import Failover.Proofs.Occasions
import Failover.Proofs.SharedRecovery
import Failover.Proofs.Transaction

/-!
# Changes of mode within a transaction

Whether an open transaction holds a change of mode back is decided by the route and the topology,
while it is the slots that say where the change leads. At rest the two agree: where the route says
so, the change leads to another session or has one looked for (`Settled.departs`), and elsewhere it
changes nothing but the mode (`Settled.stays`).
-/

namespace Failover

open Act World

variable {σ : Type}

/-- Whether commands go to a session that is not the one for the mode. The master is that one where
no replicas are used. -/
def Connection.leaves (readOnly : Bool) (c : Connection) : Bool :=
  if readOnly then c.current = some .master && c.hasReplicas else c.current = some .replica

/-- The same world, but for the transaction on the handle. -/
def World.withoutTransaction (w : World σ) (h : Handle) : World σ :=
  { w with handles := w.handles.put { h with inTransaction := false } }

section Switch

variable [Cluster σ] {d : Deployment} {c : Connection} {w u : World σ} {slot : Slot} {h : Handle}
  {readOnly : Bool}

/-- The change of mode has a session looked for, or has commands go to another one. -/
def Departs (d : Deployment) (readOnly : Bool) (c : Connection) (w : World σ) : Prop :=
  (Occasion.switchMode readOnly).openings d c w ≠ [] ∨ ∃ answer c' w',
    ((Operation.setReadOnly readOnly).invoke d).run c w = (some (answer, c'), w') ∧
      c'.currentSlot ≠ c.currentSlot

omit [Cluster σ] in
theorem isHeldBack_apply (routed : c.currentSlot = some slot)
    (known : w.handles.get? slot.session = some h) :
    isHeldBack readOnly c w = (some (c.leaves readOnly && h.inTransaction), w) := by
  change (if c.leaves readOnly = true then _ else _ : Act σ Bool) w = _
  cases c.leaves readOnly with
  | false => rfl
  | true =>
    simp only [if_true, routed, handle?, bind_apply, ask, known, Bool.true_and]
    rfl

theorem run_setReadOnly (d : Deployment) (readOnly : Bool) (c : Connection) (w : World σ) :
    ((Operation.setReadOnly readOnly).invoke d).run c w =
      ((fun x => (x.1.map fun _ => .done, x.2)) <$> switchMode d readOnly c) w := by
  rw [map_eq_pure_bind]
  rfl

/-- Where no transaction holds it back, the mode is entered. -/
theorem run_setReadOnly_of (isOpen : c.closed = false) (routed : c.currentSlot = some slot)
    (known : w.handles.get? slot.session = some h) :
    ((Operation.setReadOnly readOnly).invoke d).run c w =
      if c.leaves readOnly && h.inTransaction then
        (some (.error .transactionInProgress, c), w)
      else ((fun x => (x.1.map fun _ => .done, x.2)) <$> enterMode d { c with readOnly }) w := by
  rw [run_setReadOnly, map_eq_pure_bind, map_eq_pure_bind]
  unfold switchMode
  rw [isOpen, if_neg Bool.false_ne_true]
  simp only [bind_apply, isHeldBack_apply routed known]
  cases c.leaves readOnly && h.inTransaction <;> rfl

/-- A change of mode has the hosts of its elections tried, and no other ones. -/
theorem visits_setReadOnly (d : Deployment) (readOnly : Bool) (c : Connection) (w : World σ) :
    w.Visits (((Occasion.switchMode readOnly).openings d c w).flatMap (·.hosts d))
      (((Operation.setReadOnly readOnly).invoke d).run c w).2 := by
  rw [run_setReadOnly]
  exact (visits_switchMode d readOnly c w).map

theorem openings_switchMode_of (isOpen : c.closed = false) (routed : c.currentSlot = some slot)
    (known : w.handles.get? slot.session = some h) :
    (Occasion.switchMode readOnly).openings d c w =
      if c.leaves readOnly && h.inTransaction then []
      else openingsForMode { c with readOnly } w := by
  simp only [Occasion.openings, isOpen, Act.followed, isHeldBack_apply routed known]
  rfl

/-- Where the route suits the mode, nothing is looked for, and commands go where they went. -/
theorem Settled.stays (hs : Settled d c w) (routed : c.currentSlot = some slot)
    (stays : c.leaves readOnly = false) (u : World σ) :
    openingsForMode { c with readOnly } u = [] ∧ ∃ c',
      enterMode d { c with readOnly } u = (some (.ok (), c'), u) ∧ c'.currentSlot = some slot := by
  have hm : Connection.masterAvailable { c with readOnly } = c.master.isSome :=
    hs.coherent.masterAvailable
  have hr : Connection.replicaAvailable { c with readOnly } = c.replica.isSome :=
    hs.coherent.replicaAvailable
  obtain ⟨r, hcurrent, hslot⟩ := Option.bind_eq_some_iff.1 routed
  unfold openingsForMode enterMode
  cases readOnly with
  | true =>
    cases r with
    | master =>
      have hno : c.hasReplicas = false := by simpa [Connection.leaves, hcurrent] using stays
      have hnone : c.replica.isSome = false := by
        cases hrep : c.replica.isSome with
        | false => rfl
        | true => exact nomatch hno.symm.trans (hs.coherent.replica hrep)
      simp only [hr, hnone]
      simp only [hno]
      exact ⟨rfl, _, rfl, routed⟩
    | replica =>
      have hsome : c.replica.isSome = true := Option.isSome_iff_exists.2 ⟨slot, hslot⟩
      simp only [hr, hsome]
      exact ⟨rfl, _, rfl, hslot⟩
  | false =>
    cases r with
    | master =>
      have hsome : c.master.isSome = true := Option.isSome_iff_exists.2 ⟨slot, hslot⟩
      simp only [hm, hsome]
      exact ⟨rfl, _, rfl, hslot⟩
    | replica => simp [Connection.leaves, hcurrent] at stays

/-- Where it does not, a session is looked for, or the other slot holds another one. -/
theorem Settled.departs (hs : Settled d c w) (routed : c.currentSlot = some slot)
    (leaves : c.leaves readOnly = true) (u : World σ) :
    openingsForMode { c with readOnly } u ≠ [] ∨ ∃ c',
      enterMode d { c with readOnly } u = (some (.ok (), c'), u) ∧ c'.currentSlot ≠ some slot := by
  have hm : Connection.masterAvailable { c with readOnly } = c.master.isSome :=
    hs.coherent.masterAvailable
  have hr : Connection.replicaAvailable { c with readOnly } = c.replica.isSome :=
    hs.coherent.replicaAvailable
  obtain ⟨r, hcurrent, hslot⟩ := Option.bind_eq_some_iff.1 routed
  have other {q : Role} {t : Slot} (ht : c.slot? q = some t) (hq : q ≠ r) : t ≠ slot :=
    fun he => hs.toSound.session_ne ht hslot hq (congrArg Slot.session he)
  unfold openingsForMode enterMode
  cases readOnly with
  | true =>
    obtain ⟨rfl, hreplicas⟩ : r = .master ∧ c.hasReplicas = true := by
      simpa [Connection.leaves, hcurrent] using leaves
    simp only [hr]
    simp only [hreplicas]
    rcases hrep : c.replica with _ | t
    · exact .inl (List.cons_ne_nil _ _)
    · exact .inr ⟨_, rfl, fun he => other (q := .replica) hrep nofun (Option.some.inj he)⟩
  | false =>
    obtain rfl : r = .replica := by simpa [Connection.leaves, hcurrent] using leaves
    simp only [hm]
    rcases hmas : c.master with _ | t
    · exact .inl (List.cons_ne_nil _ _)
    · exact .inr ⟨_, rfl, fun he => other (q := .master) hmas nofun (Option.some.inj he)⟩

/-- Without a transaction in the way, the change of mode departs from the session exactly when that
does not suit the mode. -/
theorem Settled.departs_iff (hs : Settled d c w) (isOpen : c.closed = false)
    (routed : c.currentSlot = some slot) (known : u.handles.get? slot.session = some h)
    (idle : h.inTransaction = false) :
    Departs d readOnly c u ↔ c.leaves readOnly = true := by
  unfold Departs
  rw [openings_switchMode_of isOpen routed known, run_setReadOnly_of isOpen routed known, idle,
    Bool.and_false, if_neg Bool.false_ne_true, if_neg Bool.false_ne_true, map_eq_pure_bind,
    bind_apply, routed]
  cases hl : c.leaves readOnly with
  | true =>
    refine iff_of_true ((hs.departs routed hl u).imp_right ?_) rfl
    rintro ⟨c', henter, hmoved⟩
    rw [henter]
    exact ⟨_, c', u, rfl, hmoved⟩
  | false =>
    obtain ⟨hnone, c', henter, hstays⟩ := hs.stays routed hl u
    refine iff_of_false ?_ Bool.false_ne_true
    intro hd
    rcases hd with hlooks | ⟨answer, c'', w', hrun, hmoves⟩
    · exact hlooks hnone
    · rw [henter] at hrun
      cases hrun
      exact hmoves hstays

/-- A change of mode within a transaction leaves the world as it was and commands going to the
session of the transaction, and is refused exactly when it would otherwise have departed from it. In
the elections that it would then have held, and nowhere else, it would have tried hosts. -/
theorem mode_switch_keeps_transaction {s : Scene σ} (hs : Reachable d s)
    (routed : s.connection.currentSlot = some slot)
    (known : s.world.handles.get? slot.session = some h) (inTransaction : h.inTransaction = true)
    (readOnly : Bool) : (∃ answer c',
      ((Operation.setReadOnly readOnly).invoke d).run s.connection s.world =
        (some (answer, c'), s.world) ∧ c'.currentSlot = some slot ∧
      (answer = .ok .done ∨ answer = .error .transactionInProgress) ∧
      (answer = .error .transactionInProgress ↔
        Departs d readOnly s.connection (s.world.withoutTransaction h))) ∧
    (s.world.withoutTransaction h).Visits
      (((Occasion.switchMode readOnly).openings d s.connection
        (s.world.withoutTransaction h)).flatMap (·.hosts d))
      (((Operation.setReadOnly readOnly).invoke d).run s.connection
        (s.world.withoutTransaction h)).2 := by
  refine ⟨?_, visits_setReadOnly d readOnly s.connection _⟩
  have settled := hs.atRest.settled
  obtain ⟨r, hslot⟩ := Connection.slot_of_current routed
  have isOpen := hs.isOpen hslot
  have idle : (s.world.withoutTransaction h).handles.get? slot.session =
      some { h with inTransaction := false } := by
    rw [World.withoutTransaction, Handles.get?_put, session_of_get? known, if_pos rfl]
  have departs : Departs d readOnly s.connection (s.world.withoutTransaction h) ↔
      s.connection.leaves readOnly = true := settled.departs_iff isOpen routed idle rfl
  rw [run_setReadOnly_of isOpen routed known, inTransaction, Bool.and_true, departs]
  cases hl : s.connection.leaves readOnly with
  | true => exact ⟨_, _, rfl, routed, .inr rfl, iff_of_true rfl rfl⟩
  | false =>
    obtain ⟨-, c', henter, hstays⟩ := settled.stays routed hl s.world
    rw [if_neg Bool.false_ne_true, map_eq_pure_bind, bind_apply, henter]
    exact ⟨_, c', rfl, hstays, .inl rfl, iff_of_false nofun Bool.false_ne_true⟩

end Switch

/-- The pair, with a transaction open on its master. -/
def engaged : Act Script Connection := do
  let (_, c) ← established
  let (_, c) ← (execute pair .begin).run c
  return c

theorem reachable_engaged {c : Connection} {w : World Script}
    (h : engaged { servers := {} } = (some c, w)) : ∃ tasks, Reachable pair ⟨c, w, tasks⟩ := by
  obtain ⟨⟨b, c₁⟩, w₁, h₁, h⟩ := bind_eq_some.1 h
  obtain ⟨⟨begun, c₂⟩, w₂, h₂, h⟩ := bind_eq_some.1 h
  cases h
  exact ⟨_, (reachable_established h₁).alone (.execute .begin) rfl h₂⟩

/-- The replica is not turned to before the transaction is over. -/
theorem mode_switch_refused_of_pair : ∃ (s : Scene Script) (slot : Slot) (h : Handle)
    (answer : Except Error Answer) (c' : Connection), Reachable pair s ∧
      s.connection.currentSlot = some slot ∧ s.world.handles.get? slot.session = some h ∧
      h.inTransaction = true ∧
      ((Operation.setReadOnly true).invoke pair).run s.connection s.world =
        (some (answer, c'), s.world) ∧ c'.currentSlot = some slot ∧
      answer = .error .transactionInProgress ∧
      Departs pair true s.connection (s.world.withoutTransaction h) ∧
      (s.world.withoutTransaction h).Visits
        (((Occasion.switchMode true).openings pair s.connection
          (s.world.withoutTransaction h)).flatMap (·.hosts pair))
        (((Operation.setReadOnly true).invoke pair).run s.connection
          (s.world.withoutTransaction h)).2 := by
  have hx : engaged.yields { servers := {} } (fun c w => c.currentSlot.any fun slot =>
      (w.handles.get? slot.session).any fun h => h.inTransaction &&
        (((Operation.setReadOnly true).invoke pair).run c).yields w fun x _ =>
          !x.1.isOk) = true := by
    decide +kernel
  obtain ⟨c, w, hy, hx⟩ := exists_of_yields hx
  obtain ⟨tasks, hs⟩ := reachable_engaged hy
  obtain ⟨slot, routed, hx⟩ := (Option.any_eq_true _ _).1 hx
  obtain ⟨h, known, hx⟩ := (Option.any_eq_true _ _).1 hx
  obtain ⟨inTransaction, hx⟩ := Bool.and_eq_true_iff.1 hx
  obtain ⟨⟨answer, c', hrun, hstays, hanswer, hiff⟩, hvisits⟩ :=
    mode_switch_keeps_transaction hs routed known inTransaction true
  obtain ⟨⟨answer', c''⟩, w', hrun', hno⟩ := exists_of_yields hx
  cases hrun.symm.trans hrun'
  have refused : answer = .error .transactionInProgress := by
    rcases hanswer with hok | hrefused
    · rw [hok] at hno
      cases hno
    · exact hrefused
  have hdeparts := hiff.1 refused
  exact ⟨_, slot, h, answer, c', hs, routed, known, inTransaction, hrun, hstays, refused,
    hdeparts, hvisits⟩

end Failover
