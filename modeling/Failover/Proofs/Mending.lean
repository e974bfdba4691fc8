import Failover.Proofs.Finding
import Mathlib.Data.List.Nodup

/-!
# Mending connections among steady servers

A connection among steady servers stays sound whatever is done to mend it (`Sustained`), and what
an election wants of it is there afterwards if it can be had (`Renewed`). So a lost master is always
replaced while some host is a master, and a lost replica is replaced or left to what there is.
-/

namespace Failover

open Act World

variable {σ : Type}

/-- A sound open connection among servers about which nothing changes. No transaction is open on a
session whose host is down. -/
structure Sustained (K : Regime σ) (d : Deployment) (c : Connection) (w : World σ) : Prop
    extends Founded d c w where
  isOpen : c.closed = false
  leads : K.Leads c w
  idle : ∀ r s x, c.slot? r = some s → K.up s.host.toEndpoint = false →
    w.handles.get? s.session = some x → x.inTransaction = false

/-- The host of the replica, if there is one, is up. -/
def Regime.Fit (K : Regime σ) (c : Connection) : Prop :=
  ∀ s, c.replica = some s → K.up s.host.toEndpoint = true

/-- What an election for `g` among steady servers makes of the slots. -/
structure Renewed (K : Regime σ) (d : Deployment) (c : Connection) (g : Goal)
    (c' : Connection) : Prop where
  alive : ∀ r s, c'.slot? r = some s →
    K.up s.host.toEndpoint = true ∨ g.wants r = false ∧ c.slot? r = some s
  master : g.wants .master = false → c'.master = c.master
  replica : ∀ s, g.wants .replica = false → c'.replica = some s → c.replica = some s
  found : g.wants .master = true → g.masterSuffices = false →
    (∃ h ∈ d.hosts, c.isBound h = false ∧ K.role d.config.topology h = some .master) →
      c'.master.isSome = true ∨
        g.replicaSuffices = true ∧ (g.wants .replica = true → c'.replica.isSome = true)

section Sustained

variable {K : Regime σ} {d : Deployment} {c c' : Connection} {w w' : World σ}

theorem Sustained.of_shape (h : Sustained K d c w) (hc : c.shape = c'.shape) :
    Sustained K d c' w where
  toSound := h.toSound.of_shape hc
  placed := h.placed.of_slots fun r s hs => by rwa [Connection.slot_of_shape hc]
  isOpen := by
    have hclosed : c.shape.closed = c'.shape.closed := by rw [hc]
    exact hclosed.symm.trans h.isOpen
  leads := ⟨h.leads.holds, fun r s hs => h.leads.serves r s (by rwa [Connection.slot_of_shape hc])⟩
  idle r s x hs := h.idle r s x (by rwa [Connection.slot_of_shape hc])

theorem Sustained.route (h : Sustained K d c w) : Sustained K d c.route w where
  toSound := h.toSound.route
  placed := h.placed.of_slots fun r s hs => by rwa [Connection.slot_route] at hs
  isOpen := (Connection.closed_route c).trans h.isOpen
  leads := ⟨h.leads.holds, fun r s hs => h.leads.serves r s (by rwa [Connection.slot_route] at hs)⟩
  idle r s x hs := h.idle r s x (by rwa [Connection.slot_route] at hs)

theorem Sustained.onward {touched : Set SessionId} (h : Sustained K d c w)
    (ho : w.Onward touched w') (hg : K.Goes touched w.servers w'.servers)
    (ht : ∀ r s, c.slot? r = some s → s.session ∉ touched) : Sustained K d c w' where
  toSound := h.toSound.onward ho ht
  placed := h.placed
  isOpen := h.isOpen
  leads := h.leads.goes hg ht
  idle r s x hs hup hx := h.idle r s x hs hup <| by
    rwa [ho.handle _ (h.session_le hs) (ht r s hs)] at hx

theorem Sustained.emptied {r : Role} (h : Sustained K d c w)
    (ho : w.Onward (sessionIn (c.slot? r)) w')
    (hg : K.Goes (sessionIn (c.slot? r)) w.servers w'.servers) (hc : c'.Coherent)
    (hr : c'.hasReplicas = c.hasReplicas) (hclosed : c'.closed = c.closed)
    (hs : ∀ q, c'.slot? q = if q = r then none else c.slot? q) : Sustained K d c' w' := by
  have other {q : Role} {s : Slot} (hq : c'.slot? q = some s) :
      c.slot? q = some s ∧ s.session ∉ sessionIn (c.slot? r) := by
    rw [hs] at hq
    split_ifs at hq with hqr
    refine ⟨hq, ?_⟩
    intro hm
    obtain ⟨t, ht, hts⟩ := mem_sessionIn.1 hm
    exact h.session_ne hq ht hqr hts.symm
  have hplaced : c'.Placed d := h.placed.of_slots fun q s hq => (other hq).1
  refine ⟨⟨h.toSound.emptied ho hc hr hs, hplaced⟩, hclosed.trans h.isOpen, ⟨hg.holds, ?_⟩, ?_⟩
  · intro q s hq
    obtain ⟨hslot, huntouched⟩ := other hq
    exact hg.serves _ _ huntouched (h.leads.serves q s hslot)
  · intro q s x hq hup hx
    obtain ⟨hslot, huntouched⟩ := other hq
    rw [ho.handle _ (h.session_le hslot) huntouched] at hx
    exact h.idle q s x hslot hup hx

theorem Sustained.masterLost (h : Sustained K d c w) (ho : w.Onward (sessionIn c.master) w')
    (hg : K.Goes (sessionIn c.master) w.servers w'.servers) (now : Nat) :
    Sustained K d (c.masterLost now) w' :=
  h.emptied (r := .master) ho hg (h.coherent.masterLost now) rfl rfl fun q => by cases q <;> rfl

theorem Sustained.replicaLost (h : Sustained K d c w) (ho : w.Onward (sessionIn c.replica) w')
    (hg : K.Goes (sessionIn c.replica) w.servers w'.servers) (hrep : c.replica.isSome = true) :
    Sustained K d c.replicaLost w' :=
  h.emptied (r := .replica) ho hg (h.coherent.replicaLost hrep) rfl rfl fun q => by cases q <;> rfl

variable [Cluster σ]

theorem Sustained.still (hK : K.Steady d.connectTimeout) (h : Sustained K d c w)
    (hw : w.Still w') : Sustained K d c w' :=
  h.onward (hw.beside.onward : w.Onward ∅ w') (hK.drawn h.leads.holds hw.servers)
    fun _ _ _ => Set.notMem_empty _

omit [Cluster σ] in
theorem Gathered.sustained {asked : Prop} {c₀ : Connection} {g₀ g : Goal} {u : World σ}
    (hg : Gathered K d asked c₀ g₀ u c g w) (h : Sustained K d c₀ u) : Sustained K d c w where
  toSound := hg.sound
  placed := hg.placed
  isOpen := hg.notClosed
  leads := hg.leads
  idle r s x hs hup hx := by
    rcases hg.alive hs with h' | ⟨-, hs₀, hx₀⟩
    · cases hup.symm.trans h'
    · have hx' := (hx₀ (h.session_le hs₀)).symm.trans hx
      exact h.idle r s x hs₀ hup hx'

omit [Cluster σ] in
theorem Searched.renewed {asked : Prop} {g : Goal} {u : World σ} {x : Election × Bool}
    (h : Searched K d asked c g u x w) : Renewed K d c g x.1.connection := by
  have hg := h.gathered
  refine ⟨?_, ?_, ?_, ?_⟩
  · intro r s hs
    rcases hg.alive hs with hup | ⟨hwants, hslot, -⟩
    · exact .inl hup
    · exact .inr ⟨hwants, hslot⟩
  · intro hm
    cases hg.filling with
    | tried vacant filled kept handles => exact kept .master hm
    | promoted _ _ _ _ wanted _ _ _ _ => cases hm.symm.trans wanted
  · intro s hr hs
    cases hg.filling with
    | tried vacant filled kept handles => exact (kept .replica hr).symm.trans hs
    | promoted _ _ _ _ _ _ _ left _ => cases hs.symm.trans left
  · intro hm hsuff hfree
    cases hwant : x.1.goal.wants .master with
    | false =>
      obtain ⟨s, hs, -⟩ := hg.found hm hwant
      exact .inl (congrArg Option.isSome hs)
    | true =>
      cases hx : x.2 with
      | false =>
        obtain ⟨y, hmem, hyfree, hrole⟩ := hfree
        exact absurd hrole (h.tried hx y hmem hyfree List.not_mem_nil .master hwant)
      | true =>
        right
        have hwant' : x.1.goal.wantsMaster = true := hwant
        rcases h.ends hx with henough | ⟨hup, -⟩
        · obtain ⟨h₁, h₂⟩ := hg.suffices'
          simp only [Goal.isEnough, Goal.isReached, h₁, h₂, hsuff, hwant', Bool.not_true,
            Bool.false_and, Bool.or_false, Bool.false_or, Bool.and_eq_true,
            Bool.not_eq_true'] at henough
          refine ⟨henough.1, ?_⟩
          intro hr
          obtain ⟨s, hs, -⟩ := hg.found hr henough.2
          exact congrArg Option.isSome hs
        · rw [hg.sound.coherent.masterDown, show x.1.connection.master = none from hg.vacant hwant]
            at hup
          cases hup

theorem meets_electAndRoute_steady (hK : K.Steady d.connectTimeout) {g : Goal}
    (h : Sustained K d c w) (hg : g.isEnough = false)
    (hdown : ∀ r, g.wants r = true → c.isDown r = true) : (electAndRoute d c g).Meets w
      (fun x w' => Settled d x.2 w' ∧ Sustained K d x.2 w' ∧ Elected c g x.1 x.2 ∧
        Renewed K d c g x.2) fun _ => False := by
  have hrep (hr : g.wantsReplica = true) : c.hasReplicas = true :=
    (h.coherent.isDown_iff.1 (hdown .replica hr)).2 rfl
  have helected := (upkeep_quiet w).elected (d := d) h.toSound (Quiet.refl w) hg hrep
  have hrouted : (electAndRoute d c g).Meets w
      (fun x w' => Sustained K d x.2 w' ∧ Renewed K d c g x.2) fun _ => False := by
    unfold electAndRoute
    refine meets_bind (meets_elect_steady hK h.toFounded h.isOpen h.leads hg hdown) ?_
    rintro ⟨outcome, c', g'⟩ w' ⟨failure, hs⟩
    have hr := hs.renewed
    have hmaster : c'.route.master = c'.master := Connection.slot_route c' .master
    have hreplica : c'.route.replica = c'.replica := Connection.slot_route c' .replica
    refine meets_pure ⟨(hs.gathered.sustained h).route, ⟨?_, ?_, ?_, ?_⟩⟩
    · intro r s hslot
      rw [Connection.slot_route] at hslot
      exact hr.alive r s hslot
    · rw [hmaster]
      exact hr.master
    · rw [hreplica]
      exact hr.replica
    · rw [hmaster, hreplica]
      exact hr.found
  refine (helected.and hrouted).mono ?_ fun _ h => h.2
  rintro x w' ⟨⟨hs', he, -⟩, h', hr⟩
  exact ⟨hs', h', he, hr⟩

end Sustained

/-- A sustained connection at rest. -/
structure Ready (K : Regime σ) (d : Deployment) (c : Connection) (w : World σ) : Prop
    extends Sustained K d c w where
  rest : c.current = c.target

/-- At rest commands go to the master unless the mode asks for the replica that there is. -/
theorem Connection.currentSlot_of_master {c : Connection} {s : Slot} (hrest : c.current = c.target)
    (hm : c.master = some s) (hmode : c.readOnly = true → c.replica = none) :
    c.currentSlot = some s := by
  unfold currentSlot
  rw [hrest]
  rcases hr : c.replica with _ | t <;> cases hro : c.readOnly <;>
    simp_all [target, slot?]

theorem Connection.replica_of_target {c : Connection} (ht : c.target = some .master)
    (hmode : c.readOnly = true) : c.replica = none := by
  rcases hr : c.replica with _ | t
  · rfl
  · simp [target, hr, hmode] at ht

section Ready

variable [Cluster σ] {K : Regime σ} {d : Deployment} {c c' : Connection} {w w' : World σ}

omit [Cluster σ] in
theorem Ready.settled (h : Ready K d c w) : Settled d c w := ⟨h.toSound, h.rest⟩

omit [Cluster σ] in
theorem Renewed.fit {g : Goal} (h : Renewed K d c g c') (hc : K.Fit c) : K.Fit c' := by
  intro s hs
  rcases h.alive .replica s hs with hup | ⟨-, hs⟩
  · exact hup
  · exact hc s hs

theorem Connection.Coherent.free_of_empty {p : Host → Prop} {hosts : List Host} (h : c.Coherent)
    (hnone : ∀ r, c.slot? r = none) (hp : ∃ x ∈ hosts, p x) :
    ∃ x ∈ hosts, c.isBound x = false ∧ p x := by
  obtain ⟨x, hx, hpx⟩ := hp
  refine ⟨x, hx, ?_, hpx⟩
  rw [← Bool.not_eq_true, h.isBound_iff]
  rintro ⟨r, s, hs, -⟩
  cases hs.symm.trans (hnone r)

omit [Cluster σ] in
/-- Some host that is a master is free, if the live replica is none. -/
theorem Founded.free_master (h : Founded d c w) (hnodup : (d.hosts.map Host.toEndpoint).Nodup)
    (hmaster : ∃ h ∈ d.hosts, K.role d.config.topology h = some .master) (hm : c.master = none)
    (hr : ∀ s, c.replica = some s → K.role d.config.topology s.host ≠ some .master) :
    ∃ h ∈ d.hosts, c.isBound h = false ∧ K.role d.config.topology h = some .master := by
  obtain ⟨x, hx, hrole⟩ := hmaster
  refine ⟨x, hx, ?_, hrole⟩
  rw [← Bool.not_eq_true, h.coherent.isBound_iff]
  rintro ⟨r, s, hs, he⟩
  cases r with
  | master => cases hs.symm.trans hm
  | replica =>
    have hsx : s.host = x :=
      List.inj_on_of_nodup_map hnodup (h.placed.mem .replica s hs) hx he
    exact hr s hs (hsx ▸ hrole)

theorem meets_closeSlot_steady (hK : K.Steady d.connectTimeout) {slot : Option Slot}
    {stuck : World σ → Prop} (hw : K.holds w.servers) : (closeSlot slot).Meets w
      (fun _ w' => K.Goes (sessionIn slot) w.servers w'.servers) stuck := by
  cases slot with
  | none => exact meets_pure (.refl hw)
  | some s =>
    rw [sessionIn_some]
    unfold closeSlot closeSession
    refine meets_bind (m := fun x w' => x = w.handles.get? s.session ∧ w' = w)
      (meets_ask ⟨rfl, rfl⟩) ?_
    rintro (_ | h) _ ⟨hx, rfl⟩
    · exact meets_pure (.refl hw)
    obtain hn : h.session = s.session := session_of_get? hx.symm
    unfold Handle.close
    dsimp only
    split_ifs
    · exact meets_pure (.refl hw)
    refine meets_bind (m := fun _ w' => w' = _) (meets_change rfl) fun _ w₁ h₁ => ?_
    subst h₁
    refine meets_bind (hK.hangsUp hw fun _ _ h => h) fun o w₂ h₂ => ?_
    rw [hn] at h₂
    split
    · exact (harmless_log _ _).meets fun _ w₃ h₃ => hK.still h₂ h₃
    · exact meets_pure h₂

theorem meets_abandon_steady (hK : K.Steady d.connectTimeout) {slot : Option Slot}
    {role searched : String} {stuck : World σ → Prop} (ho : w.Orderly) (hw : K.holds w.servers) :
    (abandon slot role searched).Meets w (fun _ w' => w.Onward (sessionIn slot) w' ∧
      K.Goes (sessionIn slot) w.servers w'.servers) stuck := by
  have hgoes : (closeSlot slot).Meets w (fun _ w' => K.Goes (sessionIn slot) w.servers w'.servers)
      fun _ => True := meets_closeSlot_steady hK hw
  refine meets_abandon_of (((meets_closeSlot ho).and hgoes).mono ?_ fun _ h => h.1)
  intro _ w₁ h₁ w₂ h₂
  exact ⟨h₁.1.beside h₂.beside, hK.still h₁.2 h₂⟩

variable (hK : K.Steady d.connectTimeout)
  (hmaster : ∃ h ∈ d.hosts, K.role d.config.topology h = some .master)

/-- What mending a connection with an election comes to. -/
structure Mended (K : Regime σ) (d : Deployment) (c c' : Connection) (w : World σ) : Prop where
  ready : Ready K d c' w
  routed : c'.currentSlot.isSome = true
  fit : K.Fit c → K.Fit c'

include hK

/-- The state of a connection that was in want of a master, after its election. -/
structure Remastered (K : Regime σ) (d : Deployment) (c c' : Connection) (w : World σ) : Prop
    extends Ready K d c' w where
  readOnly : c'.readOnly = c.readOnly
  master : ∃ s, c'.master = some s ∧ K.up s.host.toEndpoint = true
  replica : ∀ t, c'.replica = some t → c.replica = some t

omit hK in
omit [Cluster σ] in
theorem Remastered.mended (h : Remastered K d c c' w) : Mended K d c c' w := by
  obtain ⟨s, hs, -⟩ := h.master
  refine ⟨h.toReady, ?_, fun hfit t ht => hfit t (h.replica t ht)⟩
  rw [Connection.isSome_currentSlot h.rest, hs]
  rfl

/-- An election finds the master if some host that is one is free. -/
theorem meets_findMaster_steady (h : Sustained K d c w) (hm : c.master = none)
    (hfree : ∃ h ∈ d.hosts, c.isBound h = false ∧ K.role d.config.topology h = some .master) :
    (electAndRoute d c .masterOnly).Meets w
      (fun x w' => x.1 = .found ∧ Remastered K d c x.2 w') fun _ => False := by
  have hdown (r : Role) (hr : Goal.masterOnly.wants r = true) : c.isDown r = true := by
    cases r with
    | master => exact h.coherent.isDown_iff.2 ⟨hm, nofun⟩
    | replica => cases hr
  refine (meets_electAndRoute_steady hK h rfl hdown).mono ?_ fun _ h => h
  rintro ⟨outcome, c'⟩ w' ⟨hs', h', he, hr⟩
  obtain ⟨s, hs⟩ : ∃ s, c'.master = some s := by
    rcases hr.found rfl rfl hfree with hsome | ⟨hno, -⟩
    · exact Option.isSome_iff_exists.1 hsome
    · cases hno
  refine ⟨?_, ⟨h', hs'.rest⟩, he.readOnly, ⟨s, hs, ?_⟩, fun t => hr.replica t rfl⟩
  · cases outcome with
    | found => rfl
    | exhausted e =>
      have hnone : c'.master = none :=
        he.vacant e .master rfl (fun r hr => by cases r <;> first | rfl | cases hr) hm
      cases hs.symm.trans hnone
  · rcases hr.alive .master s hs with hup | ⟨hno, -⟩
    · exact hup
    · cases hno

theorem meets_seekMaster_steady (h : Ready K d c w) (hrep : c.replica.isSome = true) :
    (seekMaster d c).Meets w (fun x w' => Mended K d c x.2 w') fun _ => False := by
  have hready : (seekMaster d c).Meets w
      (fun x w' => Ready K d x.2 w' ∧ (K.Fit c → K.Fit x.2)) fun _ => False := by
    refine meets_seekMaster_of (fun _ => ⟨h, id⟩) fun hdown => ?_
    have h' : Sustained K d { c with fallbackReads := 0 } w := h.toSustained.of_shape rfl
    have hdown' (r : Role) (hr : Goal.masterOnly.inOnePass.wants r = true) :
        ({ c with fallbackReads := 0 } : Connection).isDown r = true := by
      cases r with
      | master => exact hdown
      | replica => cases hr
    refine (meets_electAndRoute_steady hK h' rfl hdown').mono ?_ fun _ h => h
    intro x w' hx answer failure
    obtain ⟨hs₁, h₁, -, hr⟩ := hx
    exact ⟨⟨h₁.of_shape rfl, (hs₁.of_shape rfl).rest⟩, hr.fit⟩
  refine ((meets_seekMaster h.settled).and hready).mono ?_ fun _ h => h.2
  intro x w' h'
  obtain ⟨hsought, hready, hfit⟩ := h'
  refine ⟨hready, ?_, hfit⟩
  rw [Connection.isSome_currentSlot hready.rest, hsought.replica, hrep, Bool.or_true]

theorem meets_tryMaster_steady (h : Ready K d c w) (hrep : c.replica.isSome = true) :
    (tryMaster d c).Meets w (fun x w' => x.1 = .ok () ∧ Mended K d c x.2 w') fun _ => False := by
  refine meets_tryMaster_of ((meets_seekMaster_steady hK h hrep).mono ?_ fun _ h => h)
  intro x w' hx w'' hw
  exact ⟨rfl, ⟨hx.ready.toSustained.still hK hw, hx.ready.rest⟩, hx.routed, hx.fit⟩

theorem meets_findReplica_steady (h : Sustained K d c w) (hrep : c.replica = none)
    (hwanted : c.hasReplicas = true) (hm : c.master.isSome = true) :
    (electAndRoute d c Goal.replicaOnly.inOnePass).Meets w (fun x w' => Ready K d x.2 w' ∧
      x.2.currentSlot.isSome = true ∧ K.Fit x.2 ∧
        ∀ e, x.1 = .exhausted e → x.2.current = some .master) fun _ => False := by
  have hdown (r : Role) (hr : Goal.replicaOnly.inOnePass.wants r = true) :
      c.isDown r = true := by
    cases r with
    | master => cases hr
    | replica => exact h.coherent.isDown_iff.2 ⟨hrep, fun _ => hwanted⟩
  refine (meets_electAndRoute_steady hK h rfl hdown).mono ?_ fun _ h => h
  intro x w' hx
  obtain ⟨hs', h', he, hr⟩ := hx
  have hfit : K.Fit c := by
    intro s hs
    cases hrep.symm.trans hs
  refine ⟨⟨h', hs'.rest⟩, ?_, hr.fit hfit, ?_⟩
  · rw [Connection.isSome_currentSlot hs'.rest, he.master hm, Bool.true_or]
  · intro e hx
    exact (hx ▸ he).current_master hs'.rest hrep hm

include hmaster

theorem meets_electRoles_steady (h : Sustained K d c w) (hnone : ∀ r, c.slot? r = none) :
    (electRoles d c).Meets w (fun x w' => x.1 = .ok () ∧ Mended K d c x.2 w') fun _ => False := by
  have hfree := h.coherent.free_of_empty hnone hmaster
  refine meets_electRoles_of (A := fun c' w' => c' = c ∧ w' = w ∨ Mended K d c c' w' ∧
    c'.masterDown = false) ?_ (fun _ => .inl ⟨rfl, rfl⟩) ?_ ?_
  · intro hrep
    have hdown (r : Role) (_ : Goal.both.inOnePass.wants r = true) : c.isDown r = true :=
      h.coherent.isDown_iff.2 ⟨hnone r, fun _ => hrep⟩
    refine (meets_electAndRoute_steady hK h rfl hdown).mono ?_ fun _ h => h
    rintro x w' ⟨hs', h', -, hr⟩
    right
    have hsome : x.2.master.isSome = true := by
      rcases hr.found rfl rfl hfree with hsome | ⟨hno, -⟩
      · exact hsome
      · cases hno
    refine ⟨⟨⟨h', hs'.rest⟩, ?_, hr.fit⟩, ?_⟩
    · rw [Connection.isSome_currentSlot hs'.rest, hsome, Bool.true_or]
    · rw [hs'.coherent.masterDown]
      simpa using hsome
  · rintro c' w' (⟨rfl, rfl⟩ | ⟨h', -⟩) hup
    · have hdown : c'.isDown .master = true :=
        h.coherent.isDown_iff.2 ⟨hnone .master, nofun⟩
      cases hup.symm.trans hdown
    · exact ⟨rfl, h'⟩
  · rintro c' w' (⟨rfl, rfl⟩ | ⟨-, hup⟩) hdown
    · refine (meets_findMaster_steady hK h (hnone .master) hfree).mono ?_ fun _ h => h
      rintro x w' ⟨hfound, h'⟩ answer ha
      exact ⟨ha.2 hfound, h'.mended⟩
    · cases hup.symm.trans hdown

theorem meets_reconnect_steady (h : Ready K d c w) (hnone : c.currentSlot = none) :
    (reconnect d c).Meets w (fun x w' => x.1 = .ok () ∧ Mended K d c x.2 w') fun _ => False := by
  have hempty (q : Role) : ({ c.withoutSessions with fallbackReads := 0 } : Connection).slot? q =
      none := by cases q <;> rfl
  refine meets_reconnect_vacant h.settled hnone ?_ fun hslots _ => ?_
  · intro hclosed
    cases hclosed.symm.trans h.isOpen
  have h' : Sustained K d { c.withoutSessions with fallbackReads := 0 } w := by
    have ho : w.Onward (sessionIn (c.slot? .master)) w := Onward.refl w
    refine h.toSustained.emptied ho (.refl h.leads.holds) ?_ rfl rfl fun q => ?_
    · exact .of_shape (c := c.withoutSessions) rfl (.withoutSessions c)
    · rw [hempty, hslots, ite_self]
  refine (meets_electRoles_steady hK hmaster h' hempty).mono ?_ fun _ h => h
  rintro x w' ⟨hanswer, hmended⟩
  refine ⟨hanswer, hmended.ready, hmended.routed, ?_⟩
  intro _
  refine hmended.fit ?_
  intro s hs
  cases hs

/-- What a connection recovers to after its master was lost: a master that is up, and commands go
there unless they are to go to a replica. -/
theorem meets_recoverMaster_steady (hnodup : (d.hosts.map Host.toEndpoint).Nodup)
    (inTransaction : Bool) (h : Ready K d c w) (hcur : c.current = some .master) :
    (recoverMaster d inTransaction c).Meets w (fun x w' => x.1 = .restored ∧
      Mended K d c x.2 w' ∧ ∃ s, x.2.currentSlot = some s ∧ K.up s.host.toEndpoint = true)
      fun _ => False := by
  have gone : (abandon c.master "Master" "master").Meets w
      (fun _ w' => w.Onward (sessionIn c.master) w' ∧ ∀ now, Sustained K d (c.masterLost now) w')
      fun _ => False :=
    (meets_abandon_steady hK h.orderly h.leads.holds).mono
      (fun _ _ ⟨onward, goes⟩ => ⟨onward, h.toSustained.masterLost onward goes⟩) fun _ h => h
  refine meets_recoverMaster_of (B := fun _ x w' => Sustained K d x.1 w' ∧
      (∀ s, x.1.master = some s → K.up s.host.toEndpoint = true) ∧ K.Declines d x.1 x.2)
    h.toSound gone (fun now w₁ h₁ _ => ?asks) ?promoted fun now w₂ hb _ => ?elects
  case asks =>
    have hdown (r : Role) (hr : Goal.masterOnly.wants r = true) :
        (c.masterLost now).isDown r = true := by
      cases r with
      | master => rfl
      | replica => cases hr
    have hbegun : Gathered K d True (c.masterLost now) .masterOnly w₁ (c.masterLost now)
        .masterOnly w₁ := (h₁ now).toFounded.gathered (h₁ now).isOpen (h₁ now).leads hdown
    refine (hbegun.rechecks hK rfl trivial).mono ?_ fun _ h => h
    rintro x w₂ ⟨hg, hdeclines, _⟩
    refine ⟨hg.sustained (h₁ now), ?_, hdeclines⟩
    intro s hs
    rcases hg.alive (r := .master) hs with hup | ⟨hwants, -⟩
    · exact hup
    · cases hwants
  case promoted =>
    rintro now s w₂ ⟨hs₂, hup, -⟩ hsettled
    have hm : ((c.masterLost now).promote s).master = some s := Connection.slot_promote_master _ s
    have hr : ((c.masterLost now).promote s).replica = none := Connection.slot_promote_replica _ s
    have hslot := Connection.currentSlot_of_master hsettled.rest hm fun _ => hr
    have hrouted : ((c.masterLost now).promote s).currentSlot.isSome = true := by
      rw [hslot]
      rfl
    have hfit : K.Fit ((c.masterLost now).promote s) := by
      intro t ht
      cases hr.symm.trans ht
    have hready : Ready K d ((c.masterLost now).promote s) w₂ := ⟨hs₂, hsettled.rest⟩
    exact ⟨rfl, ⟨hready, hrouted, fun _ => hfit⟩, s, hslot, hup s hm⟩
  case elects =>
    obtain ⟨hs₂, -, hdeclines⟩ := hb
    have hfree := hs₂.toFounded.free_master hnodup hmaster rfl (hdeclines rfl)
    refine (meets_findMaster_steady hK hs₂ rfl hfree).mono ?_ fun _ h => h
    intro x w₃ hx
    obtain ⟨hfound, h₃⟩ := hx
    have hno (e : Error) (he : x.1 = .exhausted e) : False := by
      cases hfound.symm.trans he
    refine ⟨?_, fun e he => (hno e he).elim⟩
    intro _
    obtain ⟨s, hs, hup⟩ := h₃.master
    have hreplica : x.2.readOnly = true → x.2.replica = none := by
      intro hmode
      have hnone : c.replica = none := Connection.replica_of_target (h.rest.symm.trans hcur)
        (h₃.readOnly.symm.trans hmode)
      rw [Option.eq_none_iff_forall_ne_some] at hnone ⊢
      intro t ht
      exact hnone t (h₃.replica t ht)
    have hslot := Connection.currentSlot_of_master h₃.rest hs hreplica
    refine ⟨rfl, ⟨h₃.toReady, h₃.mended.routed, ?_⟩, s, hslot, hup⟩
    intro hfit
    exact h₃.mended.fit hfit

theorem meets_findAny_steady (h : Sustained K d c w) (hnone : ∀ r, c.slot? r = none)
    (hwanted : c.hasReplicas = true) :
    (electAndRoute d c Goal.both.orReplicaOnly).Meets w (fun x w' => Ready K d x.2 w' ∧
      x.2.currentSlot.isSome = true ∧ K.Fit x.2) fun _ => False := by
  have hfree := h.coherent.free_of_empty hnone hmaster
  have hdown (r : Role) (_ : Goal.both.orReplicaOnly.wants r = true) : c.isDown r = true :=
    h.coherent.isDown_iff.2 ⟨hnone r, fun _ => hwanted⟩
  refine (meets_electAndRoute_steady hK h rfl hdown).mono ?_ fun _ h => h
  intro x w' hx
  obtain ⟨hs', h', -, hr⟩ := hx
  have hfit : K.Fit c := by
    intro s hs
    cases (hnone .replica).symm.trans hs
  refine ⟨⟨h', hs'.rest⟩, ?_, hr.fit hfit⟩
  rw [Connection.isSome_currentSlot hs'.rest]
  rcases hr.found rfl rfl hfree with hsome | ⟨-, hsome⟩
  · rw [hsome, Bool.true_or]
  · rw [hsome rfl, Bool.or_true]

/-- What a connection recovers to after its replica was lost: another one that is up, or none. -/
theorem meets_recoverReplica_steady (h : Ready K d c w) (hrep : c.replica.isSome = true) :
    (recoverReplica d c).Meets w (fun x w' => x.1 = .restored ∧ Ready K d x.2 w' ∧
      x.2.currentSlot.isSome = true ∧ K.Fit x.2) fun _ => False := by
  have gone : (abandon c.replica "Replica" "replica").Meets w
      (fun _ w' => w.Onward (sessionIn c.replica) w' ∧ Sustained K d c.replicaLost w')
      fun _ => False :=
    (meets_abandon_steady hK h.orderly h.leads.holds).mono
      (fun _ _ ⟨onward, goes⟩ => ⟨onward, h.toSustained.replicaLost onward goes hrep⟩) fun _ h => h
  have hwanted : c.hasReplicas = true := h.coherent.replica hrep
  refine meets_recoverReplica_of h.toSound hrep gone ?_ ?_
  · intro w₁ h₁ _ hm
    refine (meets_findReplica_steady hK h₁ rfl hwanted hm).mono ?_ fun _ h => h
    intro x w₂ hx
    obtain ⟨h₂, hrouted, hfit, hcur⟩ := hx
    constructor
    · intro _
      exact ⟨rfl, h₂, hrouted, hfit⟩
    · intro e w₃ he h₃
      have h₃' : Ready K d x.2 w₃ := ⟨h₂.toSustained.still hK h₃, h₂.rest⟩
      rw [← hcur e he]
      exact ⟨rfl, h₃', hrouted, hfit⟩
  · intro w₁ h₁ _ hm
    have hnone (r : Role) : c.replicaLost.slot? r = none := by
      cases r with
      | master => exact hm
      | replica => rfl
    refine (meets_findAny_steady hK hmaster h₁ hnone hwanted).mono ?_ fun _ h => h
    intro x w₂ hx
    obtain ⟨h₂, hrouted, hfit⟩ := hx
    constructor
    · intro _
      exact ⟨rfl, h₂, hrouted, hfit⟩
    · intro e _
      exact ⟨if_pos hrouted, h₂, hrouted, hfit⟩

/-- What a connection recovers to after the session that is routed to was lost. If it was a
replica's, the session routed to next may be broken as well, but then there is no replica. -/
theorem meets_recover_steady (hnodup : (d.hosts.map Host.toEndpoint).Nodup) (inTransaction : Bool)
    {q : Slot} (h : Ready K d c w) (hq : c.currentSlot = some q) :
    (recover d q.session inTransaction c).Meets w (fun x w' => x.1 = .restored ∧
      Ready K d x.2 w' ∧ x.2.currentSlot.isSome = true ∧
        ((K.Fit c → K.Fit x.2) ∧ (∃ s, x.2.currentSlot = some s ∧ K.up s.host.toEndpoint = true) ∨
          c.replica = some q ∧ K.Fit x.2)) fun _ => False := by
  obtain ⟨r, hcur, hslot⟩ : ∃ r, c.current = some r ∧ c.slot? r = some q := by
    simpa [Connection.currentSlot, Option.bind_eq_some_iff] using hq
  unfold recover
  rw [h.isOpen, if_neg Bool.false_ne_true]
  cases r with
  | master =>
    have hrole : c.roleOf q.session = some .master := by
      have hm : c.master = some q := hslot
      simp [Connection.roleOf, hm]
    rw [hrole]
    refine (meets_recoverMaster_steady hK hmaster hnodup inTransaction h hcur).mono ?_ fun _ h => h
    intro x w' hx
    exact ⟨hx.1, hx.2.1.ready, hx.2.1.routed, .inl ⟨hx.2.1.fit, hx.2.2⟩⟩
  | replica =>
    have hr : c.replica = some q := hslot
    have hrole : c.roleOf q.session = some .replica := by
      have hm : c.master.any (·.session = q.session) = false := by
        rcases hm : c.master with _ | m
        · rfl
        · have hne := h.session_ne (r := .master) (q := .replica) hm hr (by decide)
          simpa using hne
      simp [Connection.roleOf, hm, hr]
    rw [hrole]
    refine (meets_recoverReplica_steady hK hmaster h (by rw [hr]; rfl)).mono ?_ fun _ h => h
    intro x w' hx
    exact ⟨hx.1, hx.2.1, hx.2.2.1, .inr ⟨hr, hx.2.2.2⟩⟩

end Ready

end Failover
