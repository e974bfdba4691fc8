import Failover.Proofs.Aftermath
import Failover.Proofs.Lingering
import Failover.Proofs.Promotion

/-!
# How a replica takes over

A live replica that is asked again takes over as a whole or not at all (`Inquiry`): either nothing
changes but that it was asked, or its session moves into the slot of the master, with the handle it
has. The states in which it is asked are those at rest, those in which a master was just given up,
and those between two passes of an election (`Asking`). All of them are sound, since elections begin
in sound states (`Occasion.grounded`) and their passes keep them sound (`Opening.Grounded.pass`).
-/

namespace Failover

open Act World

variable {σ : Type}

section Inquiry

/-! ## What the question comes to -/

/-- What asking the live replica again comes to, with all that it changes. -/
inductive Inquiry (c : Connection) (g : Goal) (w : World σ) : Connection → Goal → World σ → Prop
  /-- There is a master, or no live replica, and nothing is done at all. -/
  | idle (unneeded : c.masterDown = false ∨ c.replicaAvailable = false) : Inquiry c g w c g w
  /-- The replica was asked and is no master, as far as it can be told. -/
  | stays {w' : World σ} {s : Slot} {q : Question} (missing : c.masterDown = true)
      (live : c.replicaAvailable = true) (replica : c.replica = some s)
      (session : q.session = s.session) (verdict : q.verdict ≠ .role .master)
      (notes : w.Notes q.events w') (handles : w'.handles = w.handles) : Inquiry c g w c g w'
  /-- The replica was asked and is the master. -/
  | takesOver {w' : World σ} {s : Slot} {q : Question} {h : Handle} (missing : c.masterDown = true)
      (vacant : c.master = none) (live : c.replicaAvailable = true) (replica : c.replica = some s)
      (session : q.session = s.session) (verdict : q.verdict = .role .master)
      (notes : w.Notes q.events w') (handle : w.handles.get? s.session = some h)
      (isOpen : h.closed = false)
      (handles : ∀ n, w'.handles.get? n =
        if n = s.session then some { h with role := .master } else w.handles.get? n) :
      Inquiry c g w
        { c with
          master := some s, replica := none, current := some .master, masterDown := false,
          replicaDown := true, lastMasterFailure := none }
        { g with wantsMaster := false } w'

theorem Connection.promote_eq {c : Connection} (h : c.hasReplicas = true) (s : Slot) :
    c.promote s =
      { c with
        master := some s, replica := none, current := some .master, masterDown := false,
        replicaDown := true, lastMasterFailure := none } := by
  unfold Connection.promote Connection.route
  rw [h]
  rcases hcur : c.current with _ | _ | _ <;>
    simp [Connection.currentSlot, Connection.slot?, Connection.replicaAvailable,
      Connection.masterAvailable]

variable [Cluster σ] {d : Deployment} {c : Connection} {g : Goal} {w : World σ}

theorem meets_inquiry (hs : Sound d c w) : (recheckReplica d c g).Meets w
    (fun x w' => Inquiry c g w x.1 x.2 w') fun _ => False := by
  refine meets_recheck_of hs (fun hidle => .idle (hidle.imp id fun hnone => ?_)) ?_
  · simp [Connection.replicaAvailable, hnone]
  intro s h hdown hrep hh _ _
  have hwanted : c.hasReplicas = true := hs.coherent.replica (by rw [hrep]; rfl)
  have hlive : c.replicaAvailable = true := by rw [hs.coherent.replicaAvailable, hrep]; rfl
  have hopen : h.closed = false := by
    obtain ⟨h', hh', -, -, hopen⟩ := hs.holds .replica s hrep
    rwa [Option.some.inj (hh.symm.trans hh')]
  have hasked : (d.config.topology.judge d.connectTimeout h.host s.session).Meets w
      (fun v u => ∃ q : Question, q.session = s.session ∧ q.verdict = v ∧ w.Notes q.events u)
      fun _ => False := meets_judge_account fun q u hn hu => ⟨q, hn, rfl, hu⟩
  have hbeside : (d.config.topology.judge d.connectTimeout h.host s.session).Meets w
      (fun _ u => u.handles = w.handles) fun _ => False := meets_judge fun _ _ hu => hu.handles
  refine (hasked.and hbeside).mono ?_ fun _ h => h.1
  rintro v u ⟨⟨q, hq, rfl, hnotes⟩, hhandles⟩
  refine ⟨?_, ?_⟩
  · intro hv u' hu
    rw [Connection.promote_eq hwanted]
    have hnotes' : w.Notes q.events u' := by
      simpa using hnotes.trans (notes_of_eq hu.journal)
    refine .takesOver hdown (hs.coherent.master_eq_none hdown) hlive hrep hq hv hnotes' hh hopen
      fun n => ?_
    rw [hu.handles, Handles.get?_put, hhandles, session_of_get? hh]
  · intro hv u' hu
    exact .stays hdown hlive hrep hq hv (hnotes.still hu) (hu.handles.trans hhandles)

end Inquiry

section Asking

/-! ## When the replica is asked -/

variable [Cluster σ] {d : Deployment} {c : Connection} {w : World σ}

/-- An election that begins in a sound state, and wants replicas only where they are used. -/
structure Opening.Grounded (d : Deployment) (x : Opening σ) : Prop where
  sound : Sound d x.connection x.world
  replicas : x.goal.wantsReplica = true → x.connection.hasReplicas = true
  wanting : x.goal.isEnough = false

theorem Settled.grounded_openingsForRoles (hs : Settled d c w) :
    ∀ x ∈ openingsForRoles d c w, x.Grounded d := by
  intro x hx
  rcases List.mem_append.1 hx with hx | hx
  · obtain ⟨hrep, hx⟩ := List.mem_ite_nil_right.1 hx
    rw [List.mem_singleton.1 hx]
    exact ⟨hs.toSound, fun _ => hrep, rfl⟩
  · obtain ⟨c', w', hrun, hx⟩ := mem_followed.1 hx
    obtain ⟨-, hx⟩ := List.mem_ite_nil_right.1 hx
    rw [List.mem_singleton.1 hx]
    exact ⟨((settled_seekBoth hs).value hrun).toSound, nofun, rfl⟩

theorem World.Orderly.abandon {slot : Option Slot} {role searched : String} {x : Unit}
    {w' : World σ} (hw : w.Orderly)
    (h : Failover.abandon slot role searched w = (some x, w')) :
    w.Onward (sessionIn slot) w' := by
  have hmeets : (Failover.abandon slot role searched).Meets w
      (fun _ w' => w.Onward (sessionIn slot) w') fun _ => True := meets_abandon hw
  exact hmeets.value h

theorem Settled.grounded_openingsForLostMaster (hs : Settled d c w) :
    ∀ x ∈ openingsForLostMaster d c w, x.Grounded d := by
  intro x hx
  obtain ⟨_, w₁, habandon, hx⟩ := mem_followed.1 hx
  obtain ⟨y, w₂, hasks, hx⟩ := mem_followed.1 hx
  obtain ⟨hwants, hx⟩ := List.mem_ite_nil_right.1 hx
  have hs₁ := hs.toSound.masterLost (hs.orderly.abandon habandon) w.now
  have hrecheck := (meets_recheckReplica hs₁).value hasks
  have hs₂ := hrecheck.sound hs₁
  rw [List.mem_singleton.1 hx]
  rcases y with ⟨c', g'⟩
  cases hrecheck with
  | same => exact ⟨hs₂, nofun, rfl⟩
  | promoted => cases hwants

theorem Settled.grounded_openingsForLostReplica (hs : Settled d c w)
    (hrep : c.replica.isSome = true) : ∀ x ∈ openingsForLostReplica c w, x.Grounded d := by
  intro x hx
  obtain ⟨_, w₁, habandon, hx⟩ := mem_followed.1 hx
  have hs₁ := hs.toSound.replicaLost (hs.orderly.abandon habandon) hrep
  rw [List.mem_singleton.1 hx]
  refine ⟨hs₁, fun _ => hs.coherent.replica hrep, ?_⟩
  dsimp only
  split <;> rfl

omit [Cluster σ] in
theorem Settled.grounded_openingsForMode (hs : Settled d c w) {readOnly : Bool} :
    ∀ x ∈ openingsForMode { c with readOnly } w, x.Grounded d := by
  intro x hx
  have stay (h : c.target = ({ c with readOnly } : Connection).target) :
      Sound d { c with readOnly } w := (hs.toSound.aimed (hs.rest.trans h)).toSound
  unfold openingsForMode at hx
  cases readOnly with
  | true =>
    obtain ⟨hwants, hx⟩ := List.mem_ite_nil_right.1 hx
    obtain ⟨hmissing, hrep⟩ := Bool.and_eq_true_iff.1 hwants
    have havailable : Connection.replicaAvailable { c with readOnly := true } = c.replica.isSome :=
      hs.coherent.replicaAvailable
    have hnone : c.replica = none := by simpa [havailable] using hmissing
    rw [List.mem_singleton.1 hx]
    exact ⟨stay (by simp [Connection.target, hnone]), fun _ => hrep, rfl⟩
  | false =>
    obtain ⟨hmissing, hx⟩ := List.mem_ite_nil_left.1 hx
    have havailable : Connection.masterAvailable { c with readOnly := false } = c.master.isSome :=
      hs.coherent.masterAvailable
    have hnone : c.master = none := by simpa [havailable] using hmissing
    rw [List.mem_singleton.1 hx]
    refine ⟨stay (by simp [Connection.target, hnone]), ?_, rfl⟩
    intro hf
    cases hf

/-- All elections begin in sound states. -/
theorem Occasion.grounded {o : Occasion} (hs : Settled d c w) :
    ∀ x ∈ o.openings d c w, x.Grounded d := by
  intro x hx
  cases o with
  | establish => exact hs.grounded_openingsForRoles x hx
  | reconnect =>
    obtain ⟨-, hx⟩ := List.mem_ite_nil_left.1 hx
    obtain ⟨c', w', hcloses, hx⟩ := mem_followed.1 hx
    obtain ⟨-, hs', -⟩ := ((upkeep_quiet w).closeSessions c.closed hs.toSound
      (Quiet.refl w)).value hcloses
    have hs₁ : Settled d { c' with fallbackReads := 0 } w' := hs'.of_shape rfl
    exact hs₁.grounded_openingsForRoles x hx
  | seekMaster | tryMaster =>
    obtain ⟨-, hx⟩ := List.mem_ite_nil_right.1 hx
    rw [List.mem_singleton.1 hx]
    exact ⟨hs.toSound.of_shape rfl, nofun, rfl⟩
  | switchMode readOnly =>
    obtain ⟨-, hx⟩ := List.mem_ite_nil_left.1 hx
    obtain ⟨held, w', hheld, hx⟩ := mem_followed.1 hx
    obtain ⟨-, hx⟩ := List.mem_ite_nil_left.1 hx
    obtain ⟨_, _, hrun, hstill⟩ := harmless_isHeldBack readOnly c w
    cases hrun.symm.trans hheld
    exact (hs.beside hstill.beside).grounded_openingsForMode x hx
  | recover failed b =>
    obtain ⟨-, hx⟩ := List.mem_ite_nil_left.1 hx
    cases hr : c.roleOf failed with
    | none =>
      rw [hr] at hx
      obtain ⟨-, hx⟩ := List.mem_ite_nil_left.1 hx
      exact hs.grounded_openingsForLostMaster x hx
    | some r =>
      rw [hr] at hx
      cases r with
      | master => exact hs.grounded_openingsForLostMaster x hx
      | replica =>
        obtain ⟨slot, hslot, -⟩ := Connection.slot_of_roleOf hr
        exact hs.grounded_openingsForLostReplica (Option.isSome_iff_exists.2 ⟨slot, hslot⟩) x hx

/-- A pass keeps the state of an election sound. -/
theorem meets_onePass {u : World σ} {e : Election} (h : Ongoing d u e.connection e.goal w)
    (hwanting : e.goal.isEnough = false) : (onePass d e).Meets w (fun x w' =>
      Ongoing d u x.1.connection x.1.goal w' ∧ (x.2 = false → x.1.goal.isEnough = false))
      fun _ => True := by
  have hupheld : Upheld d (fun _ _ (_ : World σ) => True) fun _ => True :=
    Kept.upheld ⟨fun _ _ _ => trivial, fun _ _ => trivial⟩
  unfold onePass
  refine meets_bind (m := fun hs w' => hs.Perm (d.unbound e.connection) ∧ w.Still w')
    (meets_passOrder fun _ _ hp hw => ⟨hp, hw⟩) ?_
  rintro hs w₁ ⟨hperm, h₁⟩
  refine (meets_sweep (hupheld.sweeping (u := u)) hs e w₁
    ⟨Deployment.waits_of_perm hperm, h.beside h₁.beside, trivial⟩ hwanting).mono ?_
    fun _ _ => trivial
  rintro ⟨e', ended⟩ w' ⟨left, ⟨-, h', -⟩, -, hwanting'⟩
  exact ⟨h', fun hended => (hwanting' hended).2⟩

theorem Ongoing.reconsider {u : World σ} {first : Bool} {e e' : Election} {w' : World σ}
    (h : Ongoing d u e.connection e.goal w)
    (hrun : Failover.reconsider d first e w = (some e', w')) :
    Ongoing d u e'.connection e'.goal w' := by
  unfold Failover.reconsider at hrun
  cases first with
  | true =>
    cases hrun
    exact h
  | false =>
    obtain ⟨x, w₁, hasks, hpure⟩ := bind_eq_some.1 hrun
    cases hpure
    exact h.recheck ((meets_recheckReplica h.sound).value hasks)

/-- All passes of an election keep its state sound. -/
theorem ongoing_of_roundsFrom {u : World σ} (n : Nat) {first : Bool} {e : Election} {w : World σ}
    (h : Ongoing d u e.connection e.goal w) (hfirst : first = true → e.goal.isEnough = false) :
    ∀ p ∈ roundsFrom d first n e w, ∀ x w', p.run d = (some x, w') →
      Ongoing d u x.1.connection x.1.goal w' := by
  induction n generalizing first e w with
  | zero =>
    intro p hp
    cases hp
  | succ n ih =>
    intro p hp x w' hrun
    obtain ⟨_, q, hasks, hbegins⟩ := exists_begins (d := d) first e w
    rw [roundsFrom, hasks] at hp
    obtain ⟨hgoes, hp⟩ := List.mem_ite_nil_left.1 hp
    have hq := h.reconsider hasks
    have hwanting : q.election.goal.isEnough = false := by
      cases first with
      | true => rw [hbegins.first rfl, hfirst rfl]
      | false => simpa using hgoes
    have hpass := meets_onePass hq hwanting
    rcases List.mem_cons.1 hp with rfl | hp
    · exact (hpass.value hrun).1
    · split at hp
      next hone =>
        obtain ⟨-, hp⟩ := List.mem_ite_nil_left.1 hp
        exact ih (hpass.value hone).1 (fun h => Bool.noConfusion h) p hp x w' hrun
      next => cases hp

theorem Opening.Grounded.pass {x : Opening σ} (h : x.Grounded d) {p : Round σ}
    (hp : p ∈ x.rounds d) {y : Election × Bool} {w : World σ} (hrun : p.run d = (some y, w)) :
    Sound d y.1.connection w := by
  obtain ⟨hgoes, hp⟩ := List.mem_ite_nil_left.1 hp
  have hopen : x.connection.closed = false := by
    rw [Bool.not_eq_true, Bool.or_eq_false_iff] at hgoes
    exact hgoes.1
  obtain ⟨_, w₁, hlog, hstill⟩ :=
    harmless_log .debug s!"Starting election with {x.goal.text}" x.world
  rw [hlog] at hp
  have hstart : Ongoing d w₁ x.connection x.goal w₁ :=
    ⟨h.sound.beside hstill.beside, hopen, h.replicas, Quiet.refl w₁⟩
  exact (ongoing_of_roundsFrom _ hstart (fun _ => h.wanting) p hp y w hrun).sound

/-- The states in which the live replica is asked again, and those in which it might be. -/
inductive Asking (d : Deployment) : Connection → World σ → Prop
  /-- No section is under way. -/
  | rest {s : Scene σ} (h : Reachable d s) : Asking d s.connection s.world
  /-- A master has just been given up. -/
  | lost {s : Scene σ} {w : World σ} (h : Reachable d s)
      (given : abandon s.connection.master "Master" "master" s.world = (some (), w)) :
      Asking d (s.connection.masterLost s.world.now) w
  /-- A pass of an election has ended, and the election has not. -/
  | between {s : Scene σ} {o : Occasion} {x : Opening σ} {p : Round σ} {e : Election}
      {w : World σ} (h : Reachable d s) (opening : x ∈ o.openings d s.connection s.world)
      (pass : p ∈ x.rounds d) (ends : p.run d = (some (e, false), w)) : Asking d e.connection w

theorem Asking.sound (h : Asking d c w) : Sound d c w := by
  cases h with
  | rest h => exact h.atRest.settled.toSound
  | lost h given =>
    have hs := h.atRest.settled
    exact hs.toSound.masterLost (hs.orderly.abandon given) _
  | between h opening pass ends =>
    exact (Occasion.grounded h.atRest.settled _ opening).pass pass ends

end Asking

/-- A live replica that is asked again takes over as a whole or not at all, always comes to an
answer, and leaves the blacklist alone. -/
theorem takeover_all_or_nothing [Cluster σ] {d : Deployment} {c : Connection} {w : World σ}
    (h : Asking d c w) (g : Goal) : ∃ c' g' w', recheckReplica d c g w = (some (c', g'), w') ∧
      w'.blacklist = w.blacklist ∧ Inquiry c g w c' g' w' := by
  obtain ⟨⟨c', g'⟩, w', hrun, hinquiry⟩ := (meets_inquiry (g := g) h.sound).exists_value
  have hoverlooks := overlooks_recheckReplica (d := d) c g w
  rw [hrun] at hoverlooks
  exact ⟨c', g', w', hrun, hoverlooks.blacklist, hinquiry⟩

/-- There is no master, and the replica becomes one when it is asked. -/
def isTakenOver (c : Connection) (w : World Script) : Bool :=
  c.master.isNone &&
    (recheckReplica cloud c .masterOnly).yields w fun x _ => x.1.master.isSome

/-- The replica of a cloud that was promoted behind a stand-in's back. -/
theorem takeover_of_succession : ∃ (s : Scene Script) (c' : Connection) (g' : Goal)
    (w' : World Script), Reachable cloud s ∧ s.connection.master = none ∧
      recheckReplica cloud s.connection .masterOnly s.world = (some (c', g'), w') ∧
      c'.master.isSome = true ∧ w'.blacklist = s.world.blacklist ∧
      Inquiry s.connection .masterOnly s.world c' g' w' := by
  have hx : succession.yields { servers := ordered } isTakenOver = true := by decide +kernel
  obtain ⟨c, w, hy, hx⟩ := exists_of_yields hx
  obtain ⟨⟨tasks, hreachable⟩, -⟩ := reachable_succession hy
  obtain ⟨hnone, hyields⟩ := Bool.and_eq_true_iff.1 hx
  obtain ⟨x, u, hruns, hmaster⟩ := exists_of_yields hyields
  obtain ⟨c', g', w', hrun, hblacklist, hinquiry⟩ :=
    takeover_all_or_nothing (.rest hreachable) .masterOnly
  obtain rfl : x = (c', g') := Option.some.inj (congrArg Prod.fst (hruns.symm.trans hrun))
  exact ⟨_, c', g', w', hreachable, Option.isNone_iff_eq_none.1 hnone, hrun, hmaster, hblacklist,
    hinquiry⟩

end Failover
