import Failover.Operation
import Failover.Proofs.Election

/-!
# What every section keeps up

The sections that hand over no command try hosts, ask a replica again, close sessions, and give
slots up. What is kept by these four, and by what concerns no session, is kept by all of these
sections (`Upkeep`), and each of them leaves a connection at rest that it found at rest.
-/

namespace Failover

open Act World

variable {σ : Type}

section Settled

variable {d : Deployment} {c c' : Connection} {w w' : World σ}

theorem Settled.of_shape (h : Settled d c w) (hc : c.shape = c'.shape) : Settled d c' w where
  toSound := h.toSound.of_shape hc
  rest := by
    have hcur : c.shape.current = c'.shape.current := by rw [hc]
    calc c'.current = c.current := hcur.symm
      _ = c.target := h.rest
      _ = c'.target := Connection.target_of_shape hc

theorem Settled.beside (h : Settled d c w) (hw : w.Beside w') : Settled d c w' :=
  ⟨h.toSound.beside hw, h.rest⟩

theorem Settled.drift (h : Settled d c w) (servers : σ) (now : Nat) (blacklist : Blacklist) :
    Settled d c { w with servers, now, blacklist } where
  orderly := ⟨h.orderly.known, h.orderly.trusted⟩
  topology := h.topology
  coherent := h.coherent
  holds := h.holds
  rest := h.rest

/-- A connection at rest that routes to no session has none. -/
theorem Settled.vacant (h : Settled d c w) (hnone : c.currentSlot = none) (r : Role) :
    c.slot? r = none := by
  have hsome := Connection.isSome_currentSlot h.rest
  rw [hnone] at hsome
  obtain ⟨hm, hr⟩ : c.master = none ∧ c.replica = none := by simpa using hsome.symm
  cases r <;> assumption

/-- The mode is set, and commands go where they have to in that mode. -/
theorem Sound.aimed (h : Sound d c w) {b : Bool} {r : Option Role}
    (hr : r = ({ c with readOnly := b } : Connection).target) :
    Settled d { c with readOnly := b, current := r } w where
  orderly := h.orderly
  topology := h.topology
  coherent := ⟨h.coherent.masterDown, h.coherent.replicaDown, h.coherent.replica, .inr hr⟩
  holds r s hs := h.holds r s (by cases r <;> exact hs)
  rest := hr

end Settled

/-- The session of the slot was closed, and those that had been before still are. -/
structure World.Shuts (slot : Option Slot) (w w' : World σ) : Prop where
  own : ∀ s, slot = some s → w'.Shut s.session
  others : ∀ n, w.Shut n → w'.Shut n

/-- Slots may have been given up whose sessions are closed, none has been filled, and the database
is the same. A connection is closed for good with all its slots. -/
structure Connection.Fewer (w : World σ) (c c' : Connection) : Prop where
  slot : ∀ r s, c'.slot? r = some s → c.slot? r = some s
  gone : ∀ r s, c.slot? r = some s → c'.slot? r = none → w.Shut s.session
  catalog : c'.catalog = c.catalog
  closed : c'.closed = c.closed ∨ ∀ r, c'.slot? r = none

section Fewer

variable {c c' : Connection} {w w' : World σ}

theorem World.Shuts.of_handles {slot : Option Slot} {u : World σ} (h : u.Shuts slot w)
    (hw : w'.handles = w.handles) : u.Shuts slot w' where
  own s hs := (h.own s hs).of_handles hw
  others n hn := (h.others n hn).of_handles hw

theorem Connection.fewer_of_eq (hm : c'.master = c.master) (hr : c'.replica = c.replica)
    (hk : c'.catalog = c.catalog) (hx : c'.closed = c.closed) : c.Fewer w c' := by
  have slot (r : Role) : c'.slot? r = c.slot? r := by cases r <;> assumption
  refine ⟨?_, ?_, hk, .inl hx⟩
  · intro r s h
    rwa [← slot r]
  · intro r s h hn
    rw [slot r, h] at hn
    cases hn

theorem Connection.fewer_route (c : Connection) : c.Fewer w c.route :=
  fewer_of_eq (c.slot_route .master) (c.slot_route .replica) c.catalog_route c.closed_route

theorem Connection.fewer_of_emptied {r : Role} {u : World σ} (hs : u.Shuts (c.slot? r) w)
    (hc : ∀ q, c'.slot? q = if q = r then none else c.slot? q) (hk : c'.catalog = c.catalog)
    (hx : c'.closed = c.closed) : c.Fewer w c' := by
  refine ⟨?_, ?_, hk, .inl hx⟩
  · intro q s h
    rw [hc] at h
    split_ifs at h
    exact h
  · intro q s h hn
    rw [hc] at hn
    split_ifs at hn with hq
    · exact hs.own s (hq ▸ h)
    · cases h.symm.trans hn

theorem Connection.fewer_of_vacant (hs : ∀ r s, c.slot? r = some s → w.Shut s.session)
    (hc : ∀ r, c'.slot? r = none) (hk : c'.catalog = c.catalog) : c.Fewer w c' where
  slot r s h := by
    rw [hc] at h
    cases h
  gone r s h _ := hs r s h
  catalog := hk
  closed := .inr hc

/-- A session that was closed stays closed. -/
theorem meets_closeSession_shuts [Cluster σ] {s : Slot} {stuck : World σ → Prop} :
    (closeSession s.session).Meets w (fun _ w' => w.Shuts (some s) w') stuck := by
  refine meets_closeSession_of ?_ ?_
  · intro hs
    refine ⟨?_, fun _ hn => hn⟩
    intro t ht
    rwa [← Option.some.inj ht]
  · intro h w' hh _ hc
    refine ⟨?_, ?_⟩
    · intro t ht
      have hsession : t.session = h.session := by
        rw [← Option.some.inj ht, session_of_get? hh]
      exact hc.shut_iff.2 (.inl hsession)
    · intro n hn
      exact hc.shut_iff.2 (.inr hn)

end Fewer

/-- What is kept by all that sections do besides handing over commands. -/
structure Upkeep [Cluster σ] (d : Deployment) (Inv : Connection → World σ → Prop)
    (stuck : World σ → Prop) : Prop where
  tries : ∀ {h : Host} {waiting : List Host} {e : Election} {w : World σ},
    d.Offers e.connection h → Sound d e.connection w → e.connection.closed = false →
      Inv e.connection w →
      (tryHost d h waiting e).Meets w (fun x w' => Inv x.1.connection w') stuck
  rechecks : ∀ {c : Connection} {g : Goal} {w : World σ}, Sound d c w → Inv c w →
    (recheckReplica d c g).Meets w (fun x w' => Inv x.1 w') stuck
  closes : ∀ {n : SessionId} {c : Connection} {w : World σ}, w.Orderly → Inv c w →
    (closeSession n).Meets w (fun _ w' => Inv c w') stuck
  still : ∀ {c : Connection} {w w' : World σ}, Inv c w → w.Still w' → Inv c w'
  fewer : ∀ {c c' : Connection} {w : World σ}, Inv c w → c.Fewer w c' → Inv c' w

/-- Leaves a connection at rest that was at rest, and keeps the invariant. -/
def Maintains (d : Deployment) (Inv : Connection → World σ → Prop) (stuck : World σ → Prop)
    (β : Type) (act : Section σ β) : Prop :=
  ∀ c w, Settled d c w → Inv c w →
    (act c).Meets w (fun x w' => Settled d x.2 w' ∧ Inv x.2 w') stuck

section Admission

variable [Cluster σ] {d : Deployment} {cmd : Command} {c : Connection} {w : World σ}

omit [Cluster σ] in
theorem admission_eq (d : Deployment) (cmd : Command) (now : Nat) (c : Connection) :
    ∃ reads, (admission d cmd now c).2 = { c with fallbackReads := reads } := by
  unfold admission
  split_ifs
  · exact ⟨_, rfl⟩
  all_goals
    dsimp only
    split <;> split_ifs <;> exact ⟨_, rfl⟩

omit [Cluster σ] in
/-- Admitting a command has no say in where it goes. -/
theorem admission_shape (cmd : Command) (now : Nat) (c : Connection) :
    (admission d cmd now c).2.shape = c.shape := by
  obtain ⟨reads, h⟩ := admission_eq d cmd now c
  rw [h]
  rfl

theorem meets_assess {stuck : World σ → Prop} : (assess d cmd c).Meets w
    (fun x w' => x = admission d cmd w.now c ∧ w.Still w') stuck := by
  unfold assess
  refine meets_bind (m := fun x w' => x = w.now ∧ w' = w) (meets_ask ⟨rfl, rfl⟩) ?_
  rintro _ w ⟨rfl, rfl⟩
  generalize admission d cmd w.now c = x
  obtain ⟨a, c'⟩ := x
  dsimp only
  split
  · exact meets_bind_harmless (harmless_log _ _) fun _ w₁ h₁ => meets_pure ⟨rfl, h₁⟩
  · exact meets_pure ⟨rfl, Still.refl w⟩

end Admission

section Searches

/-! What a search for the master comes to, given what its election does. -/

variable [Cluster σ] {d : Deployment} {c : Connection} {w : World σ}
  {post : Except Error Unit × Connection → World σ → Prop} {stuck : World σ → Prop}

theorem meets_seekMaster_of (up : c.masterDown = false → post (.ok (), c) w)
    (down : c.masterDown = true →
      (electAndRoute d { c with fallbackReads := 0 } Goal.masterOnly.inOnePass).Meets w
        (fun x w' => ∀ answer failure, post (answer, { x.2 with lastMasterFailure := failure }) w')
        stuck) :
    (seekMaster d c).Meets w post stuck := by
  unfold seekMaster
  split
  next h => exact meets_pure (up (by simpa using h))
  next h =>
    refine meets_bind (down (by simpa using h)) ?_
    rintro ⟨_ | e, c'⟩ w' h'
    · exact meets_pure (h' (.ok ()) c'.lastMasterFailure)
    · exact meets_bind (m := fun _ w'' => w'' = w') (meets_ask rfl) fun now _ hw =>
        hw ▸ meets_pure (h' (.error e) (some now))

/-- A mode is entered from a connection that was at rest in the other one: there is nothing to look
for, or a session is looked for in a slot that is empty. -/
theorem meets_enterMode_of {readOnly : Bool} (hs : Settled d c w)
    (moves : ∀ r, Settled d { c with readOnly, current := r } w →
      post (.ok (), { c with readOnly, current := r }) w)
    (replica : readOnly = true → c.replica = none → c.hasReplicas = true →
      Settled d { c with readOnly } w →
        (electAndRoute d { c with readOnly } Goal.replicaOnly.inOnePass).Meets w
          (fun x w' => ∀ w'', w'.Still w'' → post (.ok (), x.2) w'') stuck)
    (master : readOnly = false → c.master = none → Settled d { c with readOnly } w →
      (electAndRoute d { c with readOnly } .masterOnly).Meets w
        (fun x w' => ∀ answer, post (answer, x.2) w') stuck) :
    (enterMode d { c with readOnly }).Meets w post stuck := by
  have stay (h : c.target = ({ c with readOnly } : Connection).target) :
      Settled d { c with readOnly } w := hs.toSound.aimed (hs.rest.trans h)
  unfold enterMode
  cases readOnly with
  | true =>
    simp only [if_true]
    split
    next ha =>
      have hrep : c.replica.isSome = true := hs.coherent.replicaAvailable.symm.trans ha
      exact meets_pure (moves _ (hs.toSound.aimed (by simp [Connection.target, hrep])))
    next ha =>
      have hrep : c.replica = none := by
        rw [← Option.not_isSome_iff_eq_none, ← hs.coherent.replicaAvailable]
        exact ha
      have hs' := stay (by simp [Connection.target, hrep])
      split
      · exact meets_pure (moves c.current hs')
      next hwanted =>
        refine meets_bind (replica rfl hrep (by simpa using hwanted) hs') ?_
        rintro ⟨outcome, c'⟩ w₁ h₁
        dsimp only
        split
        · exact meets_bind_harmless (harmless_log _ _) fun _ w₂ h₂ => meets_pure (h₁ w₂ h₂)
        · exact meets_pure (h₁ w₁ (Still.refl w₁))
  | false =>
    simp only [Bool.false_eq_true, if_false]
    split
    next ha =>
      have hmas : c.master.isSome = true := hs.coherent.masterAvailable.symm.trans ha
      refine meets_pure (moves _ (hs.toSound.aimed ?_))
      simp [Connection.target, hmas, Option.isSome_iff_ne_none.1 hmas]
    next ha =>
      have hmas : c.master = none := by
        rw [← Option.not_isSome_iff_eq_none, ← hs.coherent.masterAvailable]
        exact ha
      unfold electMaster
      refine meets_bind (master rfl hmas (stay (by simp [Connection.target, hmas]))) ?_
      rintro ⟨_ | e, c'⟩ w₁ h₁ <;> exact meets_pure (h₁ _)

/-- Where replicas are used, both roles are looked for first, and a master alone if that found
none. -/
theorem meets_electRoles_of {A : Connection → World σ → Prop}
    (both : c.hasReplicas = true → (electAndRoute d c Goal.both.inOnePass).Meets w
      (fun x w' => A x.2 w') stuck)
    (single : c.hasReplicas = false → A c w)
    (found : ∀ c' w', A c' w' → c'.masterDown = false → post (.ok (), c') w')
    (elects : ∀ c' w', A c' w' → c'.masterDown = true →
      (electAndRoute d c' .masterOnly).Meets w' (fun x w'' => ∀ answer, (answer = .ok () ↔
        x.1 = .found) → post (answer, x.2) w'') stuck) :
    (electRoles d c).Meets w post stuck := by
  have rest (c' : Connection) (w' : World σ) (h : A c' w') :
      (if c'.masterDown then electMaster d c' else pure (.ok (), c')).Meets w' post stuck := by
    unfold electMaster
    split
    next hdown =>
      refine meets_bind (elects c' w' h hdown) ?_
      rintro ⟨_ | e, c''⟩ w'' h'' <;> exact meets_pure (h'' _ (by simp))
    next hup => exact meets_pure (found c' w' h (by simpa using hup))
  unfold electRoles
  split
  next hrep => exact meets_bind (meets_map (both hrep)) rest
  next hrep => exact rest c w (single (by simpa using hrep))

/-- A connection at rest that routes to no session has none to close before it elects anew. -/
theorem meets_reconnect_vacant (hs : Settled d c w) (hnone : c.currentSlot = none)
    (closed : c.closed = true → post (.error .connectionClosed, c) w)
    (elects : (∀ r, c.slot? r = none) →
      Settled d { c.withoutSessions with fallbackReads := 0 } w →
        (electRoles d { c.withoutSessions with fallbackReads := 0 }).Meets w post stuck) :
    (reconnect d c).Meets w post stuck := by
  have hm : c.master = none := hs.vacant hnone .master
  have hr : c.replica = none := hs.vacant hnone .replica
  have hs' : Settled d { c.withoutSessions with fallbackReads := 0 } w := by
    refine ⟨⟨hs.orderly, hs.topology, .of_shape (c := c.withoutSessions) rfl (.withoutSessions c),
      fun r s h => ?_⟩, rfl⟩
    cases r <;> cases h
  unfold reconnect closeSessions
  split
  next hclosed => exact meets_pure (closed hclosed)
  next =>
    simp only [hm, hr, closeSlot, pure_bind]
    exact elects (hs.vacant hnone) hs'

theorem meets_tryMaster_of (h : (seekMaster d c).Meets w
    (fun x w' => ∀ w'', w'.Still w'' → post (.ok (), x.2) w'') stuck) :
    (tryMaster d c).Meets w post stuck := by
  unfold tryMaster
  refine meets_bind h ?_
  rintro ⟨outcome, c'⟩ w' h'
  dsimp only
  split
  · exact meets_bind_harmless (harmless_log _ _) fun _ w'' hw => meets_pure (h' w'' hw)
  · exact meets_pure (h' w' (Still.refl w'))

end Searches

section Recoveries

/-! What a recovery comes to, given what its elections do. -/

/-- The connection once its master is given up. -/
abbrev Connection.masterLost (c : Connection) (now : Nat) : Connection :=
  { c.withoutMaster now with failovers := c.failovers + 1 }

/-- The connection once its replica is given up. -/
abbrev Connection.replicaLost (c : Connection) : Connection :=
  { c.withoutReplica with failovers := c.failovers + 1 }

theorem Connection.Coherent.masterLost {c : Connection} (hc : c.Coherent) (now : Nat) :
    (c.masterLost now).Coherent :=
  .of_shape (c := c.withoutMaster now) rfl (hc.withoutMaster now)

theorem Connection.Coherent.replicaLost {c : Connection} (hc : c.Coherent)
    (hrep : c.replica.isSome = true) : c.replicaLost.Coherent :=
  .of_shape (c := c.withoutReplica) rfl (hc.withoutReplica hrep)

theorem Sound.masterLost {d : Deployment} {c : Connection} {w w' : World σ} (hs : Sound d c w)
    (ho : w.Onward (sessionIn c.master) w') (now : Nat) : Sound d (c.masterLost now) w' :=
  hs.emptied (r := .master) ho (hs.coherent.masterLost now) rfl fun q => by cases q <;> rfl

theorem Sound.replicaLost {d : Deployment} {c : Connection} {w w' : World σ} (hs : Sound d c w)
    (ho : w.Onward (sessionIn c.replica) w') (hrep : c.replica.isSome = true) :
    Sound d c.replicaLost w' :=
  hs.emptied (r := .replica) ho (hs.coherent.replicaLost hrep) rfl fun q => by cases q <;> rfl

variable [Cluster σ] {d : Deployment} {c : Connection} {w : World σ}
  {post : Recovery × Connection → World σ → Prop} {stuck : World σ → Prop}

theorem meets_abandon_of {slot : Option Slot} {role searched : String} {done : World σ → Prop}
    (closes : (closeSlot slot).Meets w (fun _ w' => ∀ w'', w'.Still w'' → done w'') stuck) :
    (abandon slot role searched).Meets w (fun _ w' => done w') stuck := by
  unfold abandon
  cases slot with
  | none => exact meets_pure (closes w (Still.refl w))
  | some s =>
    refine meets_bind closes fun _ w₁ h₁ => ?_
    refine meets_bind_harmless (harmless_log _ _) fun _ w₂ h₂ => ?_
    exact (harmless_blacklist s.host).meets fun _ w₃ h₃ => h₁ w₃ (h₂.trans h₃)

theorem meets_abandon {slot : Option Slot} {role searched : String} (hw : w.Orderly) :
    (abandon slot role searched).Meets w (fun _ w' => w.Onward (sessionIn slot) w') stuck :=
  meets_abandon_of ((meets_closeSlot hw).mono (fun _ _ h _ hw => h.beside hw.beside) fun _ h => h)

/-- What is `known` once the slot is given up follows from no other session being touched. -/
theorem meets_abandon_known {slot : Option Slot} {role searched : String} {known : World σ → Prop}
    (hw : w.Orderly) (follows : ∀ w', w.Onward (sessionIn slot) w' → known w') :
    (abandon slot role searched).Meets w (fun _ w' => w.Onward (sessionIn slot) w' ∧ known w')
      stuck := by
  refine (meets_abandon hw).mono ?_ fun _ h => h
  intro _ w' h
  exact ⟨h, follows w' h⟩

/-- The live replica is asked first, and there is an election unless it was promoted. `A` holds once
the master is given up, and `B` when the replica was asked. -/
theorem meets_recoverMaster_of {inTransaction : Bool} {A : World σ → Prop}
    {B : Nat → Connection × Goal → World σ → Prop} (hs : Sound d c w)
    (gone : (abandon c.master "Master" "master").Meets w
      (fun _ w' => w.Onward (sessionIn c.master) w' ∧ A w') stuck)
    (asks : ∀ now w', A w' → Sound d (c.masterLost now) w' →
      (recheckReplica d (c.masterLost now) .masterOnly).Meets w' (B now) stuck)
    (promoted : ∀ now s w', B now ((c.masterLost now).promote s, Goal.masterOnly.masterFound) w' →
      Settled d ((c.masterLost now).promote s) w' →
        post (.restored, (c.masterLost now).promote s) w')
    (elects : ∀ now w', B now (c.masterLost now, .masterOnly) w' →
      Sound d (c.masterLost now) w' → (electAndRoute d (c.masterLost now) .masterOnly).Meets w'
        (fun x w₁ => (x.1 = .found → post (.restored, x.2) w₁) ∧
          ∀ e, x.1 = .exhausted e → post (.failed e, x.2) w₁ ∧
            (x.2.replicaAvailable = true → ∀ w₂, w₁.Still w₂ →
              post (.standIn e, { x.2 with current := some .replica }) w₂)) stuck) :
    (recoverMaster d inTransaction c).Meets w post stuck := by
  unfold recoverMaster
  refine meets_bind (m := fun _ w' => w' = w) (meets_ask rfl) fun now w₀ hw₀ => ?_
  subst hw₀
  refine meets_bind gone fun _ w₁ ⟨h₁, ha⟩ => ?_
  have hs₁ : Sound d (c.masterLost now) w₁ := hs.masterLost h₁ now
  refine meets_bind (((asks now w₁ ha hs₁).and (meets_recheckReplica hs₁)).mono (fun _ _ h => h)
    fun _ h => h.1) ?_
  rintro ⟨c₂, g⟩ w₂ ⟨hb, hr⟩
  have hs₂ := hr.sound hs₁
  dsimp only at hr ⊢
  cases hr with
  | promoted s x _ hrep _ _ _ =>
    exact meets_pure (promoted now s w₂ hb ⟨hs₂, (hs₁.coherent.promote hrep).2⟩)
  | same _ _ =>
    rw [if_neg (by decide)]
    refine meets_bind (elects now w₂ hb hs₂) ?_
    rintro ⟨_ | e, c₃⟩ w₃ ⟨hfound, hexhausted⟩
    · exact meets_pure (hfound rfl)
    obtain ⟨hfailed, hstandIn⟩ := hexhausted e rfl
    dsimp only
    split
    next havail =>
      rw [Bool.and_eq_true] at havail
      exact meets_bind_harmless (harmless_log _ _) fun _ w₄ h₄ =>
        meets_pure (hstandIn havail.2 w₄ h₄)
    · exact meets_pure hfailed

/-- A lost replica is looked for alone while there is a master, and else along with the master. `A`
holds once it is given up. -/
theorem meets_recoverReplica_of {A : World σ → Prop} (hs : Sound d c w)
    (hrep : c.replica.isSome = true)
    (gone : (abandon c.replica "Replica" "replica").Meets w
      (fun _ w' => w.Onward (sessionIn c.replica) w' ∧ A w') stuck)
    (beside : ∀ w', A w' → Sound d c.replicaLost w' → c.master.isSome = true →
      (electAndRoute d c.replicaLost Goal.replicaOnly.inOnePass).Meets w'
        (fun x w₁ => (x.1 = .found → post (.restored, x.2) w₁) ∧
          ∀ e w₂, x.1 = .exhausted e → w₁.Still w₂ →
            post (.restored, { x.2 with current := some .master }) w₂) stuck)
    (alone : ∀ w', A w' → Sound d c.replicaLost w' → c.master = none →
      (electAndRoute d c.replicaLost Goal.both.orReplicaOnly).Meets w'
        (fun x w₁ => (x.1 = .found → post (.restored, x.2) w₁) ∧
          ∀ e, x.1 = .exhausted e →
            post (if x.2.currentSlot.isSome then .restored else .failed e, x.2) w₁) stuck) :
    (recoverReplica d c).Meets w post stuck := by
  unfold recoverReplica
  refine meets_bind gone fun _ w₁ ⟨h₁, ha⟩ => ?_
  have hs₁ : Sound d c.replicaLost w₁ := hs.replicaLost h₁ hrep
  have havailable : c.replicaLost.masterAvailable = c.master.isSome := hs₁.coherent.masterAvailable
  dsimp only
  rw [havailable]
  split
  next hm =>
    refine meets_bind (beside w₁ ha hs₁ hm) ?_
    rintro ⟨_ | e, c₂⟩ w₂ ⟨hfound, hexhausted⟩
    · exact meets_pure (hfound rfl)
    · exact meets_bind_harmless (harmless_log _ _) fun _ w₃ h₃ =>
        meets_pure (hexhausted e w₃ rfl h₃)
  next hm =>
    refine meets_bind (alone w₁ ha hs₁ (Option.not_isSome_iff_eq_none.1 hm)) ?_
    rintro ⟨_ | e, c₂⟩ w₂ ⟨hfound, hexhausted⟩
    · exact meets_pure (hfound rfl)
    · exact meets_pure (hexhausted e rfl)

omit [Cluster σ] in
/-- If there is no other replica, commands go to the master. -/
theorem Elected.current_master {c' : Connection} {e : Error}
    (he : Elected c Goal.replicaOnly.inOnePass (.exhausted e) c') (hrest : c'.current = c'.target)
    (hrep : c.replica = none) (hm : c.master.isSome = true) : c'.current = some .master := by
  have hrep' : c'.replica = none :=
    he.vacant e .replica rfl (fun r hr => by cases r <;> first | rfl | cases hr) hrep
  rw [hrest]
  simp [Connection.target, he.master hm, hrep']

omit [Cluster σ] in
/-- If there is no other master, commands go to the replica. -/
theorem Elected.current_replica {c' : Connection} {e : Error}
    (he : Elected c .masterOnly (.exhausted e) c') (hrest : c'.current = c'.target)
    (hm : c.master = none) (hrep : c'.replica.isSome = true) : c'.current = some .replica := by
  have hm' : c'.master = none :=
    he.vacant e .master rfl (fun r hr => by cases r <;> first | rfl | cases hr) hm
  rw [hrest]
  simp [Connection.target, hm', hrep]

theorem meets_recoverMaster_keeps {Inv : Connection → World σ → Prop} {inTransaction : Bool}
    {A : World σ → Prop} {B : Nat → Connection × Goal → World σ → Prop} (hs : Sound d c w)
    (still : ∀ {c : Connection} {w w' : World σ}, Inv c w → w.Still w' → Inv c w')
    (gone : (abandon c.master "Master" "master").Meets w
      (fun _ w' => w.Onward (sessionIn c.master) w' ∧ A w') stuck)
    (asks : ∀ now w', A w' → Sound d (c.masterLost now) w' →
      (recheckReplica d (c.masterLost now) .masterOnly).Meets w' (B now) stuck)
    (promoted : ∀ now s w', B now ((c.masterLost now).promote s, Goal.masterOnly.masterFound) w' →
      Inv ((c.masterLost now).promote s) w')
    (elects : ∀ now w', B now (c.masterLost now, .masterOnly) w' → Sound d (c.masterLost now) w' →
      (electAndRoute d (c.masterLost now) .masterOnly).Meets w' (fun x w₁ => Settled d x.2 w₁ ∧
        Elected (c.masterLost now) .masterOnly x.1 x.2 ∧ Inv x.2 w₁) stuck) :
    (recoverMaster d inTransaction c).Meets w (fun x w' => Settled d x.2 w' ∧ Inv x.2 w')
      stuck := by
  refine meets_recoverMaster_of hs gone asks ?_ ?_
  · intro now s w₂ hb hs₂
    exact ⟨hs₂, promoted now s w₂ hb⟩
  · intro now w₂ hb hs₂
    refine (elects now w₂ hb hs₂).mono ?_ fun _ h => h
    rintro ⟨outcome, c'⟩ w₃ ⟨hs₃, he, hi₃⟩
    refine ⟨fun _ => ⟨hs₃, hi₃⟩, ?_⟩
    rintro e rfl
    refine ⟨⟨hs₃, hi₃⟩, ?_⟩
    intro havail w₄ h₄
    have hrep : c'.replica.isSome = true := hs₃.coherent.replicaAvailable.symm.trans havail
    have hcur : c'.current = some .replica := he.current_replica hs₃.rest rfl hrep
    dsimp only
    rw [← hcur]
    exact ⟨hs₃.beside h₄.beside, still hi₃ h₄⟩

theorem meets_recoverReplica_keeps {Inv : Connection → World σ → Prop} {A : World σ → Prop}
    (hs : Sound d c w)
    (still : ∀ {c : Connection} {w w' : World σ}, Inv c w → w.Still w' → Inv c w')
    (hrep : c.replica.isSome = true)
    (gone : (abandon c.replica "Replica" "replica").Meets w
      (fun _ w' => w.Onward (sessionIn c.replica) w' ∧ A w') stuck)
    (beside : ∀ w', A w' → Sound d c.replicaLost w' →
      (electAndRoute d c.replicaLost Goal.replicaOnly.inOnePass).Meets w' (fun x w₁ =>
        Settled d x.2 w₁ ∧ Elected c.replicaLost Goal.replicaOnly.inOnePass x.1 x.2 ∧ Inv x.2 w₁)
        stuck)
    (alone : ∀ w', A w' → Sound d c.replicaLost w' → c.master = none →
      (electAndRoute d c.replicaLost Goal.both.orReplicaOnly).Meets w' (fun x w₁ =>
        Settled d x.2 w₁ ∧ Elected c.replicaLost Goal.both.orReplicaOnly x.1 x.2 ∧ Inv x.2 w₁)
        stuck) :
    (recoverReplica d c).Meets w (fun x w' => Settled d x.2 w' ∧ Inv x.2 w') stuck := by
  refine meets_recoverReplica_of hs hrep gone ?_ ?_
  · intro w₁ ha hs₁ hm
    refine (beside w₁ ha hs₁).mono ?_ fun _ h => h
    rintro ⟨outcome, c'⟩ w₂ ⟨hs₂, he, hi₂⟩
    refine ⟨fun _ => ⟨hs₂, hi₂⟩, ?_⟩
    rintro e w₃ rfl h₃
    have hcur : c'.current = some .master := he.current_master hs₂.rest rfl hm
    dsimp only
    rw [← hcur]
    exact ⟨hs₂.beside h₃.beside, still hi₂ h₃⟩
  · intro w₁ ha hs₁ hm
    refine (alone w₁ ha hs₁ hm).mono ?_ fun _ h => h
    rintro x w₂ ⟨hs₂, -, hi₂⟩
    constructor
    · intro _
      exact ⟨hs₂, hi₂⟩
    · intro _ _
      exact ⟨hs₂, hi₂⟩

end Recoveries

theorem harmless_isHeldBack [Cluster σ] (readOnly : Bool) (c : Connection) :
    (isHeldBack readOnly c : Act σ Bool).Harmless := by
  unfold isHeldBack
  generalize (if readOnly = true then decide (c.current = some .master) && c.hasReplicas
    else decide (c.current = some .replica)) = leaves
  cases leaves with
  | false => exact harmless_pure _
  | true =>
    rcases c.currentSlot with _ | s
    · exact harmless_pure _
    · refine harmless_bind (harmless_ask _) fun h => ?_
      cases h <;> exact harmless_pure _

namespace Upkeep

variable [Cluster σ] {d : Deployment} {Inv : Connection → World σ → Prop}
  {stuck : World σ → Prop} {c : Connection} {w : World σ} (hU : Upkeep d Inv stuck)

include hU

theorem same {c' : Connection} (hi : Inv c w) (hm : c'.master = c.master)
    (hr : c'.replica = c.replica) (hk : c'.catalog = c.catalog) (hx : c'.closed = c.closed) :
    Inv c' w :=
  hU.fewer hi (Connection.fewer_of_eq hm hr hk hx)

theorem upheld : Upheld d (fun c _ w => Inv c w) stuck where
  tries := hU.tries
  still := hU.still

theorem elected {g : Goal} (hs : Sound d c w) (hi : Inv c w) (hg : g.isEnough = false)
    (hrep : g.wantsReplica = true → c.hasReplicas = true) :
    (electAndRoute d c g).Meets w
      (fun x w' => Settled d x.2 w' ∧ Elected c g x.1 x.2 ∧ Inv x.2 w') stuck := by
  refine (meets_election hU.upheld (.inr hU.rechecks) hs hi hg hrep).mono ?_ fun _ h => h
  rintro ⟨outcome, _⟩ w' ⟨hs', he, c', g', rfl, hi'⟩
  exact ⟨hs', he, hU.fewer hi' (Connection.fewer_route c')⟩

theorem electRoles : Maintains d Inv stuck _ (electRoles d : Section σ _) := by
  intro c w hs hi
  refine meets_electRoles_of (A := fun c' w' => Settled d c' w' ∧ Inv c' w') ?_
    (fun _ => ⟨hs, hi⟩) (fun c' w' h _ => h) ?_
  · intro hrep
    have helected := hU.elected (g := Goal.both.inOnePass) hs.toSound hi rfl fun _ => hrep
    refine helected.mono ?_ fun _ h => h
    rintro x w' ⟨hs', -, hi'⟩
    exact ⟨hs', hi'⟩
  · rintro c' w' ⟨hs', hi'⟩ _
    have helected := hU.elected (g := .masterOnly) hs'.toSound hi' rfl fun h => by cases h
    refine helected.mono ?_ fun _ h => h
    rintro x w'' ⟨hs'', -, hi''⟩ _ _
    exact ⟨hs'', hi''⟩

theorem establish : Maintains d Inv stuck _ (establish d : Section σ _) := by
  intro c w hs hi
  unfold Failover.establish
  refine meets_bind (hU.electRoles c w hs hi) ?_
  rintro ⟨outcome, c'⟩ w' ⟨hs', hi'⟩
  dsimp only
  split
  · refine meets_bind_harmless (harmless_log _ _) fun _ w₁ h₁ => ?_
    exact meets_pure ⟨hs'.beside h₁.beside, hU.still hi' h₁⟩
  · exact meets_pure ⟨hs', hi'⟩

theorem closeSlot {slot : Option Slot} (hw : w.Orderly) (hi : Inv c w) :
    (closeSlot slot).Meets w (fun _ w' => (w.Onward (sessionIn slot) w' ∧ w.Shuts slot w') ∧
      Inv c w') stuck := by
  cases slot with
  | none => exact meets_pure ⟨⟨Onward.refl w, fun s hs => (nomatch hs), fun _ hn => hn⟩, hi⟩
  | some s =>
    rw [sessionIn_some]
    have hclosed : (closeSession s.session).Meets w (fun _ w' => w.Onward {s.session} w')
        fun _ => True := meets_closeSession hw
    have hshut : (closeSession s.session).Meets w (fun _ w' => w.Shuts (some s) w')
        fun _ => True := meets_closeSession_shuts
    exact ((hclosed.and hshut).and (hU.closes hw hi)).mono (fun _ _ h => h) fun _ h => h.2

theorem closeSessions (closed : Bool) (hs : Sound d c w) (hi : Inv c w) :
    (closeSessions { c with closed }).Meets w
      (fun c' w' => c' = ({ c with closed } : Connection).withoutSessions ∧ Settled d c' w' ∧
        Inv c' w') stuck := by
  unfold Failover.closeSessions
  refine meets_bind (hU.closeSlot hs.orderly hi) fun _ w₁ ⟨⟨h₁, hshut₁⟩, hi₁⟩ => ?_
  have hw₁ := h₁.orderly hs.orderly
  refine meets_bind (hU.closeSlot hw₁ hi₁) fun _ w₂ ⟨⟨h₂, hshut₂⟩, hi₂⟩ => ?_
  have vacant (r : Role) :
      ({ c with closed } : Connection).withoutSessions.slot? r = none := by cases r <;> rfl
  refine meets_pure ⟨rfl, ⟨⟨h₂.orderly hw₁, hs.topology, .withoutSessions _, ?_⟩, rfl⟩, ?_⟩
  · intro r s h
    cases (vacant r).symm.trans h
  · refine hU.fewer hi₂ (Connection.fewer_of_vacant ?_ vacant rfl)
    intro r s h
    cases r with
    | master => exact hshut₂.others _ (hshut₁.own s h)
    | replica => exact hshut₂.own s h

theorem reconnect : Maintains d Inv stuck _ (reconnect d : Section σ _) := by
  intro c w hs hi
  unfold Failover.reconnect
  split
  · exact meets_pure ⟨hs, hi⟩
  · refine meets_bind (hU.closeSessions c.closed hs.toSound hi) ?_
    rintro _ w' ⟨rfl, hs', hi'⟩
    exact hU.electRoles _ w' (hs'.of_shape rfl) (hU.same hi' rfl rfl rfl rfl)

theorem close : Maintains d Inv stuck _ (fun c => do return ((), ← close c) : Section σ Unit) := by
  intro c w hs hi
  refine meets_bind (m := fun c' w' => Settled d c' w' ∧ Inv c' w') ?_ fun _ _ h => meets_pure h
  unfold Failover.close
  split
  · exact meets_pure ⟨hs, hi⟩
  · refine meets_bind (hU.closeSessions true hs.toSound hi) ?_
    rintro _ w₁ ⟨-, hs₁, hi₁⟩
    refine meets_bind_harmless (harmless_log _ _) fun _ w₂ h₂ => ?_
    exact meets_pure ⟨hs₁.beside h₂.beside, hU.still hi₁ h₂⟩

theorem seekMaster : Maintains d Inv stuck _ (seekMaster d : Section σ _) := by
  intro c w hs hi
  refine meets_seekMaster_of (fun _ => ⟨hs, hi⟩) fun _ => ?_
  have hs' : Settled d { c with fallbackReads := 0 } w := hs.of_shape rfl
  refine (hU.elected hs'.toSound (hU.same hi rfl rfl rfl rfl) rfl fun h => by cases h).mono
    (fun x w' h answer failure => ?_) fun _ h => h
  exact ⟨h.1.of_shape rfl, hU.same h.2.2 rfl rfl rfl rfl⟩

theorem tryMaster : Maintains d Inv stuck _ (tryMaster d : Section σ _) := by
  intro c w hs hi
  refine meets_tryMaster_of ((hU.seekMaster c w hs hi).mono ?_ fun _ h => h)
  intro x w' h w'' hw
  exact ⟨h.1.beside hw.beside, hU.still h.2 hw⟩

theorem assess (cmd : Command) : Maintains d Inv stuck _ (assess d cmd : Section σ _) := by
  intro c w hs hi
  refine meets_assess.mono ?_ fun _ h => h
  intro x w' h
  obtain ⟨rfl, hw⟩ := h
  obtain ⟨reads, hadm⟩ := admission_eq d cmd w.now c
  rw [hadm]
  have hs' : Settled d { c with fallbackReads := reads } w := hs.of_shape rfl
  exact ⟨hs'.beside hw.beside, hU.still (hU.same hi rfl rfl rfl rfl) hw⟩

theorem enterMode {readOnly : Bool} (hs : Settled d c w) (hi : Inv c w) :
    (enterMode d { c with readOnly }).Meets w (fun x w' => Settled d x.2 w' ∧ Inv x.2 w')
      stuck := by
  have hi' : Inv { c with readOnly } w := hU.same hi rfl rfl rfl rfl
  refine meets_enterMode_of hs (fun r hs' => ⟨hs', hU.same hi rfl rfl rfl rfl⟩) ?_ ?_
  · intro _ _ hrep hs'
    refine (hU.elected hs'.toSound hi' rfl fun _ => hrep).mono ?_ fun _ h => h
    rintro x w₁ ⟨hs₁, -, hi₁⟩ w₂ h₂
    exact ⟨hs₁.beside h₂.beside, hU.still hi₁ h₂⟩
  · intro _ _ hs'
    have helected := hU.elected (g := .masterOnly) hs'.toSound hi' rfl fun h => by cases h
    refine helected.mono ?_ fun _ h => h
    rintro x w₁ ⟨hs₁, -, hi₁⟩ -
    exact ⟨hs₁, hi₁⟩

theorem switchMode (readOnly : Bool) :
    Maintains d Inv stuck _ (switchMode d readOnly : Section σ _) := by
  intro c w hs hi
  unfold Failover.switchMode
  split
  · exact meets_pure ⟨hs, hi⟩
  refine meets_bind_harmless (harmless_isHeldBack readOnly c) fun held w₁ h₁ => ?_
  split
  · exact meets_pure ⟨hs.beside h₁.beside, hU.still hi h₁⟩
  · exact hU.enterMode (hs.beside h₁.beside) (hU.still hi h₁)

theorem abandon {slot : Option Slot} {role searched : String} (hw : w.Orderly) (hi : Inv c w) :
    (abandon slot role searched).Meets w
      (fun _ w' => w.Onward (sessionIn slot) w' ∧ w.Shuts slot w' ∧ Inv c w') stuck := by
  refine meets_abandon_of ((hU.closeSlot hw hi).mono ?_ fun _ h => h)
  rintro x w₁ ⟨⟨onward, shuts⟩, hi₁⟩ w₂ hw
  exact ⟨onward.beside hw.beside, shuts.of_handles hw.handles, hU.still hi₁ hw⟩

theorem recoverMaster (inTransaction : Bool) :
    Maintains d Inv stuck _ (recoverMaster d inTransaction : Section σ _) := by
  intro c w hs hi
  refine meets_recoverMaster_keeps (A := fun w' => w.Shuts c.master w' ∧ Inv c w')
    (B := fun _ x w' => Inv x.1 w') hs.toSound hU.still (hU.abandon hs.orderly hi)
    (fun now w₁ ⟨hshut, hi₁⟩ hs₁ => hU.rechecks hs₁ ?_) (fun _ _ _ hi₂ => hi₂)
    fun now w₂ hi₂ hs₂ => hU.elected hs₂ hi₂ rfl fun h => by cases h
  exact hU.fewer hi₁ (Connection.fewer_of_emptied (r := .master) hshut
    (fun q => by cases q <;> rfl) rfl rfl)

theorem recoverReplica (hs : Settled d c w) (hi : Inv c w) (hrep : c.replica.isSome = true) :
    (recoverReplica d c).Meets w (fun x w' => Settled d x.2 w' ∧ Inv x.2 w') stuck := by
  have lost {w' : World σ} (h : w.Shuts c.replica w' ∧ Inv c w') : Inv c.replicaLost w' :=
    hU.fewer h.2 (Connection.fewer_of_emptied (r := .replica) h.1 (fun q => by cases q <;> rfl)
      rfl rfl)
  have hwanted : c.hasReplicas = true := hs.coherent.replica hrep
  exact meets_recoverReplica_keeps hs.toSound hU.still hrep (hU.abandon hs.orderly hi)
    (fun w₁ hi₁ hs₁ => hU.elected hs₁ (lost hi₁) rfl fun _ => hwanted)
    fun w₁ hi₁ hs₁ _ => hU.elected hs₁ (lost hi₁) rfl fun _ => hwanted

theorem recover (failed : SessionId) (inTransaction : Bool) :
    Maintains d Inv stuck _ (recover d failed inTransaction : Section σ _) := by
  intro c w hs hi
  unfold Failover.recover
  split
  · exact meets_pure ⟨hs, hi⟩
  cases hr : c.roleOf failed with
  | none =>
    dsimp only
    split
    · refine meets_bind_harmless (harmless_log _ _) fun _ w₁ h₁ => ?_
      exact meets_pure ⟨hs.beside h₁.beside, hU.still hi h₁⟩
    · exact hU.recoverMaster inTransaction c w hs hi
  | some r =>
    cases r with
    | master => exact hU.recoverMaster inTransaction c w hs hi
    | replica =>
      obtain ⟨s, hslot, -⟩ := Connection.slot_of_roleOf hr
      exact hU.recoverReplica hs hi (Option.isSome_iff_exists.2 ⟨s, hslot⟩)

end Upkeep

end Failover
