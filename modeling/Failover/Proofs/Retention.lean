import Failover.Proofs.Ownership

/-!
# What a recovery leaves alone

An election closes what it supersedes, but the operations ask only for roles whose slot is empty.
So the sessions that were in a slot stay there, or one is promoted from the replica's to the
master's, and no session is closed but the one that was found broken (`Retains`).
-/

namespace Failover

open Act World

variable {σ : Type}

/-- No session of before was closed but the one that was `lost`. -/
structure World.Spares (lost : Option SessionId) (u w : World σ) : Prop where
  opened : u.opened ≤ w.opened
  closings : ∀ n ≤ u.opened, lost ≠ some n → closings n w.journal = closings n u.journal

/-- All sessions of before are in a slot, but for the one that was `lost`, and the application's
settings are the same. -/
structure Retains (lost : Option SessionId) (c₀ : Connection) (u : World σ) (c : Connection)
    (w : World σ) : Prop where
  spares : u.Spares lost w
  slots : ∀ r s, c₀.slot? r = some s → lost ≠ some s.session →
    c.slot? r = some s ∨ r = .replica ∧ c.slot? .master = some s
  closed : c.closed = c₀.closed
  catalog : c.catalog = c₀.catalog
  readOnly : c.readOnly = c₀.readOnly

/-- The roles that are wanted have an empty slot. -/
def Vacant (c : Connection) (g : Goal) : Prop := ∀ r, g.wants r = true → c.slot? r = none

section Retains

variable {lost : Option SessionId} {c₀ c c' : Connection} {u w w' : World σ} {n : SessionId}
  {r : Role} {s : Slot} {g : Goal}

theorem World.Spares.uses (h : u.Spares lost w) (hw : w.Uses n w') : u.Spares lost w' :=
  ⟨h.opened.trans hw.opened, fun m hm hl => (hw.closings m).trans (h.closings m hm hl)⟩

theorem World.Spares.still [Cluster σ] (h : u.Spares lost w) (hw : w.Still w') :
    u.Spares lost w' :=
  h.uses (hw.uses (n := 0))

/-- The session that was lost, or one that was opened since, is closed. -/
theorem World.Spares.ended {t : Nat} (h : u.Spares lost w)
    (hn : n ≤ u.opened → lost = some n) (ho : w'.opened = w.opened)
    (hj : w'.journal = ⟨t, .closed n⟩ :: w.journal) : u.Spares lost w' := by
  refine ⟨ho ▸ h.opened, ?_⟩
  intro m hm hl
  have hne : n ≠ m := by
    rintro rfl
    exact hl (hn hm)
  rw [hj, closings_closed, if_neg hne, Nat.add_zero, h.closings m hm hl]

theorem Retains.refl (lost : Option SessionId) (c : Connection) (w : World σ) :
    Retains lost c w c w where
  spares := ⟨le_rfl, fun _ _ _ => rfl⟩
  slots _ _ hs _ := .inl hs
  closed := rfl
  catalog := rfl
  readOnly := rfl

theorem Retains.goes (h : Retains lost c₀ u c w) (hw : u.Spares lost w') :
    Retains lost c₀ u c w' :=
  ⟨hw, h.slots, h.closed, h.catalog, h.readOnly⟩

theorem Retains.still [Cluster σ] (h : Retains lost c₀ u c w) (hw : w.Still w') :
    Retains lost c₀ u c w' :=
  h.goes (h.spares.still hw)

theorem Retains.same (h : Retains lost c₀ u c w) (hs : ∀ r, c'.slot? r = c.slot? r)
    (hx : c'.closed = c.closed) (hk : c'.catalog = c.catalog) (hro : c'.readOnly = c.readOnly) :
    Retains lost c₀ u c' w := by
  refine ⟨h.spares, ?_, hx.trans h.closed, hk.trans h.catalog, hro.trans h.readOnly⟩
  simpa only [hs] using h.slots

theorem Retains.route (h : Retains lost c₀ u c w) : Retains lost c₀ u c.route w :=
  h.same c.slot_route c.closed_route c.catalog_route c.readOnly_route

theorem Retains.fill (h : Retains lost c₀ u c w) (hv : c.slot? r = none) :
    Retains lost c₀ u (c.fill r s) w := by
  have kept {q : Role} {t : Slot} (hq : c.slot? q = some t) : (c.fill r s).slot? q = some t := by
    have hne : q ≠ r := by
      rintro rfl
      cases hv.symm.trans hq
    rwa [Connection.slot_fill_of_ne _ _ hne]
  refine ⟨h.spares, ?_, (c.closed_fill s r).trans h.closed, (c.catalog_fill s r).trans h.catalog,
    (c.readOnly_fill s r).trans h.readOnly⟩
  intro q t hq hl
  exact (h.slots q t hq hl).imp kept fun ⟨hrep, hm⟩ => ⟨hrep, kept hm⟩

theorem Retains.promote (h : Retains lost c₀ u c w) (hm : c.master = none)
    (hrep : c.replica = some s) : Retains lost c₀ u (c.promote s) w := by
  refine ⟨h.spares, ?_, (c.closed_promote s).trans h.closed, (c.catalog_promote s).trans h.catalog,
    (c.readOnly_promote s).trans h.readOnly⟩
  intro q t hq hl
  rcases h.slots q t hq hl with ht | ⟨-, ht⟩
  · cases q with
    | master => cases hm.symm.trans ht
    | replica =>
      obtain rfl : s = t := Option.some.inj (hrep.symm.trans ht)
      exact .inr ⟨rfl, c.slot_promote_master s⟩
  · cases hm.symm.trans ht

theorem Retains.emptied (h : Retains lost c₀ u c w)
    (hl : ∀ s, c.slot? r = some s → lost = some s.session)
    (hc : ∀ q, c'.slot? q = if q = r then none else c.slot? q) (hx : c'.closed = c.closed)
    (hk : c'.catalog = c.catalog) (hro : c'.readOnly = c.readOnly) :
    Retains lost c₀ u c' w := by
  have kept {q : Role} {t : Slot} (hq : c.slot? q = some t) (ht : lost ≠ some t.session) :
      c'.slot? q = some t := by
    have hne : q ≠ r := by
      rintro rfl
      exact ht (hl t hq)
    rwa [hc, if_neg hne]
  refine ⟨h.spares, ?_, hx.trans h.closed, hk.trans h.catalog, hro.trans h.readOnly⟩
  intro q t hq ht
  exact (h.slots q t hq ht).imp (kept · ht) fun ⟨hrep, hm⟩ => ⟨hrep, kept hm ht⟩

theorem Vacant.fill (hv : Vacant c g) : Vacant (c.fill r s) (g.found r) := by
  intro q hq
  rw [Connection.slot_fill_of_ne _ _ (Goal.ne_of_found hq)]
  exact hv q (Goal.wants_of_found hq)

theorem Vacant.promote : Vacant (c.promote s) g.masterFound := by
  intro q hq
  cases q with
  | master => cases hq
  | replica => exact c.slot_promote_replica s

end Retains

section Elections

/-! ## Elections for roles whose slot is empty -/

variable [Cluster σ] {d : Deployment} {lost : Option SessionId} {c₀ c : Connection}
  {u w : World σ}

/-- While a host is tried, no session is closed but the new one. -/
theorem trial_spares {h : Host} {e : Election} (hv : Vacant e.connection e.goal) : Trial d h e
    (fun n w' => u.opened < n ∧ u.Spares lost w') (fun n _ w' => u.opened < n ∧ u.Spares lost w')
    (fun w' => u.Spares lost w') (fun _ _ w' => u.Spares lost w') (fun w' => u.Spares lost w') where
  judges := by
    rintro n w ⟨hn, hs⟩
    exact ((uses_judge _ _ _).meets w).mono (fun _ _ hw => ⟨hn, hs.uses hw⟩) fun _ hw => hs.uses hw
  looksUp := by
    rintro n waiting r w ⟨hn, hs⟩
    exact (((framing_uses n).namedMaster (uses_call _)).meets w).mono
      (fun _ _ hw => ⟨hn, hs.uses hw⟩) fun _ hw => hs.uses hw
  hangsUp := by
    rintro n v w ⟨hn, hs⟩ -
    apply meets_hangUp_of
    intro wait o servers _
    exact hs.ended (fun hle => absurd hn (Nat.not_lt.2 hle)) rfl rfl
  binds := by
    rintro n r text w ⟨hn, hs⟩ hw
    rw [hv r hw]
    have hfollows : (followCatalog e.connection ⟨n, h, r, false, false⟩ : Act σ _).Always
        (World.Uses n) := (framing_uses n).followCatalog fun _ => uses_call _
    refine meets_bind ((hfollows.meets w).mono (fun _ _ hw => hs.uses hw)
      fun _ hw => hs.uses hw) fun _ w₁ h₁ => ?_
    refine meets_bind_harmless (harmless_pure ()) fun _ w₂ h₂ => ?_
    refine meets_bind_harmless (harmless_log _ _) fun _ w₃ h₃ => ?_
    have h₁₃ := h₁.still (h₂.trans h₃)
    exact meets_change ⟨h₁₃.opened, h₁₃.closings⟩
  freshStill := fun ⟨hn, hs⟩ hw => ⟨hn, hs.still hw⟩
  judgedStill := fun ⟨hn, hs⟩ hw => ⟨hn, hs.still hw⟩
  spentStill h hw := h.still hw

theorem upheld_retains : Upheld d (fun c g w => Retains lost c₀ u c w ∧ Vacant c g)
    (u.Spares lost) where
  tries := by
    rintro h waiting e w - - hopen ⟨hr, hv⟩
    have hs := hr.spares
    refine ((trial_spares hv).tryHost hopen (meets_connect_of ?_ ?_)).mono ?_ fun _ h => h
    · intro wait x servers _
      exact ⟨hs.opened, fun n hn hl => closings_cons.trans (hs.closings n hn hl)⟩
    · intro wait servers _
      refine ⟨Nat.lt_succ_of_le hs.opened, hs.opened.trans (Nat.le_succ _), ?_⟩
      intro n hn hl
      exact closings_cons.trans (hs.closings n hn hl)
    · intro x w' hx
      cases hx with
      | unbound hc hg hspent =>
        rw [hc, hg]
        exact ⟨hr.goes hspent, hv⟩
      | bound n r hw hc hg hheld =>
        rw [hc, hg]
        exact ⟨(hr.goes hheld).fill (hv r hw), hv.fill⟩
  still := fun ⟨hr, hv⟩ hw => ⟨hr.still hw, hv⟩

theorem upheldByRecheck_retains : UpheldByRecheck d
    (fun c g w => Retains lost c₀ u c w ∧ Vacant c g) (u.Spares lost) := by
  rintro c g w hs ⟨hr, hv⟩
  refine meets_recheck_of hs (fun _ => ⟨hr, hv⟩) fun s x hdown hrep _ _ _ => ?_
  refine ((uses_judge _ _ _).meets w).mono ?_ fun _ h₁ => hr.spares.uses h₁
  intro v w₁ h₁
  have hs₁ := hr.spares.uses h₁
  refine ⟨?_, fun _ w₂ h₂ => ⟨hr.goes (hs₁.still h₂), hv⟩⟩
  intro _ w₂ h₂
  have hmaster : c.master = none := hs.coherent.master_eq_none hdown
  have hput : u.Spares lost
      { w₁ with handles := w₁.handles.put { x with role := .master } } := ⟨hs₁.opened, hs₁.closings⟩
  exact ⟨(hr.goes (hput.still h₂)).promote hmaster hrep, Vacant.promote⟩

theorem Retains.elected {g : Goal} (h : Retains lost c₀ u c w) (hs : Sound d c w)
    (hv : Vacant c g) (hg : g.isEnough = false)
    (hrep : g.wantsReplica = true → c.hasReplicas = true) :
    (electAndRoute d c g).Meets w (fun x w' => Settled d x.2 w' ∧ Elected c g x.1 x.2 ∧
      Retains lost c₀ u x.2 w') (u.Spares lost) := by
  refine (meets_election upheld_retains (.inr upheldByRecheck_retains) hs ⟨h, hv⟩ hg hrep).mono ?_
    fun _ h => h
  rintro ⟨outcome, _⟩ w' ⟨hs', he, c', g', rfl, hr, -⟩
  exact ⟨hs', he, hr.route⟩

end Elections

section Sections

variable [Cluster σ] {d : Deployment} {lost : Option SessionId} {c₀ c : Connection}
  {u w : World σ}

omit [Cluster σ] in
theorem vacant_master (hm : c.master = none) {g : Goal} (hg : g.wantsReplica = false) :
    Vacant c g := by
  intro r hr
  cases r with
  | master => exact hm
  | replica => cases hg.symm.trans hr

omit [Cluster σ] in
theorem vacant_replica (hrep : c.replica = none) {g : Goal} (hg : g.wantsMaster = false) :
    Vacant c g := by
  intro r hr
  cases r with
  | master => cases hg.symm.trans hr
  | replica => exact hrep

theorem World.Spares.closeSlot {slot : Option Slot} {stuck : World σ → Prop} (h : u.Spares lost w)
    (hl : ∀ s, slot = some s → lost = some s.session) :
    (closeSlot slot).Meets w (fun _ w' => u.Spares lost w') stuck := by
  cases slot with
  | none => exact meets_pure h
  | some s =>
    refine meets_closeSession_of (fun _ => h) fun x w' hx _ hc => ?_
    obtain ⟨t, hj⟩ := hc.journal
    exact h.ended (fun _ => session_of_get? hx ▸ hl s rfl) hc.opened hj

theorem World.Spares.abandon {slot : Option Slot} {role searched : String} (h : u.Spares lost w)
    (hw : w.Orderly) (hl : ∀ s, slot = some s → lost = some s.session) :
    (abandon slot role searched).Meets w
      (fun _ w' => w.Onward (sessionIn slot) w' ∧ u.Spares lost w') (u.Spares lost) := by
  have honward : (Failover.closeSlot slot).Meets w (fun _ w' => w.Onward (sessionIn slot) w')
      (u.Spares lost) := meets_closeSlot hw
  have hspares : (Failover.closeSlot slot).Meets w (fun _ w' => u.Spares lost w')
      (u.Spares lost) := h.closeSlot hl
  refine meets_abandon_of ((honward.and hspares).mono ?_ fun _ h => h.1)
  rintro x w₁ ⟨onward, spares⟩ w₂ hw
  exact ⟨onward.beside hw.beside, spares.still hw⟩

theorem retains_assess (cmd : Command) :
    Maintains d (Retains lost c₀ u) (u.Spares lost) _ (assess d cmd : Section σ _) := by
  intro c w hs hr
  refine meets_assess.mono ?_ fun _ h => h
  intro x w' h
  obtain ⟨rfl, hw⟩ := h
  obtain ⟨reads, hadm⟩ := admission_eq d cmd w.now c
  rw [hadm]
  have hs' : Settled d { c with fallbackReads := reads } w := hs.of_shape rfl
  have hr' : Retains lost c₀ u { c with fallbackReads := reads } w :=
    hr.same (fun r => by cases r <;> rfl) rfl rfl rfl
  exact ⟨hs'.beside hw.beside, hr'.still hw⟩

theorem retains_seekMaster :
    Maintains d (Retains lost c₀ u) (u.Spares lost) _ (seekMaster d : Section σ _) := by
  intro c w hs hr
  refine meets_seekMaster_of (fun _ => ⟨hs, hr⟩) fun hdown => ?_
  have hmaster : c.master = none := hs.coherent.master_eq_none hdown
  have hs' : Settled d { c with fallbackReads := 0 } w := hs.of_shape rfl
  have hr' : Retains lost c₀ u { c with fallbackReads := 0 } w :=
    hr.same (fun r => by cases r <;> rfl) rfl rfl rfl
  refine (hr'.elected hs'.toSound (vacant_master (c := { c with fallbackReads := 0 }) hmaster rfl)
    rfl fun h => by cases h).mono ?_ fun _ h => h
  rintro x w' ⟨hs₁, -, hr₁⟩ answer failure
  exact ⟨hs₁.of_shape rfl, hr₁.same (fun r => by cases r <;> rfl) rfl rfl rfl⟩

theorem retains_tryMaster :
    Maintains d (Retains lost c₀ u) (u.Spares lost) _ (tryMaster d : Section σ _) := by
  intro c w hs hr
  refine meets_tryMaster_of ((retains_seekMaster c w hs hr).mono ?_ fun _ h => h)
  intro x w' h w'' hw
  exact ⟨h.1.beside hw.beside, h.2.still hw⟩

theorem retains_recoverMaster (inTransaction : Bool) (hs : Settled d c w)
    (hr : Retains lost c₀ u c w) (hl : ∀ s, c.master = some s → lost = some s.session) :
    (recoverMaster d inTransaction c).Meets w
      (fun x w' => Settled d x.2 w' ∧ Retains lost c₀ u x.2 w') (u.Spares lost) := by
  refine meets_recoverMaster_keeps (A := fun w' => u.Spares lost w')
    (B := fun _ x w' => Retains lost c₀ u x.1 w' ∧ Vacant x.1 x.2) hs.toSound
    (fun h hw => h.still hw) (hr.spares.abandon hs.orderly hl)
    (fun now w₁ h₁ hs₁ => upheldByRecheck_retains hs₁ ⟨?_, vacant_master rfl rfl⟩)
    (fun _ _ _ h => h.1) fun now w₂ hb hs₂ => hb.1.elected hs₂ hb.2 rfl fun h => by cases h
  exact (hr.goes h₁).emptied (r := .master) hl (fun q => by cases q <;> rfl) rfl rfl rfl

theorem retains_recoverReplica (hs : Settled d c w) (hr : Retains lost c₀ u c w)
    (hrep : c.replica.isSome = true) (hl : ∀ s, c.replica = some s → lost = some s.session) :
    (recoverReplica d c).Meets w
      (fun x w' => Settled d x.2 w' ∧ Retains lost c₀ u x.2 w') (u.Spares lost) := by
  have emptied {w' : World σ} (hw : u.Spares lost w') : Retains lost c₀ u c.replicaLost w' :=
    (hr.goes hw).emptied (r := .replica) hl (fun q => by cases q <;> rfl) rfl rfl rfl
  have hwanted : c.hasReplicas = true := hs.coherent.replica hrep
  refine meets_recoverReplica_keeps (A := fun w' => u.Spares lost w') hs.toSound
    (fun h hw => h.still hw) hrep (hr.spares.abandon hs.orderly hl)
    (fun w₁ h₁ hs₁ => (emptied h₁).elected hs₁ (vacant_replica rfl rfl) rfl fun _ => hwanted)
    fun w₁ h₁ hs₁ hm => (emptied h₁).elected hs₁ ?_ rfl fun _ => hwanted
  intro r _
  cases r with
  | master => exact hm
  | replica => rfl

/-- A recovery loses the session that failed, and no other one. -/
theorem retains_recover (failed : SessionId) (inTransaction : Bool) :
    Maintains d (Retains (some failed) c₀ u) (u.Spares (some failed)) _
      (recover d failed inTransaction : Section σ _) := by
  intro c w hs hr
  unfold recover
  split
  · exact meets_pure ⟨hs, hr⟩
  have lost {r : Role} (hrole : c.roleOf failed = some r) (s : Slot) (hslot : c.slot? r = some s) :
      some failed = some s.session := by
    obtain ⟨t, ht, hsame⟩ := Connection.slot_of_roleOf hrole
    rw [← hsame, Option.some.inj (ht.symm.trans hslot)]
  cases hrole : c.roleOf failed with
  | none =>
    dsimp only
    split
    · refine meets_bind_harmless (harmless_log _ _) fun _ w₁ h₁ => ?_
      exact meets_pure ⟨hs.beside h₁.beside, hr.still h₁⟩
    next hnone =>
      rw [Connection.isSome_currentSlot hs.rest] at hnone
      refine retains_recoverMaster inTransaction hs hr fun s hm => ?_
      simp [hm] at hnone
  | some r =>
    cases r with
    | master => exact retains_recoverMaster inTransaction hs hr (lost hrole)
    | replica =>
      obtain ⟨s, hslot, -⟩ := Connection.slot_of_roleOf hrole
      exact retains_recoverReplica hs hr (Option.isSome_iff_exists.2 ⟨s, hslot⟩) (lost hrole)

/-- A connection that routes to no session has none to lose. -/
theorem retains_reconnect (hs : Settled d c w) (hr : Retains lost c₀ u c w)
    (hnone : c.currentSlot = none) :
    (reconnect d c).Meets w (fun x w' => Settled d x.2 w' ∧ Retains lost c₀ u x.2 w')
      (u.Spares lost) := by
  refine meets_reconnect_vacant hs hnone (fun _ => ⟨hs, hr⟩) fun hslots hs' => ?_
  have empty (r : Role) :
      ({ c.withoutSessions with fallbackReads := 0 } : Connection).slot? r = none := by
    cases r <;> rfl
  have hr' : Retains lost c₀ u { c.withoutSessions with fallbackReads := 0 } w :=
    hr.same (fun r => (empty r).trans (hslots r).symm) rfl rfl rfl
  refine meets_electRoles_of (A := fun c' w' => Settled d c' w' ∧ Retains lost c₀ u c' w')
    ?_ (fun _ => ⟨hs', hr'⟩) (fun _ _ h _ => h) ?_
  · intro hrep
    refine (hr'.elected hs'.toSound (fun r _ => empty r) rfl fun _ => hrep).mono ?_ fun _ h => h
    rintro x w' ⟨hs₁, -, hr₁⟩
    exact ⟨hs₁, hr₁⟩
  · rintro c' w' ⟨hs₁, hr₁⟩ hdown
    have hmaster : c'.master = none := hs₁.coherent.master_eq_none hdown
    refine (hr₁.elected hs₁.toSound (vacant_master hmaster rfl) rfl fun h => by cases h).mono
      ?_ fun _ h => h
    rintro x w₁ ⟨hs₂, -, hr₂⟩ - -
    exact ⟨hs₂, hr₂⟩

omit [Cluster σ] in
theorem Retains.mode (hr : Retains lost c₀ u c w) (readOnly : Bool) (r : Option Role) :
    Retains lost { c₀ with readOnly } u { c with readOnly, current := r } w where
  spares := hr.spares
  slots q s hq hl := by
    have hq' : c₀.slot? q = some s := by cases q <;> exact hq
    refine (hr.slots q s hq' hl).imp ?_ id
    intro h
    cases q <;> exact h
  closed := hr.closed
  catalog := hr.catalog
  readOnly := rfl

theorem retains_switchMode (readOnly : Bool) (hs : Settled d c w) (hr : Retains lost c₀ u c w) :
    (switchMode d readOnly c).Meets w (fun x w' => Settled d x.2 w' ∧
        ∃ mode, (mode = c₀.readOnly ∨ mode = readOnly) ∧
          Retains lost { c₀ with readOnly := mode } u x.2 w')
      (u.Spares lost) := by
  unfold switchMode
  split
  · exact meets_pure ⟨hs, c₀.readOnly, .inl rfl, hr⟩
  refine meets_bind_harmless (harmless_isHeldBack readOnly c) fun held w₁ h₁ => ?_
  have hs₁ := hs.beside h₁.beside
  have hr₁ := hr.still h₁
  split
  · exact meets_pure ⟨hs₁, c₀.readOnly, .inl rfl, hr₁⟩
  have hr' := hr₁.mode readOnly c.current
  refine meets_enterMode_of hs₁ (fun r hs' => ⟨hs', readOnly, .inr rfl, hr₁.mode readOnly r⟩) ?_ ?_
  · intro _ hrep hwanted hs'
    refine (hr'.elected hs'.toSound (vacant_replica hrep rfl) rfl fun _ => hwanted).mono
      ?_ fun _ h => h
    intro x w₂ h w₃ h₃
    exact ⟨h.1.beside h₃.beside, readOnly, .inr rfl, h.2.2.still h₃⟩
  · intro _ hm hs'
    refine (hr'.elected hs'.toSound (vacant_master hm rfl) rfl fun h => by cases h).mono
      ?_ fun _ h => h
    rintro x w₂ ⟨hs₂, -, hr₂⟩ -
    exact ⟨hs₂, readOnly, .inr rfl, hr₂⟩

theorem dispatching_retains :
    Dispatching d (fun _ => True) (Retains lost c₀ u) (u.Spares lost) where
  works _ hr _ _ hk := hr.goes (hr.spares.uses hk.uses)
  still hr hw := hr.still hw
  stays hr := hr.spares

end Sections

section Calls

/-! ## Calls that nobody interrupts -/

variable {d : Deployment} {lost : Option SessionId} {c₀ c : Connection} {u w : World σ}
  {s m : Scene σ} {α β : Type}

/-- The connection is at rest, and nothing but what was lost is missing. -/
structure Retaining (d : Deployment) (lost : Option SessionId) (c₀ : Connection) (u : World σ)
    (s : Scene σ) : Prop where
  settled : Settled d s.connection s.world
  retains : Retains lost c₀ u s.connection s.world

theorem Drift.retaining (h : Drift s m) (hr : Retaining d lost c₀ u s) :
    Retaining d lost c₀ u m := by
  refine ⟨h.settled hr.settled, ?_⟩
  obtain ⟨servers, now, blacklist, rfl⟩ := h
  exact hr.retains.goes ⟨hr.retains.spares.opened, hr.retains.spares.closings⟩

theorem Job.All.retains {t : Job σ α}
    (ht : t.All fun β act => Maintains d (Retains lost c₀ u) (u.Spares lost) β act)
    (hr : Retaining d lost c₀ u s) :
    t.Meets Drift s (fun _ s' => Retaining d lost c₀ u s') fun s' => u.Spares lost s'.world := by
  refine ht.meets (fun _ _ hm => hm.retaining) ?_ hr
  intro β act hact s hr
  exact (hact _ _ hr.settled hr.retains).mono (fun _ _ ⟨hs, hr'⟩ => ⟨hs, hr'⟩) fun _ h => h

theorem currentSlot_of_admission {cmd : Command} {now : Nat}
    (h : (admission d cmd now c).1 = .reconnect) : c.currentSlot = none := by
  by_contra hne
  rcases admission_cases d cmd now (Option.isSome_iff_ne_none.2 hne) with
    ⟨e, ha⟩ | ha | ⟨-, ha | ha⟩ <;> cases ha.symm.trans h

variable [Cluster σ]

theorem retains_prepare (cmd : Command) (hr : Retaining d lost c₀ u s) :
    (prepare d cmd : Job σ _).Meets Drift s (fun _ s' => Retaining d lost c₀ u s')
      fun s' => u.Spares lost s'.world := by
  unfold prepare
  refine Job.meets_bind (m := fun a s₁ => Retaining d lost c₀ u s₁ ∧
    (a = .reconnect → s₁.connection.currentSlot = none)) (Job.meets_atomic fun m hm => ?_)
    fun a s₁ ⟨h₁, hvacant⟩ => ?_
  · have hm := hm.retaining hr
    have hassess := retains_assess cmd m.connection m.world hm.settled hm.retains
    have hadmission : (assess d cmd m.connection).Meets m.world (fun x w' =>
        x = admission d cmd m.world.now m.connection ∧ m.world.Still w') fun _ => True :=
      meets_assess
    refine (hassess.and hadmission).mono ?_ fun _ h => h.1
    intro x w' h
    refine ⟨⟨h.1.1, h.1.2⟩, ?_⟩
    intro hx
    obtain ⟨⟨hs', hr'⟩, hadm, -⟩ := h
    rw [hadm] at hx ⊢
    rw [Connection.currentSlot_of_shape (admission_shape cmd _ _)]
    exact currentSlot_of_admission hx
  · cases a with
    | refuse e => exact Job.meets_pure h₁
    | reconnect =>
      refine Job.meets_atomic fun m hm => ?_
      have hm' := hm.retaining h₁
      have hnone : m.connection.currentSlot = none := by rw [hm.connection, hvacant rfl]
      exact (retains_reconnect hm'.settled hm'.retains hnone).mono
        (fun _ _ ⟨hs, hr⟩ => ⟨hs, hr⟩) fun _ h => h
    | needMaster => exact (Job.all_atomic retains_seekMaster).retains h₁
    | tryMaster => exact (Job.all_atomic retains_tryMaster).retains h₁
    | pass => exact Job.meets_pure h₁

/-- The session that a failover is about. -/
def Call.failed : Call → Option SessionId
  | failOver failed _ => some failed
  | _ => none

/-- A command is admitted or sent, a session that broke is recovered from, or the mode is set. -/
inductive Call.IsRoutine : Call → Prop
  | prepare (cmd : Command) : IsRoutine (prepare cmd)
  | dispatch (cmd : Command) : IsRoutine (dispatch cmd)
  | dispatchAll (cmds : List Command) : IsRoutine (dispatchAll cmds)
  | failOver (failed : SessionId) (cmd : Option Command) : IsRoutine (failOver failed cmd)
  | setReadOnly (readOnly : Bool) : IsRoutine (operation (.setReadOnly readOnly))

/-- What a call leaves of a connection, whose mode may have been set. -/
def Call.Leaves (k : Call) (d : Deployment) (c₀ : Connection) (u : World σ) (s' : Scene σ) : Prop :=
  ∃ mode, (mode = c₀.readOnly ∨ k = .operation (.setReadOnly mode)) ∧
    Retaining d k.failed { c₀ with readOnly := mode } u s'

omit [Cluster σ] in
theorem Retaining.leaves {k : Call} (h : Retaining d k.failed c₀ u s) : k.Leaves d c₀ u s :=
  ⟨c₀.readOnly, .inl rfl, h⟩

theorem Call.IsRoutine.leaves {k : Call} (hk : k.IsRoutine) (hr : Retaining d k.failed c₀ u s) :
    (k.task d).2.Meets Drift s (fun _ s' => k.Leaves d c₀ u s')
      fun s' => u.Spares k.failed s'.world := by
  cases hk with
  | prepare cmd => exact (retains_prepare cmd hr).mono fun _ _ h => h.leaves
  | dispatch cmd =>
    refine ((Job.all_atomic ?_).retains hr).mono fun _ _ h => h.leaves
    exact dispatching_retains.dispatch (dispatches_dispatch cmd) trivial
  | dispatchAll cmds =>
    refine ((Job.all_atomic ?_).retains hr).mono fun _ _ h => h.leaves
    exact dispatching_retains.dispatchAll fun _ _ => trivial
  | failOver failed cmd =>
    refine ((all_failOver_of ?_ ?_ fun x _ => ?_).retains hr).mono fun _ _ h => h.leaves
    · exact maintains_reads (harmless_readFlag failed) Retains.still
    · intro b
      exact retains_recover failed b
    · exact dispatching_retains.dispatch (dispatches_redispatch x) trivial
  | setReadOnly readOnly =>
    refine Job.meets_bind (m := fun _ s' => ∃ mode, (mode = c₀.readOnly ∨ mode = readOnly) ∧
      Retaining d none { c₀ with readOnly := mode } u s') (Job.meets_atomic fun m hm => ?_) ?_
    · have hm := hm.retaining hr
      refine (retains_switchMode readOnly hm.settled hm.retains).mono ?_ fun _ h => h
      rintro x w ⟨hs, mode, hmode, h⟩
      exact ⟨mode, hmode, hs, h⟩
    · rintro x s' ⟨mode, hmode, h⟩
      refine Job.meets_pure ⟨mode, ?_, h⟩
      rcases hmode with he | he
      · exact .inl he
      · rw [he]
        exact .inr rfl

/-- The session that was in a slot is open, and in the same slot or the master's now. -/
inductive Survives (r : Role) (slot : Slot) (s' : Scene σ) : Prop
  | same (held : s'.connection.slot? r = some slot) (opened : s'.world.Holds r slot)
  | promoted (replica : r = .replica) (held : s'.connection.slot? .master = some slot)
      (opened : s'.world.Holds .master slot)
      (verdict : latestVerdict slot.session s'.world.journal = some (.role .master))

omit [Cluster σ] in
theorem Retains.survives {r : Role} {slot : Slot} (hr : Retains lost c₀ u s.connection s.world)
    (hs : Sound d s.connection s.world) (hslot : c₀.slot? r = some slot)
    (hl : lost ≠ some slot.session) : Survives r slot s := by
  rcases hr.slots r slot hslot hl with h | ⟨hrep, h⟩
  · exact .same h (hs.holds r slot h)
  · have hholds := hs.holds .master slot h
    have ⟨x, hx, _, hrole, _⟩ := hholds
    exact .promoted hrep h hholds (hs.orderly.trusted _ x hx hrole)

/-- Whatever comes of a routine call, it closes no session that was in a slot but the one that it
was told had failed, and all others stay in their slots or are promoted. The connection is not
closed, the database is not forgotten, and only a change of mode that was asked for is made. -/
theorem routine_calls_retain_sessions (h : Reachable d s) {k : Call} (hk : k.IsRoutine)
    {vs : List (Visit σ)} {a : Option (k.task d : Task σ).1} {s' : Scene σ}
    (course : Course Drift (k.task d).2 s vs a s') :
    (∀ r slot, s.connection.slot? r = some slot → k.failed ≠ some slot.session →
      closings slot.session s'.world.journal = 0 ∧ (a.isSome = true → Survives r slot s')) ∧
    (a.isSome = true → s'.connection.closed = s.connection.closed ∧
      s'.connection.catalog = s.connection.catalog ∧
      (s'.connection.readOnly = s.connection.readOnly ∨
        k = .operation (.setReadOnly s'.connection.readOnly))) := by
  have hs := h.atRest.settled
  have hmeets := hk.leaves (d := d) ⟨hs, .refl k.failed s.connection s.world⟩ vs a s' course
  have spared (hspares : s.world.Spares k.failed s'.world) (r : Role) (slot : Slot)
      (hslot : s.connection.slot? r = some slot) (hl : k.failed ≠ some slot.session) :
      closings slot.session s'.world.journal = 0 := by
    have hheld := (hs.holds r slot hslot).not_shut
    exact (hspares.closings _ (h.custody.known _ hheld) hl).trans (h.custody.owned _ hheld).1
  cases a with
  | none => exact ⟨fun r slot hslot hl => ⟨spared hmeets r slot hslot hl, nofun⟩, nofun⟩
  | some x =>
    obtain ⟨mode, hmode, hs', hr⟩ := hmeets
    constructor
    · intro r slot hslot hl
      refine ⟨spared hr.spares r slot hslot hl, ?_⟩
      intro _
      refine hr.survives hs'.toSound (?_ : _ = some slot) hl
      cases r <;> exact hslot
    · intro _
      obtain rfl : s'.connection.readOnly = mode := hr.readOnly
      exact ⟨hr.closed, hr.catalog, hmode⟩

end Calls

/-- The replica stays when the master is lost. -/
theorem replica_of_pair_survives : ∃ (s s' : Scene Script) (slot : Slot) (vs : List (Visit Script))
    (report : Report), Reachable pair s ∧ (Call.failOver 1 none).IsRoutine ∧
      Course Drift (failOver pair 1 none) s vs (some report) s' ∧
      s.connection.slot? .replica = some slot ∧ some 1 ≠ some slot.session ∧
      closings 1 s'.world.journal = 1 ∧ closings slot.session s'.world.journal = 0 ∧
      Survives .replica slot s' := by
  have hx : established.yields { servers := {} } (fun x w =>
      x.2.replica.any (·.session ≠ 1) && ((failOver pair 1 none).run x.2).yields w fun _ w' =>
        closings 1 w'.journal == 1) = true := by
    decide +kernel
  obtain ⟨⟨b, c⟩, w, hy, hx⟩ := exists_of_yields hx
  obtain ⟨hslot, hx⟩ := Bool.and_eq_true_iff.1 hx
  obtain ⟨slot, hslot, hne⟩ := (Option.any_eq_true _ _).1 hslot
  obtain ⟨⟨report, c'⟩, w', hrun, hend⟩ := exists_of_yields hx
  have h := reachable_established hy
  have course := Course.of_run Drift.refl hrun [⟨_, .done b⟩]
  have hl : some 1 ≠ some slot.session := fun he => of_decide_eq_true hne (Option.some.inj he).symm
  obtain ⟨hkept, hsurvives⟩ :=
    (routine_calls_retain_sessions h (.failOver 1 none) course).1 .replica slot hslot hl
  exact ⟨_, _, slot, _, report, h, .failOver 1 none, course, hslot, hl, by simpa using hend, hkept,
    hsurvives rfl⟩

end Failover
