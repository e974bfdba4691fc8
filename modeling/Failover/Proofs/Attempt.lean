import Failover.Proofs.Frame
import Failover.Proofs.Routing

/-!
# What one attempt does

Trying a host leaves a connection as it is or fills the slot of a wanted role with the session it
opened (`meets_tryHost`), and asking the live replica again leaves it as it is or makes that
replica's session the master's (`meets_recheckReplica`). All that elections do to the handles and
slots is one of these. Both keep a connection sound: coherent, with an open handle of the right
role behind each slot.
-/

namespace Failover

open Act World

/-- The session in a slot. -/
def sessionIn (slot : Option Slot) : Set SessionId := {n | slot.map Slot.session = some n}

theorem mem_sessionIn {slot : Option Slot} {n : SessionId} :
    n ∈ sessionIn slot ↔ ∃ s, slot = some s ∧ s.session = n := by
  simp [sessionIn, Option.map_eq_some_iff]

@[simp] theorem sessionIn_none : sessionIn none = ∅ := by
  ext n
  simp [sessionIn]

@[simp] theorem sessionIn_some (s : Slot) : sessionIn (some s) = {s.session} := by
  ext n
  simp [sessionIn, eq_comm]

theorem session_of_get? {t : Handles} {n : SessionId} {h : Handle} (hg : t.get? n = some h) :
    h.session = n := by
  simpa using List.find?_some hg

variable {σ : Type}

/-- An open handle of the role stands behind the slot. -/
def World.Holds (w : World σ) (r : Role) (s : Slot) : Prop :=
  ∃ h, w.handles.get? s.session = some h ∧ h.host = s.host ∧ h.role = r ∧ h.closed = false

theorem World.Holds.onward {touched : Set SessionId} {w w' : World σ} {r : Role} {s : Slot}
    (h : w.Holds r s) (hw : w.Orderly) (ho : w.Onward touched w') (ht : s.session ∉ touched) :
    w'.Holds r s := by
  obtain ⟨x, hx, hs⟩ := h
  exact ⟨x, by rw [ho.handle _ (hw.known _ _ hx) ht, hx], hs⟩

/-- No handle of the session is open. -/
def World.Shut (w : World σ) (n : SessionId) : Prop :=
  ∀ h, w.handles.get? n = some h → h.closed = true

/-- The handle was closed, and nothing else has happened. -/
structure World.Closes (h : Handle) (w w' : World σ) : Prop where
  opened : w'.opened = w.opened
  handles : w'.handles = w.handles.put { h with closed := true }
  journal : ∃ t, w'.journal = ⟨t, .closed h.session⟩ :: w.journal

section Shut

variable {w w' : World σ} {h : Handle} {n : SessionId}

theorem World.Shut.of_handles (hn : w.Shut n) (hw : w'.handles = w.handles) : w'.Shut n := by
  intro x hx
  rw [hw] at hx
  exact hn x hx

theorem World.shut_put : World.Shut { w with handles := w.handles.put h } n ↔
    if n = h.session then h.closed = true else w.Shut n := by
  unfold World.Shut
  simp only [Handles.get?_put]
  split_ifs <;> simp

theorem World.Closes.shut_iff (hc : w.Closes h w') : w'.Shut n ↔ n = h.session ∨ w.Shut n := by
  have hput : w'.Shut n ↔
      World.Shut { w with handles := w.handles.put { h with closed := true } } n := by
    unfold World.Shut
    rw [hc.handles]
  rw [hput, shut_put]
  by_cases hn : n = h.session <;> simp [hn]

end Shut

/-- A coherent connection in an orderly world that holds its slots. -/
structure Sound (d : Deployment) (c : Connection) (w : World σ) : Prop where
  orderly : w.Orderly
  topology : c.hasReplicas = d.hasReplicas
  coherent : c.Coherent
  holds : ∀ r s, c.slot? r = some s → w.Holds r s

namespace Sound

variable {d : Deployment} {c c' : Connection} {w w' : World σ}

/-- One session is never in both slots: its handle has one role. -/
theorem session_ne (h : Sound d c w) {r q : Role} {s s' : Slot} (hs : c.slot? r = some s)
    (hs' : c.slot? q = some s') (hr : r ≠ q) : s.session ≠ s'.session := by
  obtain ⟨x, hx, -, hxr, -⟩ := h.holds r s hs
  obtain ⟨y, hy, -, hyr, -⟩ := h.holds q s' hs'
  intro he
  rw [he, hy] at hx
  obtain rfl := Option.some.inj hx
  exact hr (hxr.symm.trans hyr)

theorem session_le (h : Sound d c w) {r : Role} {s : Slot} (hs : c.slot? r = some s) :
    s.session ≤ w.opened := by
  obtain ⟨x, hx, -⟩ := h.holds r s hs
  exact h.orderly.known _ _ hx

theorem of_shape (h : Sound d c w) (hc : c.shape = c'.shape) : Sound d c' w where
  orderly := h.orderly
  topology := (congrArg Connection.hasReplicas hc).symm.trans h.topology
  coherent := h.coherent.of_shape hc
  holds r s hs := h.holds r s (by rwa [Connection.slot_of_shape hc])

theorem onward {touched : Set SessionId} (h : Sound d c w) (ho : w.Onward touched w')
    (ht : ∀ r s, c.slot? r = some s → s.session ∉ touched) : Sound d c w' where
  orderly := ho.orderly h.orderly
  topology := h.topology
  coherent := h.coherent
  holds r s hs := (h.holds r s hs).onward h.orderly ho (ht r s hs)

theorem beside (h : Sound d c w) (hw : w.Beside w') : Sound d c w' :=
  h.onward (hw.onward : w.Onward ∅ w') fun _ _ _ => Set.notMem_empty _

/-- A slot is emptied and its session touched: the other slot is held as before. -/
theorem emptied {r : Role} (h : Sound d c w) (ho : w.Onward (sessionIn (c.slot? r)) w')
    (hc : c'.Coherent) (hr : c'.hasReplicas = c.hasReplicas)
    (hs : ∀ q, c'.slot? q = if q = r then none else c.slot? q) : Sound d c' w' where
  orderly := ho.orderly h.orderly
  topology := hr.trans h.topology
  coherent := hc
  holds q s hq := by
    rw [hs] at hq
    split_ifs at hq with hqr
    refine (h.holds q s hq).onward h.orderly ho fun hm => ?_
    obtain ⟨t, ht, hts⟩ := mem_sessionIn.1 hm
    exact h.session_ne hq ht hqr hts.symm

theorem route (h : Sound d c w) : Sound d c.route w where
  orderly := h.orderly
  topology := (Connection.hasReplicas_route c).trans h.topology
  coherent := h.coherent.route
  holds r s hs := h.holds r s (by rwa [Connection.slot_route] at hs)

end Sound

/-- What one attempt of an election leads to. -/
inductive Attempt (e : Election) (w : World σ) : Election → World σ → Prop
  /-- The host was of no use, or in a role that is not wanted. -/
  | unbound {e' : Election} {w' : World σ} (connection : e'.connection = e.connection)
      (goal : e'.goal = e.goal) (onward : w.Onward ∅ w') : Attempt e w e' w'
  /-- The new session was bound. -/
  | bound {e' : Election} {w' : World σ} (r : Role) (s : Slot) (wanted : e.goal.wants r = true)
      (fresh : w.opened < s.session) (connection : e'.connection = e.connection.fill r s)
      (goal : e'.goal = e.goal.found r) (holds : w'.Holds r s)
      (onward : w.Onward (sessionIn (e.connection.slot? r)) w') : Attempt e w e' w'

section Attempt

variable {d : Deployment} {e e' : Election} {w w' : World σ}

theorem Attempt.sound (ha : Attempt e w e' w') (h : Sound d e.connection w)
    (hr : e.goal.wantsReplica = true → e.connection.hasReplicas = true) :
    Sound d e'.connection w' := by
  cases ha with
  | unbound hc _ ho => rw [hc]; exact h.onward ho fun _ _ _ => Set.notMem_empty _
  | bound r s hw hf hc _ hs ho =>
    rw [hc]
    refine ⟨ho.orderly h.orderly, by rw [Connection.hasReplicas_fill, h.topology], ?_, ?_⟩
    · refine h.coherent.fill ?_
      rintro rfl
      exact hr hw
    · intro r' s' hs'
      rcases Connection.cases_slot_fill hs' with ⟨rfl, rfl⟩ | ⟨hrr, hs'⟩
      · exact hs
      · refine (h.holds r' s' hs').onward h.orderly ho fun hm => ?_
        obtain ⟨t, ht, hts⟩ := mem_sessionIn.1 hm
        exact h.session_ne hs' ht hrr hts.symm

end Attempt

/-- What asking the live replica again leads to. -/
inductive Recheck (c : Connection) (g : Goal) (w : World σ) :
    Connection → Goal → World σ → Prop
  | same {w' : World σ} (handles : w'.handles = w.handles)
      (onward : w.Onward (sessionIn c.replica) w') : Recheck c g w c g w'
  /-- The replica has become the master. -/
  | promoted {w' : World σ} (s : Slot) (h : Handle) (down : c.masterDown = true)
      (replica : c.replica = some s) (before : w.handles.get? s.session = some h)
      (after : w'.handles.get? s.session = some { h with role := .master })
      (onward : w.Onward (sessionIn c.replica) w') : Recheck c g w (c.promote s) g.masterFound w'

theorem Recheck.sound {d : Deployment} {c c' : Connection} {g g' : Goal} {w w' : World σ}
    (hr : Recheck c g w c' g' w') (h : Sound d c w) : Sound d c' w' := by
  cases hr with
  | same hh ho =>
    refine ⟨ho.orderly h.orderly, h.topology, h.coherent, ?_⟩
    intro r s hs
    unfold World.Holds
    rw [hh]
    exact h.holds r s hs
  | promoted s x hd hs hb ha ho =>
    refine ⟨ho.orderly h.orderly, (Connection.hasReplicas_promote c s).trans h.topology,
      (h.coherent.promote hs).1, ?_⟩
    intro r t ht
    obtain ⟨rfl, rfl⟩ := Connection.eq_of_slot_promote ht
    obtain ⟨y, hy, hyh, -, hyc⟩ := h.holds .replica t hs
    obtain rfl : y = x := Option.some.inj (hy.symm.trans hb)
    exact ⟨_, ha, hyh, rfl, hyc⟩

section Actions

variable {d : Deployment} {w : World σ} [Cluster σ]

/-- The rule for closing a session, which always comes to an end: it is shut already, or its open
handle is closed. -/
theorem meets_closeSession_of {n : SessionId} {post : Unit → World σ → Prop}
    {stuck : World σ → Prop} (shut : w.Shut n → post () w)
    (closes : ∀ h w', w.handles.get? n = some h → h.closed = false → w.Closes h w' → post () w') :
    (closeSession n).Meets w post stuck := by
  unfold closeSession
  refine meets_bind (m := fun x w' => x = w.handles.get? n ∧ w' = w) (meets_ask ⟨rfl, rfl⟩) ?_
  rintro (_ | h) w ⟨hx, rfl⟩
  · refine meets_pure (shut fun h hh => ?_)
    cases hx.trans hh
  obtain rfl := session_of_get? hx.symm
  unfold Handle.close
  dsimp only
  split_ifs with hclosed
  · refine meets_pure (shut fun y hy => ?_)
    rwa [← Option.some.inj (hx.trans hy)]
  · refine meets_bind (m := fun _ w' => w' = _) (meets_change rfl) fun _ w₁ h₁ => ?_
    subst h₁
    refine meets_bind (m := fun _ w' => w.Closes h w')
      (meets_hangUp_of fun _ _ _ _ => ⟨rfl, rfl, _, rfl⟩) fun o w₂ h₂ => ?_
    have done (w₃ : World σ) (hw : w₂.Still w₃) : post () w₃ := by
      refine closes h w₃ hx.symm (by simpa using hclosed) ?_
      refine ⟨hw.opened.trans h₂.opened, hw.handles.trans h₂.handles, ?_⟩
      rw [hw.journal]
      exact h₂.journal
    split
    · exact (harmless_log _ _).meets fun _ => done
    · exact meets_pure (done w₂ (Still.refl w₂))

theorem meets_closeSession {n : SessionId} {stuck : World σ → Prop} (hw : w.Orderly) :
    (closeSession n).Meets w (fun _ w' => w.Onward {n} w') stuck := by
  refine meets_closeSession_of (fun _ => Onward.refl _) fun h w' hh _ hc => ?_
  obtain rfl := session_of_get? hh
  have hp := onward_put (h := { h with closed := true }) (hw.known _ _ hh)
    fun hr => hw.trusted _ h hh hr
  obtain ⟨t, hj⟩ := hc.journal
  exact hp.beside (.of_noted hc.opened.ge hc.handles hj rfl fun _ => rfl)

theorem meets_closeSlot {slot : Option Slot} {stuck : World σ → Prop} (hw : w.Orderly) :
    (closeSlot slot).Meets w (fun _ w' => w.Onward (sessionIn slot) w') stuck := by
  cases slot with
  | none => exact meets_pure (Onward.refl _)
  | some s =>
    rw [sessionIn_some]
    exact meets_closeSession hw

theorem meets_replace {c : Connection} {h : Handle} {slot : Option Slot} {text : String}
    (hw : w.Orderly) (hn : h.session ≤ w.opened)
    (hv : h.role = .master → latestVerdict h.session w.journal = some (.role .master))
    (ht : h.session ∉ sessionIn slot) (hc : h.closed = false) :
    (do
      followCatalog c h
      closeSlot slot
      log .info text
      keep h : Act σ Unit).Meets w
      (fun _ w' => w'.Holds h.role ⟨h.host, h.session⟩ ∧
        w.Onward (sessionIn slot ∪ {h.session}) w') w.Quiet := by
  refine meets_bind (((beside_followCatalog c h).meets w).mono (fun _ _ h => h) fun _ h => h.quiet)
    fun _ w₁ h₁ => ?_
  refine meets_bind (meets_closeSlot (h₁.orderly hw)) fun _ w₂ h₂ => ?_
  refine meets_bind (m := fun _ w' => w₂.Beside w') (meets_log fun _ h => h) fun _ w₃ h₃ => ?_
  have h₁₃ : w.Onward (sessionIn slot) w₃ := h₁.andOnward (h₂.beside h₃)
  have hv₃ (hr : h.role = .master) : latestVerdict h.session w₃.journal = some (.role .master) := by
    rw [h₁₃.verdict _ hn ht, hv hr]
  have hp := onward_put (h := h) (hn.trans h₁₃.opened) hv₃
  refine meets_change ⟨⟨h, ?_, rfl, rfl, hc⟩, ?_⟩
  · exact (Handles.get?_put _ _ _).trans (if_pos rfl)
  · exact (h₁₃.widen Set.subset_union_left).trans hp fun n hn _ => Set.mem_union_right _ hn

/-- What is known along the way when a host is tried: `fresh` of a session that was just opened,
`judged` of it once its role was asked for, `spent` when it was of no use, and `bound` when it has
taken the slot of a role. -/
structure Trial (d : Deployment) (h : Host) (e : Election) (fresh : SessionId → World σ → Prop)
    (judged : SessionId → Verdict → World σ → Prop) (spent : World σ → Prop)
    (bound : SessionId → Role → World σ → Prop) (stuck : World σ → Prop) : Prop where
  judges : ∀ {n : SessionId} {w : World σ}, fresh n w →
    (d.config.topology.judge d.connectTimeout h n).Meets w (judged n) stuck
  looksUp : ∀ {n : SessionId} {waiting : List Host} {r : Role} {w : World σ},
    judged n (.role r) w →
      (namedMaster d h n waiting).Meets w (fun _ => judged n (.role r)) stuck
  hangsUp : ∀ {n : SessionId} {v : Verdict} {w : World σ}, judged n v w →
    (∀ r, v = .role r → e.goal.wants r = false) → (hangUp n).Meets w (fun _ => spent) stuck
  binds : ∀ {n : SessionId} {r : Role} (text : String) {w : World σ}, judged n (.role r) w →
    e.goal.wants r = true → (do
      followCatalog e.connection { session := n, host := h, role := r }
      closeSlot (e.connection.slot? r)
      log .info text
      keep { session := n, host := h, role := r } : Act σ Unit).Meets w (fun _ => bound n r) stuck
  freshStill : ∀ {n : SessionId} {w w' : World σ}, fresh n w → w.Still w' → fresh n w'
  judgedStill : ∀ {n : SessionId} {v : Verdict} {w w' : World σ}, judged n v w → w.Still w' →
    judged n v w'
  spentStill : ∀ {w w' : World σ}, spent w → w.Still w' → spent w'

/-- A host that was tried was of no use, or its session was bound. -/
inductive Tried (h : Host) (e : Election) (spent : World σ → Prop)
    (bound : SessionId → Role → World σ → Prop) : Election → World σ → Prop
  | unbound {e' : Election} {w' : World σ} (connection : e'.connection = e.connection)
      (goal : e'.goal = e.goal) (useless : spent w') : Tried h e spent bound e' w'
  | bound {e' : Election} {w' : World σ} (n : SessionId) (r : Role)
      (wanted : e.goal.wants r = true) (connection : e'.connection = e.connection.fill r ⟨h, n⟩)
      (goal : e'.goal = e.goal.found r) (held : bound n r w') : Tried h e spent bound e' w'

namespace Trial

variable {h : Host} {e : Election} {fresh : SessionId → World σ → Prop}
  {judged : SessionId → Verdict → World σ → Prop} {spent : World σ → Prop}
  {bound : SessionId → Role → World σ → Prop} {stuck : World σ → Prop}

theorem place {n : SessionId} {r : Role} (t : Trial d h e fresh judged spent bound stuck)
    (ho : e.connection.closed = false) (hj : judged n (.role r) w) :
    (place h n r e).Meets w (Tried h e spent bound) stuck := by
  have unwanted (hr : e.goal.wants r = false) : (do
      log .debug s!"{h.text} is a {r.name}, not wanted by this election"
      discard (hangUp n)
      return e : Act σ Election).Meets w (Tried h e spent bound) stuck := by
    refine meets_bind_harmless (harmless_log _ _) fun _ w₁ h₁ => ?_
    have hu := t.hangsUp (t.judgedStill hj h₁) fun q hq => by cases hq; exact hr
    exact meets_bind (meets_discard hu) fun _ w₂ h₂ => meets_pure (.unbound rfl rfl h₂)
  unfold Failover.place
  dsimp only
  cases hr : e.goal.wants r with
  | true =>
    have bind {text : String} {c : Connection} (hc : c = e.connection.fill r ⟨h, n⟩) : (do
        followCatalog e.connection { session := n, host := h, role := r }
        closeSlot (e.connection.slot? r)
        log .info text
        keep { session := n, host := h, role := r }
        return c : Act σ Connection).Meets w (fun c' w' => c' = c ∧ bound n r w') stuck := by
      have returned (w' : World σ) (hw : bound n r w') : (pure c : Act σ Connection).Meets w'
          (fun c' w' => c' = c ∧ bound n r w') stuck := meets_pure ⟨rfl, hw⟩
      simpa only [bind_assoc] using meets_bind (t.binds text hj hr) fun _ => returned
    cases r with
    | master =>
      have hw : e.goal.wantsMaster = true := hr
      simp only [hw, Bool.true_and, decide_true, if_true]
      unfold bindMaster
      rw [ho]
      refine meets_bind (bind rfl) ?_
      rintro _ w' ⟨rfl, hw'⟩
      exact meets_pure (.bound n .master hr rfl rfl hw')
    | replica =>
      have hw : e.goal.wantsReplica = true := hr
      simp only [hw, Bool.true_and, reduceCtorEq, decide_false, Bool.and_false, Bool.false_eq_true,
        decide_true, if_true, if_false]
      unfold bindReplica
      rw [ho]
      refine meets_bind (bind rfl) ?_
      rintro _ w' ⟨rfl, hw'⟩
      exact meets_pure (.bound n .replica hr rfl rfl hw')
  | false =>
    cases r with
    | master =>
      have hw : e.goal.wantsMaster = false := hr
      simpa [hw] using unwanted hr
    | replica =>
      have hw : e.goal.wantsReplica = false := hr
      simpa [hw] using unwanted hr

theorem tryHost {waiting : List Host} (t : Trial d h e fresh judged spent bound stuck)
    (ho : e.connection.closed = false)
    (hc : (connect h).Meets w (fun o w' => match o with
      | .ok n => fresh n w'
      | .error _ => spent w') stuck) :
    (tryHost d h waiting e).Meets w (fun x => Tried h e spent bound x.1) stuck := by
  unfold Failover.tryHost
  refine meets_bind hc ?_
  rintro (x | n) w₁ h₁ <;> dsimp only at h₁ ⊢
  · refine meets_bind_harmless (harmless_log _ _) fun _ w₂ h₂ => ?_
    refine meets_bind_harmless (harmless_blacklist h) fun _ w₃ h₃ => ?_
    exact meets_pure (.unbound rfl rfl (t.spentStill h₁ (h₂.trans h₃)))
  refine meets_bind_harmless (harmless_forgive h) fun _ w₂ h₂ => ?_
  refine meets_bind (t.judges (t.freshStill h₁ h₂)) ?_
  have useless {v : Verdict} {x : Error} {w₃ : World σ} (h₃ : judged n v w₃)
      (hv : ∀ r, v ≠ .role r) : (do
        discard (hangUp n)
        blacklist h
        return ({ e with lastFailure := some x }, none) : Act σ (Election × Option Endpoint)).Meets
        w₃ (fun x => Tried h e spent bound x.1) stuck := by
    have hu := t.hangsUp h₃ fun r hr => absurd hr (hv r)
    refine meets_bind (m := fun _ => spent) (meets_discard hu) fun _ w₄ h₄ => ?_
    refine meets_bind_harmless (harmless_blacklist h) fun _ w₅ h₅ => ?_
    exact meets_pure (.unbound rfl rfl (t.spentStill h₄ h₅))
  rintro (r | x | _) w₃ h₃ <;> dsimp only
  · refine meets_bind_harmless (harmless_log _ _) fun _ w₄ h₄ => ?_
    have hj := t.judgedStill h₃ h₄
    have placed (named : Option Endpoint) (w₅ : World σ) (h₅ : judged n (.role r) w₅) : (do
        return (← Failover.place h n r e, named) : Act σ _).Meets w₅
          (fun x => Tried h e spent bound x.1) stuck :=
      meets_bind (t.place ho h₅) fun _ _ h => meets_pure h
    split_ifs
    · exact meets_bind (t.looksUp hj) placed
    · exact meets_bind (m := fun _ => judged n (.role r)) (meets_pure hj) placed
  · refine meets_bind_harmless (harmless_log _ _) fun _ w₄ h₄ => ?_
    exact useless (t.judgedStill h₃ h₄) fun r h => nomatch h
  · exact useless h₃ fun r h => nomatch h

end Trial

/-- While a host is tried, nothing but the new session is touched. -/
theorem trial_attempt {h : Host} {e : Election} (hs : Sound d e.connection w) : Trial d h e
    (fun n w' => w.Beside w' ∧ n = w.opened + 1 ∧ n ≤ w'.opened)
    (fun n v w' => w.Onward ∅ w' ∧ n = w.opened + 1 ∧ n ≤ w'.opened ∧
      latestVerdict n w'.journal = some v)
    (fun w' => w.Onward ∅ w')
    (fun n r w' => w.opened < n ∧ w'.Holds r ⟨h, n⟩ ∧
      w.Onward (sessionIn (e.connection.slot? r)) w') w.Quiet where
  judges := by
    rintro n u ⟨hu, hn, hnu⟩
    refine meets_judge fun v u₁ h₁ => ?_
    have hu₁ := hu.trans h₁
    have hnew : w.opened < n := hn ▸ Nat.lt_succ_self _
    refine ⟨hu₁.onward.trans (onward_judged v ?_) ?_, hn, hnu.trans h₁.opened, ?_⟩
    · intro x hx
      rw [hu₁.handles] at hx
      exact absurd (hs.orderly.known n x hx) (Nat.not_le.2 hnew)
    · intro m hm hle
      rw [Set.mem_singleton_iff.1 hm] at hle
      exact absurd hle (Nat.not_le.2 hnew)
    · simp [noting, latestVerdict, Event.verdictOn]
  looksUp := by
    rintro n waiting r u ⟨hu, hn, hnu, hv⟩
    refine ((beside_namedMaster d h n waiting).meets u).mono ?_ fun _ h₁ => (hu.beside h₁).quiet
    intro _ u₁ h₁
    exact ⟨hu.beside h₁, hn, hnu.trans h₁.opened, (h₁.latestVerdict n).trans hv⟩
  hangsUp := fun ⟨hu, _⟩ _ => meets_hangUp fun _ _ h₁ => hu.beside h₁
  binds := by
    rintro n r text u ⟨hu, hn, hnu, hv⟩ -
    have hnew : w.opened < n := hn ▸ Nat.lt_succ_self _
    have hslot : n ∉ sessionIn (e.connection.slot? r) := by
      intro hm
      obtain ⟨s, hslot, rfl⟩ := mem_sessionIn.1 hm
      exact absurd (hs.session_le hslot) (Nat.not_le.2 hnew)
    refine (meets_replace (hu.orderly hs.orderly) hnu ?_ hslot rfl).mono ?_
      fun _ h₁ => hu.quiet.trans h₁
    · rintro rfl
      exact hv
    · rintro _ u₁ ⟨holds, onward⟩
      refine ⟨hnew, holds, (hu.widen (Set.empty_subset _)).trans onward ?_⟩
      intro m hm hle
      rcases hm with hm | hm
      · exact hm
      · rw [Set.mem_singleton_iff.1 hm] at hle
        exact absurd hle (Nat.not_le.2 hnew)
  freshStill := fun ⟨hu, hn, hnu⟩ h₁ =>
    ⟨hu.trans h₁.beside, hn, hnu.trans h₁.opened.ge⟩
  judgedStill := fun ⟨hu, hn, hnu, hv⟩ h₁ =>
    ⟨hu.beside h₁.beside, hn, hnu.trans h₁.opened.ge, (h₁.beside.latestVerdict _).trans hv⟩
  spentStill hu h₁ := hu.beside h₁.beside

theorem meets_tryHost {h : Host} {waiting : List Host} {e : Election}
    (hs : Sound d e.connection w) (ho : e.connection.closed = false) :
    (tryHost d h waiting e).Meets w (fun x w' => Attempt e w x.1 w') w.Quiet := by
  refine ((trial_attempt hs).tryHost ho (meets_connect (fun x w' h => h.onward) fun w' h hw' =>
    ⟨h, rfl, hw'.ge⟩)).mono ?_ fun _ h => h
  intro x w' h
  cases h with
  | unbound hc hg ho => exact .unbound hc hg ho
  | bound n r hw hc hg hb => exact .bound r ⟨h, n⟩ hw hb.1 hc hg hb.2.1 hb.2.2

/-- Trying a host leaves the slots as they were, or puts this very host into one. -/
theorem meets_tryHost_slots {h : Host} {waiting : List Host} {e : Election}
    (ho : e.connection.closed = false) : (tryHost d h waiting e).Meets w (fun x _ =>
      ∀ r s, x.1.connection.slot? r = some s → e.connection.slot? r = some s ∨ s.host = h)
      fun _ => True := by
  have anything {α : Type} {x : Act σ α} {w : World σ} :
      x.Meets w (fun _ _ => True) fun _ => True :=
    meets_of_forall (fun _ _ => trivial) fun _ => trivial
  have trial : Trial (σ := σ) d h e (fun _ _ => True) (fun _ _ _ => True) (fun _ => True)
      (fun _ _ _ => True) fun _ => True := {
    judges := fun _ => anything
    looksUp := fun _ => anything
    hangsUp := fun _ _ => anything
    binds := fun _ _ _ _ => anything
    freshStill := fun _ _ => trivial
    judgedStill := fun _ _ => trivial
    spentStill := fun _ _ => trivial }
  refine (trial.tryHost ho (meets_of_forall (fun o _ => ?_) fun _ => trivial)).mono
    (fun x w' h' r s hs => ?_) fun _ h => h
  · cases o <;> trivial
  cases h' with
  | unbound hc _ _ => exact .inl (hc ▸ hs)
  | bound n q _ hc _ _ =>
    rw [hc] at hs
    rcases Connection.cases_slot_fill hs with ⟨rfl, rfl⟩ | ⟨-, hs⟩
    · exact .inr rfl
    · exact .inl hs

/-- The rule for asking the live replica again. -/
theorem meets_recheck_of {c : Connection} {g : Goal} {post : Connection × Goal → World σ → Prop}
    {stuck : World σ → Prop} (hs : Sound d c w)
    (idle : c.masterDown = false ∨ c.replica = none → post (c, g) w)
    (asks : ∀ s h, c.masterDown = true → c.replica = some s →
      w.handles.get? s.session = some h → h.host = s.host → h.role = .replica →
      (d.config.topology.judge d.connectTimeout h.host s.session).Meets w (fun v u =>
        (v = .role .master → ∀ u', World.Still { u with
          handles := u.handles.put { h with role := .master } } u' →
            post (c.promote s, g.masterFound) u') ∧
        (v ≠ .role .master → ∀ u', u.Still u' → post (c, g) u')) stuck) :
    (recheckReplica d c g).Meets w post stuck := by
  unfold recheckReplica
  split_ifs with hneed
  · refine meets_pure (idle ?_)
    rw [hs.coherent.replicaAvailable] at hneed
    simpa using hneed
  obtain ⟨hdown, havail⟩ : c.masterDown = true ∧ c.replicaAvailable = true := by
    simpa using hneed
  cases hrep : c.replica with
  | none => exact meets_pure (idle (.inr hrep))
  | some s =>
    obtain ⟨h, hh, hhost, hr, -⟩ := hs.holds .replica s hrep
    refine meets_bind (m := fun x w' => x = some h ∧ w' = w) (meets_ask ⟨hh, rfl⟩) ?_
    rintro _ w ⟨rfl, rfl⟩
    dsimp only
    refine meets_bind (asks s h hdown hrep hh hhost hr) ?_
    rintro (⟨_ | _⟩ | x | _) u ⟨yes, no⟩ <;> dsimp only
    · have hmaster : c.master = none := hs.coherent.master_eq_none hdown
      refine meets_bind (m := fun _ w' => w' = _) (meets_change rfl) fun _ w₂ h₂ => ?_
      subst h₂
      refine meets_bind_harmless (harmless_log _ _) fun _ w₃ h₃ => ?_
      rw [hmaster]
      exact meets_pure (yes rfl w₃ h₃)
    · exact meets_pure (no nofun u (Still.refl u))
    · refine meets_bind_harmless (harmless_log _ _) fun _ w₂ h₂ => ?_
      exact meets_pure (no nofun w₂ h₂)
    · refine meets_bind_harmless (harmless_log _ _) fun _ w₂ h₂ => ?_
      exact meets_pure (no nofun w₂ h₂)

theorem meets_recheckReplica {c : Connection} {g : Goal} (hs : Sound d c w) :
    (recheckReplica d c g).Meets w (fun x w' => Recheck c g w x.1 x.2 w') w.Quiet := by
  refine meets_recheck_of hs (fun _ => .same rfl (Onward.refl w)) ?_
  intro s h hdown hrep hh hhost hr
  have hin : sessionIn c.replica = {s.session} := by rw [hrep, sessionIn_some]
  refine meets_judge fun v w₁ h₁ => ?_
  have hv : latestVerdict s.session (w₁.noting (.judged s.session v)).journal = some v := by
    simp [noting, latestVerdict, Event.verdictOn]
  have ho : w.Onward (sessionIn c.replica) (w₁.noting (.judged s.session v)) := by
    rw [hin]
    refine h₁.andOnward (onward_judged v fun x hx => ?_)
    rw [h₁.handles, hh] at hx
    rw [← Option.some.inj hx, hr]
    decide
  refine ⟨?_, fun _ u hu => .same (hu.handles.trans h₁.handles) (ho.beside hu.beside)⟩
  rintro rfl u hu
  have hn : s.session ≤ w₁.opened := (hs.session_le (r := .replica) hrep).trans ho.opened
  have hput := onward_put (h := { h with role := .master })
    (w := w₁.noting (.judged s.session (.role .master))) (by rwa [session_of_get? hh])
    fun _ => by rw [session_of_get? hh, hv]
  have hw₂ := ho.trans hput fun n hn _ => by rwa [hin, ← session_of_get? hh]
  refine .promoted s h hdown hrep hh ?_ (hw₂.beside hu.beside)
  rw [hu.handles]
  exact (Handles.get?_put _ _ _).trans (if_pos (session_of_get? hh).symm)

end Actions

end Failover
