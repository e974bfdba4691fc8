import Failover.Proofs.Attempt

/-!
# What an election comes to

An election is a series of attempts and rechecks: whatever each of them preserves (`Upheld`,
`UpheldByRecheck`) holds at its end, on top of a sound connection (`meets_upheld`). Where what an
attempt does to the slots and handles says enough, it is read off that (`Kept`, `KeptByRecheck`).
Of the slots it can be said that a role that is still wanted has not been filled, and that a master
is never lost (`Progress`). An election for the master in a single pass does not even touch a handle
(`Apart`).
-/

namespace Failover

open Act World

theorem Goal.wants_of_isEnough {g : Goal} (h : g.isEnough = false) :
    g.wantsMaster = true ∨ g.wantsReplica = true := by
  have hr : g.isReached = false := by
    cases hr : g.isReached
    · rfl
    · simp [isEnough, hr] at h
  unfold isReached at hr
  cases hm : g.wantsMaster
  · rw [hm] at hr
    right
    simpa using hr
  · exact .inl rfl

variable {σ : Type}

/-- Amid an election that began in `u`. -/
structure Ongoing (d : Deployment) (u : World σ) (c : Connection) (g : Goal) (w : World σ) :
    Prop where
  sound : Sound d c w
  notClosed : c.closed = false
  replicas : g.wantsReplica = true → c.hasReplicas = true
  quiet : u.Quiet w

/-- What is preserved by an attempt, and by what happens beside the handles. -/
structure Kept (d : Deployment) (I : Connection → Goal → World σ → Prop) : Prop where
  attempt : ∀ {e e' : Election} {w w' : World σ}, Sound d e.connection w →
    I e.connection e.goal w → Attempt e w e' w' → I e'.connection e'.goal w'
  beside : ∀ {c : Connection} {g : Goal} {w w' : World σ}, I c g w → w.Beside w' → I c g w'

def KeptByRecheck (d : Deployment) (I : Connection → Goal → World σ → Prop) : Prop :=
  ∀ {c c' : Connection} {g g' : Goal} {w w' : World σ}, Sound d c w → I c g w →
    Recheck c g w c' g' w' → I c' g' w'

/-- No two hosts have the same address. -/
def Deployment.Distinct (d : Deployment) : Prop := (d.hosts.map Host.toEndpoint).Nodup

/-- A host that may be tried: there is no live session to it, unless it is listed twice. -/
structure Deployment.Offers (d : Deployment) (c : Connection) (h : Host) : Prop where
  mem : h ∈ d.hosts
  free : d.Distinct → c.isBound h = false

/-- The hosts that are still to be tried in a pass, in whatever order. -/
structure Deployment.Waits (d : Deployment) (c : Connection) (left : List Host) : Prop where
  offers : ∀ h ∈ left, d.Offers c h
  nodup : d.Distinct → (left.map Host.toEndpoint).Nodup

section Waits

variable {d : Deployment} {c c' : Connection} {h : Host} {left left' : List Host}

theorem Deployment.waits_of_perm (hp : left.Perm (d.hosts.filter fun h => !c.isBound h)) :
    d.Waits c left := by
  refine ⟨?_, ?_⟩
  · intro h hh
    obtain ⟨hmem, hfree⟩ := List.mem_filter.1 (hp.mem_iff.1 hh)
    exact ⟨hmem, fun _ => by simpa using hfree⟩
  · intro hd
    exact (hp.map _).nodup_iff.2 (hd.sublist (List.filter_sublist.map _))

theorem Deployment.Waits.perm (hw : d.Waits c left) (hp : left.Perm left') : d.Waits c left' where
  offers h hh := hw.offers h (hp.mem_iff.2 hh)
  nodup hd := (hp.map _).nodup_iff.1 (hw.nodup hd)

/-- A host was tried, and at most its own session is new. -/
theorem Deployment.Waits.tail (hw : d.Waits c (h :: left)) (hc : c.Coherent) (hc' : c'.Coherent)
    (hs : ∀ r s, c'.slot? r = some s → c.slot? r = some s ∨ s.host = h) : d.Waits c' left := by
  constructor
  case offers =>
    intro x hx
    obtain ⟨hmem, hfree⟩ := hw.offers x (List.mem_cons_of_mem _ hx)
    refine ⟨hmem, ?_⟩
    intro hd
    rw [← Bool.not_eq_true, hc'.isBound_iff]
    rintro ⟨r, s, hslot, he⟩
    rcases hs r s hslot with hold | rfl
    · exact Bool.eq_false_iff.1 (hfree hd) (hc.isBound_iff.2 ⟨r, s, hold, he⟩)
    · exact (List.nodup_cons.1 (hw.nodup hd)).1 (he ▸ List.mem_map_of_mem hx)
  case nodup =>
    intro hd
    exact (List.nodup_cons.1 (hw.nodup hd)).2

end Waits

/-- What is preserved by trying a host, and by what concerns no session. -/
structure Upheld [Cluster σ] (d : Deployment) (I : Connection → Goal → World σ → Prop)
    (stuck : World σ → Prop) : Prop where
  tries : ∀ {h : Host} {waiting : List Host} {e : Election} {w : World σ},
    d.Offers e.connection h → Sound d e.connection w → e.connection.closed = false →
      I e.connection e.goal w →
      (tryHost d h waiting e).Meets w (fun x w' => I x.1.connection x.1.goal w') stuck
  still : ∀ {c : Connection} {g : Goal} {w w' : World σ}, I c g w → w.Still w' → I c g w'

def UpheldByRecheck [Cluster σ] (d : Deployment) (I : Connection → Goal → World σ → Prop)
    (stuck : World σ → Prop) : Prop :=
  ∀ {c : Connection} {g : Goal} {w : World σ}, Sound d c w → I c g w →
    (recheckReplica d c g).Meets w (fun x w' => I x.1 x.2 w') stuck

/-- The rule for a sweep: `J` holds of the hosts that are still to be tried, in whatever order,
and of the election so far. -/
structure Sweeping [Cluster σ] (d : Deployment) (J : List Host → Election → World σ → Prop)
    (stuck : World σ → Prop) : Prop where
  tries : ∀ {h : Host} {left : List Host} {e : Election} {w : World σ}, J (h :: left) e w →
    (tryHost d h left e).Meets w (fun x w' => J left x.1 w') stuck
  perm : ∀ {left left' : List Host} {e : Election} {w : World σ}, J left e w → left.Perm left' →
    J left' e w
  still : ∀ {left : List Host} {e : Election} {w w' : World σ}, J left e w → w.Still w' →
    J left e w'

section Sweeping

variable [Cluster σ] {d : Deployment} {J : List Host → Election → World σ → Prop}
  {stuck stuck' : World σ → Prop}

theorem Sweeping.mono (h : Sweeping d J stuck) (hs : ∀ w, stuck w → stuck' w) :
    Sweeping d J stuck' where
  tries hj := (h.tries hj).mono (fun _ _ h => h) hs
  perm := h.perm
  still := h.still

theorem Sweeping.given (h : Sweeping d J stuck) (p : Prop) :
    Sweeping d (fun left e w => p ∧ J left e w) stuck where
  tries := by
    rintro x left e w ⟨hp, hj⟩
    exact (h.tries hj).mono (fun _ _ h => ⟨hp, h⟩) fun _ h => h
  perm := fun ⟨hp, hj⟩ hl => ⟨hp, h.perm hj hl⟩
  still := fun ⟨hp, hj⟩ hw => ⟨hp, h.still hj hw⟩

end Sweeping

/-- There is enough, or there are sessions of both roles. -/
def Election.IsOver (e : Election) : Prop :=
  e.goal.isEnough = true ∨ e.connection.masterDown = false ∧ e.connection.replicaDown = false

theorem Goal.isEnough_eq {g : Goal} (hrep : g.wantsReplica = false)
    (hplain : g.replicaSuffices = false) : g.isEnough = !g.wantsMaster := by
  simp only [isEnough, isReached, hrep, hplain, Bool.not_false, Bool.and_true, Bool.or_false]
  cases g.wantsMaster <;> simp

/-- A sweep ends because the election is over, or when no host is left. -/
def Swept (J : List Host → Election → World σ → Prop) (x : Election × Bool) (w : World σ) : Prop :=
  ∃ left, J left x.1 w ∧ (x.2 = true → x.1.IsOver) ∧
    (x.2 = false → left = [] ∧ x.1.goal.isEnough = false)

section Ongoing

variable {d : Deployment} {u w w' : World σ} {c c' : Connection} {g g' : Goal} {e e' : Election}

theorem Goal.wants_of_found {r q : Role} (h : (g.found r).wants q = true) :
    g.wants q = true := by
  cases r <;> cases q <;> first | exact h | exact (Bool.false_ne_true h).elim

theorem Goal.ne_of_found {r q : Role} (h : (g.found r).wants q = true) : q ≠ r := by
  rintro rfl
  cases q <;> exact Bool.false_ne_true h

theorem Ongoing.beside (h : Ongoing d u c g w) (hw : w.Beside w') : Ongoing d u c g w' :=
  ⟨h.sound.beside hw, h.notClosed, h.replicas, h.quiet.trans hw.quiet⟩

theorem Ongoing.attempt (h : Ongoing d u e.connection e.goal w) (ha : Attempt e w e' w') :
    Ongoing d u e'.connection e'.goal w' := by
  have hs := ha.sound h.sound h.replicas
  cases ha with
  | unbound hc hg ho =>
    rw [hc] at hs ⊢
    exact ⟨hs, h.notClosed, hg ▸ h.replicas, h.quiet.trans ho.quiet⟩
  | bound r s hw hf hc hg hh ho =>
    refine ⟨hs, by rw [hc, Connection.closed_fill, h.notClosed], ?_, h.quiet.trans ho.quiet⟩
    rw [hc, hg, Connection.hasReplicas_fill]
    exact fun hw => h.replicas (Goal.wants_of_found (q := .replica) hw)

theorem Ongoing.recheck (h : Ongoing d u c g w) (hr : Recheck c g w c' g' w') :
    Ongoing d u c' g' w' := by
  have hs := hr.sound h.sound
  cases hr with
  | same hh ho => exact ⟨hs, h.notClosed, h.replicas, h.quiet.trans ho.quiet⟩
  | promoted s x hd hc hb ha ho =>
    refine ⟨hs, by rw [Connection.closed_promote, h.notClosed], ?_, h.quiet.trans ho.quiet⟩
    rw [Connection.hasReplicas_promote]
    exact h.replicas

end Ongoing

section Passes

variable [Cluster σ] {d : Deployment} {I : Connection → Goal → World σ → Prop} {u : World σ}
  {stuck : World σ → Prop}

/-- The hosts that wait become fewer with each attempt. -/
theorem meets_sweep {J : List Host → Election → World σ → Prop} (hJ : Sweeping d J stuck) :
    ∀ (waiting : List Host) (e : Election) (w : World σ), J waiting e w →
      e.goal.isEnough = false → (sweep d waiting e).Meets w (Swept J) stuck
  | [], e, w, h, henough => by
    unfold sweep
    exact meets_pure ⟨[], h, nofun, fun _ => ⟨rfl, henough⟩⟩
  | host :: waiting, e, w, h, _ => by
    unfold sweep
    refine meets_bind (hJ.tries h) ?_
    rintro ⟨e', named⟩ w₁ h₁
    dsimp only
    split_ifs with henough hup
    · refine meets_bind_harmless (harmless_log _ _) fun _ w₂ h₂ => ?_
      exact meets_pure ⟨waiting, hJ.still h₁ h₂, fun _ => .inl henough,
        nofun⟩
    · refine meets_pure ⟨waiting, h₁, fun _ => .inr ?_, nofun⟩
      simpa using hup
    · exact meets_sweep hJ _ _ _ (hJ.perm h₁ (bringForward_perm _ _).symm) (by simpa using henough)
termination_by waiting => waiting.length
decreasing_by simp [length_bringForward]

/-- The state of an election, with what it preserves, and whether it is over. -/
structure Standing (d : Deployment) (I : Connection → Goal → World σ → Prop) (u : World σ)
    (x : Election × Bool) (w : World σ) : Prop where
  ongoing : Ongoing d u x.1.connection x.1.goal w
  kept : I x.1.connection x.1.goal w
  ends : x.2 = true → x.1.IsOver
  wanting : x.2 = false → x.1.goal.isEnough = false

theorem Upheld.sweeping (hI : Upheld d I stuck) : Sweeping d
    (fun left e w => d.Waits e.connection left ∧ Ongoing d u e.connection e.goal w ∧
      I e.connection e.goal w) fun w' => stuck w' ∧ u.Quiet w' where
  tries := by
    rintro h left e w ⟨hwaits, ho, hi⟩
    have htry : (tryHost d h left e).Meets w (fun x w' => I x.1.connection x.1.goal w') stuck :=
      hI.tries (hwaits.offers h List.mem_cons_self) ho.sound ho.notClosed hi
    refine ((htry.and (meets_tryHost ho.sound ho.notClosed)).and
      (meets_tryHost_slots ho.notClosed)).mono ?_ ?_
    · rintro x w' ⟨⟨hi', ha⟩, hslots⟩
      have ho' := ho.attempt ha
      exact ⟨hwaits.tail ho.sound.coherent ho'.sound.coherent hslots, ho', hi'⟩
    · rintro w' ⟨⟨hstuck, hquiet⟩, -⟩
      exact ⟨hstuck, ho.quiet.trans hquiet⟩
  perm := fun ⟨hwaits, h⟩ hp => ⟨hwaits.perm hp, h⟩
  still := fun ⟨hwaits, ho, hi⟩ hw => ⟨hwaits, ho.beside hw.beside, hI.still hi hw⟩

/-- The rule for one pass and those after it. `B` holds when the pass begins, and `J` all along its
sweep; `next` says what the passes after it come to. -/
theorem meets_pass {J : List Host → Election → World σ → Prop} {B : Election → World σ → Prop}
    {first : Bool} {n : Nat} {e : Election} {w : World σ}
    {post : Election × Bool → World σ → Prop} (hJ : Sweeping d J stuck)
    (begins : (if first then pure (e.connection, e.goal)
      else recheckReplica d e.connection e.goal).Meets w
        (fun x w' => B ⟨x.1, x.2, e.lastFailure⟩ w') stuck)
    (enough : ∀ e' w', B e' w' → e'.goal.isEnough = true → first = false ∧ post (e', true) w')
    (alone : ∀ e' w' w'', B e' w' → e'.goal.isEnough = false → w'.Still w'' →
      (∀ h ∈ d.hosts, e'.connection.isBound h = true) → post (e', false) w'')
    (starts : ∀ hs e' w' w'', B e' w' → e'.goal.isEnough = false → w'.Still w'' →
      hs.Perm (d.hosts.filter fun h => !e'.connection.isBound h) → hs ≠ [] → J hs e' w'')
    (ends : ∀ left e' w', J left e' w' → e'.IsOver → post (e', true) w')
    (next : ∀ e' w', J [] e' w' → e'.goal.isEnough = false →
      (passes d false n e').Meets w' post stuck) :
    (passes d first (n + 1) e).Meets w post stuck := by
  unfold passes
  dsimp only
  rw [← apply_ite (· >>= _)]
  refine meets_bind begins ?_
  rintro ⟨c, g⟩ w₁ h₁
  dsimp only at h₁ ⊢
  cases henough : g.isEnough with
  | true =>
    obtain ⟨rfl, h⟩ := enough _ w₁ h₁ henough
    simpa using meets_pure h
  | false =>
    simp only [Bool.and_false, Bool.false_eq_true, if_false]
    refine meets_bind (m := fun hs w' => hs.Perm (d.hosts.filter fun h => !c.isBound h) ∧
      w₁.Still w') (meets_passOrder fun _ _ hp h => ⟨hp, h⟩) ?_
    rintro waiting w₂ ⟨hp, h₂⟩
    split_ifs with hempty
    · obtain rfl : waiting = [] := List.isEmpty_iff.1 hempty
      refine meets_pure (alone _ w₁ w₂ h₁ henough h₂ fun h hh => ?_)
      simpa using List.filter_eq_nil_iff.1 hp.symm.eq_nil h hh
    have hne : waiting ≠ [] := fun h => hempty (List.isEmpty_iff.2 h)
    refine meets_bind (meets_sweep hJ _ _ _ (starts _ _ _ _ h₁ henough h₂ hp hne) henough) ?_
    rintro ⟨e', ended⟩ w₃ ⟨left, h₃, hover, hleft⟩
    cases ended with
    | true => exact meets_pure (ends left e' w₃ h₃ (hover rfl))
    | false =>
      obtain ⟨rfl, hwanting⟩ := hleft rfl
      exact next e' w₃ h₃ hwanting

theorem meets_passes (hI : Upheld d I stuck) : ∀ (n : Nat) (first : Bool) (e : Election)
    (w : World σ), (first.toNat < n → UpheldByRecheck d I stuck) → Standing d I u (e, false) w →
      (passes d first n e).Meets w (Standing d I u) fun w' => stuck w' ∧ u.Quiet w'
  | 0, first, e, w, _, h => by
    unfold passes
    exact meets_pure h
  | n + 1, first, e, w, hre, h => by
    have wanting {e : Election} {w : World σ} (ho : Ongoing d u e.connection e.goal w)
        (hi : I e.connection e.goal w) (h : e.goal.isEnough = false) :
        Standing d I u (e, false) w := ⟨ho, hi, nofun, fun _ => h⟩
    have ends {e : Election} {w : World σ} (ho : Ongoing d u e.connection e.goal w)
        (hi : I e.connection e.goal w) (h : e.IsOver) : Standing d I u (e, true) w :=
      ⟨ho, hi, fun _ => h, nofun⟩
    refine meets_pass (B := fun e' w' => Ongoing d u e'.connection e'.goal w' ∧
      I e'.connection e'.goal w' ∧ (first = true → e'.goal.isEnough = false))
      hI.sweeping ?begins ?enough ?alone ?starts ?ends ?next
    case begins =>
      cases first with
      | true => exact meets_pure ⟨h.ongoing, h.kept, fun _ => h.wanting rfl⟩
      | false =>
        have hasked := (hre (Nat.succ_pos n) h.ongoing.sound h.kept).and
          (meets_recheckReplica h.ongoing.sound)
        refine hasked.mono ?_ ?_
        · rintro x w' ⟨hi, hr⟩
          exact ⟨h.ongoing.recheck hr, hi, nofun⟩
        · rintro w' ⟨hstuck, hquiet⟩
          exact ⟨hstuck, h.ongoing.quiet.trans hquiet⟩
    case enough =>
      rintro e' w' ⟨ho, hi, hfirst⟩ henough
      refine ⟨?_, ends ho hi (.inl henough)⟩
      cases first with
      | true => cases henough.symm.trans (hfirst rfl)
      | false => rfl
    case alone =>
      rintro e' w' w'' ⟨ho, hi, -⟩ hno hw -
      exact wanting (ho.beside hw.beside) (hI.still hi hw) hno
    case starts =>
      rintro hs e' w' w'' ⟨ho, hi, -⟩ - hw hp -
      exact ⟨Deployment.waits_of_perm hp, ho.beside hw.beside, hI.still hi hw⟩
    case ends =>
      rintro left e' w' ⟨-, ho, hi⟩ hover
      exact ends ho hi hover
    case next =>
      rintro e' w' ⟨-, ho, hi⟩ hno
      refine meets_passes hI n false e' w' ?_ (wanting ho hi hno)
      intro hn
      apply hre
      cases first
      · exact Nat.succ_pos n
      · exact Nat.succ_lt_succ hn

/-- What an election has come to when it says whether it found what it wanted. -/
structure Ended (d : Deployment) (I : Connection → Goal → World σ → Prop) (u : World σ)
    (x : Outcome × Connection × Goal) (w : World σ) : Prop where
  sound : Sound d x.2.1 w
  kept : I x.2.1 x.2.2 w
  quiet : u.Quiet w
  found : x.1 = .found → x.2.2.isEnough = true ∨
    x.2.1.masterDown = false ∧ x.2.1.replicaDown = false
  exhausted : ∀ e, x.1 = .exhausted e → x.2.2.isEnough = false

/-- The rule for an election, given what its passes come to. -/
theorem meets_elect_of {c : Connection} {g : Goal} {w : World σ}
    {post : Outcome × Connection × Goal → World σ → Prop}
    (closed : c.closed = true → ∀ e w', w.Still w' → post (.exhausted e, c, g) w')
    (both : c.masterDown = false → c.replicaDown = false → ∀ w', w.Still w' →
      post (.found, c, g) w')
    (passing : c.closed = false → ∀ w', w.Still w' →
      (passes d true (if g.singlePass then 1 else d.passes) ⟨c, g, none⟩).Meets w' (fun x w₁ =>
        (x.2 = true → post (.found, x.1.connection, x.1.goal) w₁) ∧
        (x.2 = false → ∀ e w₂, w₁.Still w₂ →
          post (.exhausted e, x.1.connection, x.1.goal) w₂)) stuck) :
    (elect d c g).Meets w post stuck := by
  unfold elect
  refine meets_bind_harmless (harmless_log _ _) fun _ w₁ h₁ => ?_
  split
  next hc => exact meets_pure (closed hc _ w₁ h₁)
  next hc =>
  split
  next hup =>
    obtain ⟨hm, hr⟩ : c.masterDown = false ∧ c.replicaDown = false := by simpa using hup
    exact meets_pure (both hm hr w₁ h₁)
  refine meets_bind (passing (by simpa using hc) w₁ h₁) ?_
  rintro ⟨e, _ | _⟩ w₂ ⟨found, exhausted⟩
  · exact meets_bind_harmless (harmless_log _ _) fun _ w₃ h₃ => meets_pure (exhausted rfl _ w₃ h₃)
  · exact meets_pure (found rfl)

theorem meets_elect {c : Connection} {g : Goal} {w : World σ} (hI : Upheld d I stuck)
    (hre : g.singlePass = true ∨ UpheldByRecheck d I stuck) (hs : Sound d c w) (hi : I c g w)
    (hg : g.isEnough = false) (hrep : g.wantsReplica = true → c.hasReplicas = true) :
    (elect d c g).Meets w (Ended d I w) fun w' => stuck w' ∧ w.Quiet w' := by
  refine meets_elect_of ?_ ?_ ?_
  · intro _ e w₁ h₁
    exact ⟨hs.beside h₁.beside, hI.still hi h₁, h₁.beside.quiet, nofun, fun _ _ => hg⟩
  · intro hm hr w₁ h₁
    exact ⟨hs.beside h₁.beside, hI.still hi h₁, h₁.beside.quiet, fun _ => .inr ⟨hm, hr⟩, nofun⟩
  intro hc w₁ h₁
  have ongoing : Ongoing d w c g w₁ := ⟨hs.beside h₁.beside, hc, hrep, h₁.beside.quiet⟩
  have standing : Standing d I w (⟨c, g, none⟩, false) w₁ :=
    ⟨ongoing, hI.still hi h₁, nofun, fun _ => hg⟩
  have again (hn : 1 < if g.singlePass then 1 else d.passes) : UpheldByRecheck d I stuck := by
    rcases hre with hp | hre
    · rw [if_pos hp] at hn
      exact absurd hn (lt_irrefl 1)
    · exact hre
  refine (meets_passes hI _ true _ w₁ again standing).mono ?_ fun _ h => h
  intro x w₂ h₂
  constructor
  · intro hx
    exact ⟨h₂.ongoing.sound, h₂.kept, h₂.ongoing.quiet, fun _ => h₂.ends hx, nofun⟩
  · intro hx e w₃ h₃
    exact ⟨h₂.ongoing.sound.beside h₃.beside, hI.still h₂.kept h₃,
      h₂.ongoing.quiet.trans h₃.beside.quiet, nofun, fun _ _ => h₂.wanting hx⟩

theorem meets_upheld {c : Connection} {g : Goal} {w : World σ} (hI : Upheld d I stuck)
    (hre : g.singlePass = true ∨ UpheldByRecheck d I stuck) (hs : Sound d c w) (hi : I c g w)
    (hg : g.isEnough = false) (hrep : g.wantsReplica = true → c.hasReplicas = true) :
    (electAndRoute d c g).Meets w (fun x w' => ∃ c' g', x.2 = c'.route ∧
      Ended d I w (x.1, c', g') w') fun w' => stuck w' ∧ w.Quiet w' := by
  unfold electAndRoute
  refine meets_bind (meets_elect hI hre hs hi hg hrep) ?_
  rintro ⟨outcome, c', g'⟩ w' h
  exact meets_pure ⟨c', g', rfl, h⟩

theorem Kept.upheld (hI : Kept d I) : Upheld d I fun _ => True where
  tries _ hs ho hi := (meets_tryHost hs ho).mono (fun _ _ ha => hI.attempt hs hi ha)
    fun _ _ => trivial
  still hi hw := hI.beside hi hw.beside

theorem KeptByRecheck.upheld (hI : KeptByRecheck d I) : UpheldByRecheck d I fun _ => True :=
  fun hs hi => (meets_recheckReplica hs).mono (fun _ _ hr => hI hs hi hr) fun _ _ => trivial

theorem meets_electAndRoute {c : Connection} {g : Goal} {w : World σ} (hI : Kept d I)
    (hre : g.singlePass = true ∨ KeptByRecheck d I) (hs : Sound d c w) (hi : I c g w)
    (hg : g.isEnough = false) (hrep : g.wantsReplica = true → c.hasReplicas = true) :
    (electAndRoute d c g).Meets w (fun x w' => ∃ c' g', x.2 = c'.route ∧
      Ended d I w (x.1, c', g') w') w.Quiet :=
  (meets_upheld hI.upheld (hre.imp id KeptByRecheck.upheld) hs hi hg hrep).mono
    (fun _ _ h => h) fun _ h => h.2

end Passes

/-! ## Elections for a master alone -/

/-- A master is all that is wanted, or there is one. -/
structure ForMaster (c : Connection) (g : Goal) : Prop where
  masterOnly : g.wantsReplica = false
  plain : g.replicaSuffices = false
  filled : g.wantsMaster = false → c.master.isSome = true

section ForMaster

variable {d : Deployment} {c : Connection} {g : Goal} {w : World σ}

theorem ForMaster.isSome_master {failure : Option Error} (h : ForMaster c g) (hs : Sound d c w)
    (hover : Election.IsOver ⟨c, g, failure⟩) : c.master.isSome = true := by
  rcases hover with henough | ⟨hup, -⟩
  · refine h.filled ?_
    simpa [Goal.isEnough_eq h.masterOnly h.plain] using henough
  · have hup : c.masterDown = false := hup
    rw [hs.coherent.masterDown] at hup
    simpa using hup

theorem kept_forMaster : Kept d fun c g (_ : World σ) => ForMaster c g where
  attempt := by
    intro e e' w w' _ h ha
    cases ha with
    | unbound hc hg _ => rwa [hc, hg]
    | bound r s hw _ hc hg _ _ =>
      rw [hc, hg]
      cases r with
      | replica => cases h.masterOnly.symm.trans hw
      | master =>
        refine ⟨h.masterOnly, h.plain, ?_⟩
        intro _
        exact congrArg Option.isSome (e.connection.slot_fill_self s .master)
  beside h _ := h

theorem keptByRecheck_forMaster :
    KeptByRecheck d fun c g (_ : World σ) => ForMaster c g := by
  intro c c' g g' w w' _ h hr
  cases hr with
  | same _ _ => exact h
  | promoted s x _ _ _ _ _ =>
    exact ⟨h.masterOnly, h.plain, fun _ => congrArg Option.isSome (c.slot_promote_master s)⟩

variable [Cluster σ]

/-- The report of an election that was of no avail names a role that is still wanted. -/
theorem meets_elect_cause (hopen : c.closed = false) : (elect d c g).Meets w (fun x _ =>
    ∀ e, x.1 = .exhausted e → ∃ failure,
      e = .exhausted (if x.2.2.wantsMaster then .master else .replica) failure) fun _ => True := by
  unfold elect
  refine meets_bind_harmless (harmless_log _ _) fun _ w₁ _ => ?_
  rw [hopen, if_neg Bool.false_ne_true]
  split
  · exact meets_pure nofun
  refine meets_bind (m := fun _ _ => True) (meets_of_forall (fun _ _ => trivial)
    fun _ => trivial) ?_
  rintro ⟨e, _ | _⟩ w₂ -
  · refine meets_bind_harmless (harmless_log _ _) fun _ w₃ _ => meets_pure ?_
    rintro _ ⟨⟩
    exact ⟨e.lastFailure, rfl⟩
  · exact meets_pure nofun

/-- An election for a master alone finds one, or reports that there is none. -/
theorem meets_masterElection (hs : Sound d c w) (hopen : c.closed = false)
    (hg : g.wantsMaster = true) (h : ForMaster c g) : (electAndRoute d c g).Meets w
      (fun x w' => Sound d x.2 w' ∧ (x.1 = .found → x.2.master.isSome = true) ∧
        ∀ e, x.1 = .exhausted e → ∃ failure, e = .exhausted .master failure) fun _ => True := by
  have henough : g.isEnough = false := by rw [Goal.isEnough_eq h.masterOnly h.plain, hg]; rfl
  have hnorep (hr : g.wantsReplica = true) : c.hasReplicas = true := by
    cases h.masterOnly.symm.trans hr
  unfold electAndRoute
  refine meets_bind (((meets_elect kept_forMaster.upheld (.inr keptByRecheck_forMaster.upheld) hs h
    henough hnorep).and (meets_elect_cause hopen)).mono (fun _ _ h => h) fun _ _ => trivial) ?_
  rintro ⟨outcome, c', g'⟩ w' ⟨hended, hcause⟩
  refine meets_pure ⟨hended.sound.route, ?_, ?_⟩
  · intro hx
    have hover : Election.IsOver ⟨c', g', none⟩ := hended.found hx
    have hmaster := hended.kept.isSome_master hended.sound hover
    exact (congrArg Option.isSome (c'.slot_route .master)).trans hmaster
  · intro e hx
    obtain ⟨failure, hfailure⟩ := hcause e hx
    have hwants : g'.wantsMaster = true := by
      simpa [Goal.isEnough_eq hended.kept.masterOnly hended.kept.plain] using hended.exhausted e hx
    exact ⟨failure, by simpa [hwants] using hfailure⟩

end ForMaster

/-! ## The slots after an election -/

/-- The slots since an election began with `c₀` and `g₀`. -/
structure Progress (c₀ : Connection) (g₀ : Goal) (c : Connection) (g : Goal) : Prop where
  readOnly : c.readOnly = c₀.readOnly
  closed : c.closed = c₀.closed
  master : c₀.master.isSome = true → c.master.isSome = true
  wants : ∀ r, g.wants r = true → g₀.wants r = true
  vacant : ∀ r, g.wants r = true → c₀.slot? r = none → c.slot? r = none

section Progress

variable {d : Deployment} {c₀ : Connection} {g₀ : Goal}

theorem Progress.refl (c : Connection) (g : Goal) : Progress c g c g :=
  ⟨rfl, rfl, id, fun _ => id, fun _ _ => id⟩

theorem Connection.master_fill {c : Connection} {r : Role} {s : Slot}
    (h : c.master.isSome = true) : (c.fill r s).master.isSome = true := by
  cases r with
  | master => exact congrArg Option.isSome (c.slot_fill_self s .master)
  | replica => exact (congrArg Option.isSome (c.slot_fill_of_ne s (r := .replica)
      (q := .master) (by decide))).trans h

theorem kept_progress : Kept d fun c g (_ : World σ) => Progress c₀ g₀ c g where
  attempt := by
    intro e e' w w' _ h ha
    cases ha with
    | unbound hc hg _ => rwa [hc, hg]
    | bound r s hw _ hc hg _ _ =>
      rw [hc, hg]
      refine ⟨by rw [Connection.readOnly_fill, h.readOnly],
        by rw [Connection.closed_fill, h.closed], fun hm => Connection.master_fill (h.master hm),
        fun r' hr' => h.wants r' (Goal.wants_of_found hr'), ?_⟩
      intro r' hr' hv
      rw [Connection.slot_fill_of_ne _ _ (Goal.ne_of_found hr')]
      exact h.vacant r' (Goal.wants_of_found hr') hv
  beside h _ := h

theorem keptByRecheck_progress :
    KeptByRecheck d fun c g (_ : World σ) => Progress c₀ g₀ c g := by
  intro c c' g g' w w' _ h hr
  cases hr with
  | same _ _ => exact h
  | promoted s x hd hs _ _ _ =>
    refine ⟨by rw [Connection.readOnly_promote, h.readOnly],
      by rw [Connection.closed_promote, h.closed], ?_,
      fun r hr => h.wants r (Goal.wants_of_found (r := .master) hr), ?_⟩
    · intro _
      exact congrArg Option.isSome (c.slot_promote_master s)
    · intro r hr _
      cases r with
      | master => exact (Bool.false_ne_true hr).elim
      | replica => exact c.slot_promote_replica s

end Progress

/-- A sound connection at rest. -/
structure Settled (d : Deployment) (c : Connection) (w : World σ) : Prop extends Sound d c w where
  rest : c.current = c.target

/-- What becomes of the slots in an election, and that it was of no avail when it says so. -/
structure Elected (c : Connection) (g : Goal) (outcome : Outcome) (c' : Connection) : Prop where
  readOnly : c'.readOnly = c.readOnly
  closed : c'.closed = c.closed
  master : c.master.isSome = true → c'.master.isSome = true
  vacant : ∀ e r, outcome = .exhausted e → (∀ r', g.wants r' = true → r' = r) →
    c.slot? r = none → c'.slot? r = none

section Outcomes

variable [Cluster σ] {d : Deployment} {c : Connection} {g : Goal} {w : World σ}

theorem Upheld.progress {I : Connection → Goal → World σ → Prop} {stuck : World σ → Prop}
    (hI : Upheld d I stuck) :
    Upheld d (fun c' g' w' => Progress c g c' g' ∧ I c' g' w') stuck where
  tries := by
    rintro x waiting e w hoffer hs ho ⟨hprogress, hi⟩
    refine ((hI.tries hoffer hs ho hi).and (meets_tryHost hs ho)).mono ?_ fun _ h => h.1
    rintro y w' ⟨hi', ha⟩
    exact ⟨kept_progress.attempt hs hprogress ha, hi'⟩
  still h hw := ⟨h.1, hI.still h.2 hw⟩

theorem UpheldByRecheck.progress {I : Connection → Goal → World σ → Prop} {stuck : World σ → Prop}
    (hre : UpheldByRecheck d I stuck) :
    UpheldByRecheck d (fun c' g' w' => Progress c g c' g' ∧ I c' g' w') stuck := by
  rintro c' g' w hs ⟨hprogress, hi⟩
  refine ((hre hs hi).and (meets_recheckReplica hs)).mono ?_ fun _ h => h.1
  rintro x w' ⟨hi', hr⟩
  exact ⟨keptByRecheck_progress hs hprogress hr, hi'⟩

/-- What becomes of the slots and of what is preserved besides. -/
theorem meets_election {I : Connection → Goal → World σ → Prop} {stuck : World σ → Prop}
    (hI : Upheld d I stuck) (hre : g.singlePass = true ∨ UpheldByRecheck d I stuck)
    (hs : Sound d c w) (hi : I c g w) (hg : g.isEnough = false)
    (hrep : g.wantsReplica = true → c.hasReplicas = true) :
    (electAndRoute d c g).Meets w (fun x w' => Settled d x.2 w' ∧ Elected c g x.1 x.2 ∧
      ∃ c' g', x.2 = c'.route ∧ I c' g' w') stuck := by
  refine (meets_upheld hI.progress (hre.imp id UpheldByRecheck.progress) hs
    ⟨Progress.refl c g, hi⟩ hg hrep).mono ?_ fun _ h => h.1
  rintro ⟨outcome, _⟩ w' ⟨c', g', rfl, hs', ⟨hp, hi'⟩, -, -, hx⟩
  refine ⟨⟨hs'.route, hs'.coherent.current_route⟩, ⟨?_, ?_, ?_, ?_⟩, c', g', rfl, hi'⟩
  · rw [Connection.readOnly_route, hp.readOnly]
  · rw [Connection.closed_route, hp.closed]
  · exact fun hm => (congrArg Option.isSome (c'.slot_route .master)).trans (hp.master hm)
  · intro e r he honly hv
    rw [Connection.slot_route]
    have hwant : g'.wants r = true := by
      rcases Goal.wants_of_isEnough (hx e he) with hm | hm
      · exact honly .master (hp.wants .master hm) ▸ hm
      · exact honly .replica (hp.wants .replica hm) ▸ hm
    exact hp.vacant r hwant hv

end Outcomes

/-- An election for a master alone that has left aside all that was there in `u`. -/
structure Apart (replica : Option Slot) (u : World σ) (c : Connection) (g : Goal) (w : World σ) :
    Prop where
  masterOnly : g.wantsReplica = false
  vacant : g.wantsMaster = true → c.master = none
  replica : c.replica = replica
  onward : u.Onward ∅ w

theorem kept_apart {d : Deployment} {replica : Option Slot} {u : World σ} :
    Kept d (Apart replica u) where
  attempt := by
    intro e e' w w' _ h ha
    cases ha with
    | unbound hc hg ho =>
      rw [hc, hg]
      exact ⟨h.masterOnly, h.vacant, h.replica, h.onward.trans ho fun _ hn _ => hn⟩
    | bound r s hw _ hc hg _ ho =>
      rw [hc, hg]
      cases r with
      | replica => exact absurd (h.masterOnly.symm.trans hw) Bool.false_ne_true
      | master =>
        have ht : sessionIn (e.connection.slot? .master) = ∅ :=
          (congrArg sessionIn (h.vacant hw)).trans sessionIn_none
        rw [ht] at ho
        exact ⟨h.masterOnly, nofun,
          (e.connection.slot_fill_of_ne (q := .replica) s (by decide)).trans h.replica,
          h.onward.trans ho fun _ hn _ => hn⟩
  beside h hw := ⟨h.masterOnly, h.vacant, h.replica, h.onward.beside hw⟩

/-- Looking for a master in one pass changes neither the replica's slot nor any handle. -/
theorem meets_masterInOnePass [Cluster σ] {d : Deployment} {c : Connection} {w : World σ}
    (hs : Sound d c w) (hm : c.master = none) :
    (electAndRoute d c Goal.masterOnly.inOnePass).Meets w
      (fun x w' => x.2.replica = c.replica ∧ w.Onward ∅ w') w.Quiet := by
  refine (meets_electAndRoute kept_apart (.inl rfl) hs ⟨rfl, fun _ => hm, rfl, Onward.refl w⟩ rfl
    fun h => (Bool.false_ne_true h).elim).mono ?_ fun _ h => h
  rintro ⟨outcome, _⟩ w' ⟨c', g', rfl, h⟩
  exact ⟨(c'.slot_route .replica).trans h.kept.replica, h.kept.onward⟩

end Failover
