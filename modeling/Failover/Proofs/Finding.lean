import Failover.Proofs.Invariants
import Failover.Proofs.Placement
import Failover.Proofs.Scripted

/-!
# What an election finds

Among steady servers an election always ends. A role that it wants is found in the first pass if a
host without a live session has it, and otherwise only the live replica can still have become the
master, which is asked for once there is a second pass (`Searched`). Neither the blacklist nor the
clock nor what a replica says of the master has a say in it.
-/

namespace Failover

open Act World

variable {σ : Type}

theorem Goal.wants_found_of_ne {g : Goal} {r q : Role} (h : q ≠ r) :
    (g.found r).wants q = g.wants q := by
  cases q <;> cases r <;> first | rfl | exact absurd rfl h

theorem Goal.isEnough_of_wants {g : Goal} {r : Role}
    (plain : g.masterSuffices = false ∧ g.replicaSuffices = false) (hr : g.wants r = true) :
    g.isEnough = false := by
  cases r <;> simp_all [isEnough, isReached, wants]

theorem Attempt.onward {e e' : Election} {w w' : World σ} (ha : Attempt e w e' w')
    (hv : ∀ r, e.goal.wants r = true → e.connection.slot? r = none) : w.Onward ∅ w' := by
  cases ha with
  | unbound _ _ ho => exact ho
  | bound r s hw _ _ _ _ ho => rwa [hv r hw, sessionIn_none] at ho

theorem Recheck.opened {c c' : Connection} {g g' : Goal} {w w' : World σ}
    (hr : Recheck c g w c' g' w') : w.opened ≤ w'.opened := by
  cases hr with
  | same _ ho => exact ho.opened
  | promoted _ _ _ _ _ _ ho => exact ho.opened

/-- How the slots have come to be what they are since the election began with `c₀` and `g₀`: by
trying hosts alone, or in the end the replica was found to be the master. That can only be if it
is `asked`. -/
inductive Filling (K : Regime σ) (d : Deployment) (asked : Prop) (c₀ : Connection) (g₀ : Goal)
    (u : World σ) (c : Connection) (g : Goal) (w : World σ) : Prop
  | tried (vacant : ∀ r, g.wants r = true → g₀.wants r = true ∧ c.slot? r = none)
      (filled : ∀ r, g₀.wants r = true → g.wants r = false → ∃ s, c.slot? r = some s ∧
        K.role d.config.topology s.host = some r ∧ s.host ∈ d.hosts ∧ c₀.isBound s.host = false)
      (kept : ∀ r, g₀.wants r = false → c.slot? r = c₀.slot? r)
      (handles : ∀ n ≤ u.opened, w.handles.get? n = u.handles.get? n)
  | promoted (s : Slot) (h : asked) (replica : c₀.replica = some s)
      (role : K.role d.config.topology s.host = some .master) (wanted : g₀.wants .master = true)
      (only : g₀.wants .replica = false) (master : c.master = some s) (left : c.replica = none)
      (reached : ∀ r, g.wants r = false)

section Filling

variable {K : Regime σ} {d : Deployment} {asked : Prop} {c₀ c : Connection} {g₀ g : Goal}
  {u w w' : World σ} {s : Slot}

theorem Filling.of_handles (h : Filling K d asked c₀ g₀ u c g w)
    (hw : ∀ n ≤ u.opened, w'.handles.get? n = w.handles.get? n) :
    Filling K d asked c₀ g₀ u c g w' := by
  cases h with
  | tried vacant filled kept handles =>
    exact .tried vacant filled kept fun n hn => (hw n hn).trans (handles n hn)
  | promoted s ha replica role wanted only master left reached =>
    exact .promoted s ha replica role wanted only master left reached

theorem Filling.fill (h : Filling K d asked c₀ g₀ u c g w) {r : Role} (hr : g.wants r = true)
    (hrole : K.role d.config.topology s.host = some r) (hmem : s.host ∈ d.hosts)
    (hfree : c₀.isBound s.host = false) :
    Filling K d asked c₀ g₀ u (c.fill r s) (g.found r) w := by
  cases h with
  | promoted _ _ _ _ _ _ _ _ reached => exact nomatch hr.symm.trans (reached r)
  | tried vacant filled kept handles =>
    refine .tried ?_ ?_ ?_ handles
    · intro q hq
      rw [Connection.slot_fill_of_ne _ _ (Goal.ne_of_found hq)]
      exact vacant q (Goal.wants_of_found hq)
    · intro q hq₀ hq
      by_cases hqr : q = r
      · subst hqr
        exact ⟨s, Connection.slot_fill_self _ _ _, hrole, hmem, hfree⟩
      · rw [Goal.wants_found_of_ne hqr] at hq
        rw [Connection.slot_fill_of_ne _ _ hqr]
        exact filled q hq₀ hq
    · intro q hq
      have hqr : q ≠ r := by
        rintro rfl
        cases hq.symm.trans (vacant q hr).1
      rw [Connection.slot_fill_of_ne _ _ hqr]
      exact kept q hq

/-- The replica was there before: a replica that is found by the election is none to promote. -/
theorem Filling.promote (h : Filling K d asked c₀ g₀ u c g w) (ha : asked)
    (hwant : g.isEnough = false) (hrep : c.replica = some s)
    (hrole : K.role d.config.topology s.host = some .master) :
    Filling K d asked c₀ g₀ u (c.promote s) g.masterFound w' := by
  cases h with
  | promoted _ _ _ _ _ _ _ left _ => cases hrep.symm.trans left
  | tried vacant filled kept handles =>
  have hfound : g.wants .replica = false := by
    cases h : g.wants .replica with
    | true => cases hrep.symm.trans (vacant .replica h).2
    | false => rfl
  have honly : g₀.wants .replica = false := by
    cases h : g₀.wants .replica with
    | true =>
      obtain ⟨t, ht, hrole', -⟩ := filled .replica h hfound
      obtain rfl : s = t := Option.some.inj (hrep.symm.trans ht)
      cases hrole.symm.trans hrole'
    | false => rfl
  have hmaster : g.wants .master = true := by
    rcases Goal.wants_of_isEnough hwant with h | h
    · exact h
    · cases hfound.symm.trans h
  refine .promoted s ha ((kept .replica honly).symm.trans hrep) hrole (vacant .master hmaster).1
    honly (c.slot_promote_master s) (c.slot_promote_replica s) ?_
  rintro (_ | _)
  · rfl
  · exact hfound

end Filling

/-- Amid an election that began with `c₀` and `g₀` in `u`, among steady servers. -/
structure Gathered (K : Regime σ) (d : Deployment) (asked : Prop) (c₀ : Connection) (g₀ : Goal)
    (u : World σ) (c : Connection) (g : Goal) (w : World σ) : Prop extends Ongoing d u c g w where
  placed : c.Placed d
  leads : K.Leads c w
  opened : u.opened ≤ w.opened
  suffices' : g.masterSuffices = g₀.masterSuffices ∧ g.replicaSuffices = g₀.replicaSuffices
  filling : Filling K d asked c₀ g₀ u c g w

/-- No host that was free has a role that is still wanted, but for those that are `left`. -/
def Regime.Without (K : Regime σ) (d : Deployment) (c₀ : Connection) (g : Goal)
    (left : List Host) : Prop :=
  ∀ h ∈ d.hosts, c₀.isBound h = false → h ∉ left → ∀ r, g.wants r = true →
    K.role d.config.topology h ≠ some r

/-- If a master is still wanted, the live replica is none. -/
def Regime.Declines (K : Regime σ) (d : Deployment) (c : Connection) (g : Goal) : Prop :=
  g.wants .master = true → ∀ s, c.replica = some s → K.role d.config.topology s.host ≠ some .master

/-- A host that was tried had no role that was wanted, or was bound in its role. -/
abbrev TriedIn (K : Regime σ) (d : Deployment) (h : Host) (e : Election) :
    Election → World σ → Prop :=
  Tried h e (fun _ => ∀ r, K.role d.config.topology h = some r → e.goal.wants r = false)
    fun _ r _ => K.role d.config.topology h = some r

/-- What the passes of an election have come to. -/
structure Searched (K : Regime σ) (d : Deployment) (asked : Prop) (c₀ : Connection) (g₀ : Goal)
    (u : World σ) (x : Election × Bool) (w : World σ) : Prop where
  gathered : Gathered K d asked c₀ g₀ u x.1.connection x.1.goal w
  ends : x.2 = true → x.1.IsOver
  wanting : x.2 = false → x.1.goal.isEnough = false
  tried : x.2 = false → K.Without d c₀ x.1.goal []
  declined : x.2 = false → asked → K.Declines d x.1.connection x.1.goal

section Gathered

variable {K : Regime σ} {d : Deployment} {asked : Prop} {c₀ c : Connection} {g₀ g : Goal}
  {u w w' : World σ}

theorem Gathered.vacant (h : Gathered K d asked c₀ g₀ u c g w) {r : Role}
    (hr : g.wants r = true) : c.slot? r = none := by
  cases h.filling with
  | tried vacant _ _ _ => exact (vacant r hr).2
  | promoted s _ _ _ _ _ _ _ reached => exact nomatch hr.symm.trans (reached r)

theorem Gathered.kept (h : Gathered K d asked c₀ g₀ u c g w) {r q : Role}
    (hr : g.wants r = true) (hq : g₀.wants q = false) : c.slot? q = c₀.slot? q := by
  cases h.filling with
  | tried _ _ kept _ => exact kept q hq
  | promoted s _ _ _ _ _ _ _ reached => exact nomatch hr.symm.trans (reached r)

/-- A role that was wanted and is no longer has been found, on a host that was free or on the
replica. -/
theorem Gathered.origin (h : Gathered K d asked c₀ g₀ u c g w) {r : Role}
    (hr₀ : g₀.wants r = true) (hr : g.wants r = false) : ∃ s, c.slot? r = some s ∧
      K.role d.config.topology s.host = some r ∧ (s.host ∈ d.hosts ∧ c₀.isBound s.host = false ∨
        r = .master ∧ asked ∧ c₀.replica = some s) := by
  cases h.filling with
  | tried vacant filled kept handles =>
    obtain ⟨s, hs, hrole, hfree⟩ := filled r hr₀ hr
    exact ⟨s, hs, hrole, .inl hfree⟩
  | promoted s ha replica role wanted only master left reached =>
    cases r with
    | master => exact ⟨s, master, role, .inr ⟨rfl, ha, replica⟩⟩
    | replica => exact nomatch hr₀.symm.trans only

theorem Gathered.found (h : Gathered K d asked c₀ g₀ u c g w) {r : Role} (hr₀ : g₀.wants r = true)
    (hr : g.wants r = false) :
    ∃ s, c.slot? r = some s ∧ K.role d.config.topology s.host = some r := by
  obtain ⟨s, hs, hrole, -⟩ := h.origin hr₀ hr
  exact ⟨s, hs, hrole⟩

theorem Gathered.isSome_iff (h : Gathered K d asked c₀ g₀ u c g w) {r : Role}
    (hr₀ : g₀.wants r = true) : (c.slot? r).isSome = true ↔ g.wants r = false := by
  refine ⟨?_, ?_⟩
  · intro hs
    rw [← Bool.not_eq_true]
    exact fun hr => by simp [h.vacant hr] at hs
  · intro hr
    obtain ⟨s, hs, -⟩ := h.found hr₀ hr
    rw [hs]
    rfl

theorem Gathered.alive (h : Gathered K d asked c₀ g₀ u c g w) {r : Role} {s : Slot}
    (hs : c.slot? r = some s) : K.up s.host.toEndpoint = true ∨
      g₀.wants r = false ∧ c₀.slot? r = some s ∧
        (s.session ≤ u.opened → w.handles.get? s.session = u.handles.get? s.session) := by
  cases hr : g.wants r with
  | true => cases hs.symm.trans (h.vacant hr)
  | false =>
  cases hr₀ : g₀.wants r with
  | true =>
    obtain ⟨t, ht, hrole⟩ := h.found hr₀ hr
    obtain rfl : s = t := Option.some.inj (hs.symm.trans ht)
    exact .inl (Regime.up_of_role hrole)
  | false =>
    cases h.filling with
    | tried vacant filled kept handles =>
      exact .inr ⟨rfl, (kept r hr₀).symm.trans hs, handles s.session⟩
    | promoted t ha replica role wanted only master left reached =>
      cases r with
      | master => exact nomatch hr₀.symm.trans wanted
      | replica => cases hs.symm.trans left

/-- What was bound when the election began stays bound until a promotion. -/
theorem Gathered.free (hg : Gathered K d asked c₀ g₀ u c g w) (hc₀ : c₀.Coherent)
    (hdown : ∀ r, g₀.wants r = true → c₀.slot? r = none) (hwant : g.isEnough = false) {h : Host}
    (hfree : c.isBound h = false) : c₀.isBound h = false := by
  cases hg.filling with
  | promoted s _ _ _ _ _ _ _ reached =>
    rcases Goal.wants_of_isEnough hwant with hw | hw
    · cases hw.symm.trans (reached .master)
    · cases hw.symm.trans (reached .replica)
  | tried vacant filled kept handles =>
    rw [← Bool.not_eq_true, hc₀.isBound_iff]
    rintro ⟨r, s, hs, he⟩
    have hr : g₀.wants r = false := by
      rw [← Bool.not_eq_true]
      intro hr
      cases hs.symm.trans (hdown r hr)
    have hbound := hg.sound.coherent.isBound_iff.2 ⟨r, s, (kept r hr).trans hs, he⟩
    cases hfree.symm.trans hbound

theorem Tried.without {h : Host} {left : List Host} {e e' : Election}
    (ht : TriedIn K d h e e' w) (hw : K.Without d c₀ e.goal (h :: left)) :
    K.Without d c₀ e'.goal left := by
  intro x hx hfree hleft r hr hrole
  cases ht with
  | unbound hc hg hspent =>
    rw [hg] at hr
    by_cases hxh : x = h
    · subst hxh
      cases hr.symm.trans (hspent r hrole)
    · exact hw x hx hfree (by simp [hxh, hleft]) r hr hrole
  | bound n q hq hc hg hheld =>
    rw [hg] at hr
    by_cases hxh : x = h
    · subst hxh
      exact Goal.ne_of_found hr (Option.some.inj (hrole.symm.trans hheld))
    · exact hw x hx hfree (by simp [hxh, hleft]) r (Goal.wants_of_found hr) hrole

/-- A replica that an election finds is no master. -/
theorem Tried.declines {h : Host} {e e' : Election} (ht : TriedIn K d h e e' w)
    (hd : K.Declines d e.connection e.goal) : K.Declines d e'.connection e'.goal := by
  intro hm s hs hrole
  cases ht with
  | unbound hc hg _ =>
    rw [hc] at hs
    rw [hg] at hm
    exact hd hm s hs hrole
  | bound n r _ hc hg hheld =>
    rw [hg] at hm
    have hs : (e.connection.fill r ⟨h, n⟩).slot? .replica = some s := hc ▸ hs
    rcases Connection.cases_slot_fill hs with ⟨rfl, rfl⟩ | ⟨-, hs⟩
    · cases hrole.symm.trans hheld
    · exact hd (Goal.wants_of_found hm) s hs hrole

variable [Cluster σ]

theorem Gathered.still (hK : K.Steady d.connectTimeout) (h : Gathered K d asked c₀ g₀ u c g w)
    (hw : w.Still w') : Gathered K d asked c₀ g₀ u c g w' where
  toOngoing := h.toOngoing.beside hw.beside
  placed := h.placed
  leads := hK.leads_still h.leads hw
  opened := h.opened.trans hw.opened.ge
  suffices' := h.suffices'
  filling := h.filling.of_handles fun n _ => by rw [hw.handles]

/-- A host that is up and free is tried with the session of the next number. -/
theorem Regime.Steady.connects_to (hK : K.Steady d.connectTimeout) {h : Host} {e : Election}
    {stuck : World σ → Prop} (hw : K.holds w.servers) :
    (connect h).Meets w (fun o w' => match o with
      | .ok n => n = w.opened + 1 ∧ K.Goes {n} w.servers w'.servers ∧
          K.serves w'.servers n h.toEndpoint ∧ K.up h.toEndpoint = true
      | .error _ => K.Goes {w.opened + 1} w.servers w'.servers ∧
          ∀ r, K.role d.config.topology h = some r → e.goal.wants r = false) stuck := by
  refine meets_connect_of ?_ ?_
  · intro wait x servers hc
    obtain ⟨hg, hup, -⟩ := hK.connects hw hc
    refine ⟨hg, ?_⟩
    intro r hr
    cases (up_of_role hr).symm.trans hup.symm
  · intro wait servers hc
    obtain ⟨hg, hup, hs⟩ := hK.connects hw hc
    exact ⟨rfl, hg, hs hup.symm, hup.symm⟩

theorem Gathered.tries (hK : K.Steady d.connectTimeout) {e : Election} {h : Host}
    {waiting : List Host} (hg : Gathered K d asked c₀ g₀ u e.connection e.goal w)
    (hmem : h ∈ d.hosts) (hfree : c₀.isBound h = false) :
    (tryHost d h waiting e).Meets w (fun x w' =>
      Gathered K d asked c₀ g₀ u x.1.connection x.1.goal w' ∧ TriedIn K d h e x.1 w')
      fun _ => False := by
  have hv (r : Role) (hr : e.goal.wants r = true) : e.connection.slot? r = none := hg.vacant hr
  have htrial := trial_steady (h := h) (w := w) hK hv
  refine ((htrial.tryHost hg.notClosed (hK.connects_to hg.leads.holds)).and
    (meets_tryHost hg.sound hg.notClosed)).mono ?_ fun _ h => h.1
  rintro ⟨e', named⟩ w' ⟨ht, ha⟩
  have ho := ha.onward hv
  have hsession (r : Role) (s : Slot) (hs : e.connection.slot? r = some s) :
      s.session ≠ w.opened + 1 := Nat.ne_of_lt (Nat.lt_succ_of_le (hg.sound.session_le hs))
  have hhandles (n : SessionId) (hn : n ≤ u.opened) : w'.handles.get? n = w.handles.get? n :=
    ho.handle n (hn.trans hg.opened) (Set.notMem_empty n)
  have hongoing := hg.toOngoing.attempt ha
  dsimp only at ht hongoing ⊢
  cases ht with
  | unbound hc hgoal hspent =>
    obtain ⟨hgoes, hrole⟩ := hspent
    rw [hc, hgoal] at hongoing ⊢
    refine ⟨⟨hongoing, hg.placed, hg.leads.goes hgoes hsession, hg.opened.trans ho.opened,
      hg.suffices', hg.filling.of_handles hhandles⟩, .unbound hc hgoal hrole⟩
  | bound n r hw hc hgoal hheld =>
    obtain ⟨⟨rfl, hgoes, hserves⟩, hrole⟩ := hheld
    rw [hc, hgoal] at hongoing ⊢
    refine ⟨?_, .bound _ r hw hc hgoal hrole⟩
    constructor
    case toOngoing => exact hongoing
    case placed => exact hg.placed.fill hmem fun q => Regime.eq_of_role hrole
    case leads =>
      refine ⟨hgoes.holds, ?_⟩
      intro q s hs
      rcases Connection.cases_slot_fill hs with ⟨rfl, rfl⟩ | ⟨-, hs⟩
      · exact hserves
      · exact (hg.leads.goes hgoes hsession).serves q s hs
    case opened => exact hg.opened.trans ho.opened
    case suffices' => cases r <;> exact hg.suffices'
    case filling => exact (hg.filling.fill hw hrole hmem hfree).of_handles hhandles

/-- What asking the live replica again comes to: nothing changes, or its host is a master by now. -/
inductive Regime.Rechecked (K : Regime σ) (d : Deployment) (c : Connection) (g : Goal)
    (w : World σ) : Connection × Goal → World σ → Prop
  | same {w' : World σ} (handles : w'.handles = w.handles) (declines : K.Declines d c g) :
      Rechecked K d c g w (c, g) w'
  | promoted {w' : World σ} (s : Slot) (replica : c.replica = some s)
      (role : K.role d.config.topology s.host = some .master) :
      Rechecked K d c g w (c.promote s, g.masterFound) w'

theorem meets_recheck_steady (hK : K.Steady d.connectTimeout)
    (hg : Gathered K d asked c₀ g₀ u c g w) : (recheckReplica d c g).Meets w
      (fun x w' => K.Goes ∅ w.servers w'.servers ∧ K.Rechecked d c g w x w') fun _ => False := by
  refine meets_recheck_of hg.sound ?_ ?_
  · intro hidle
    refine ⟨.refl hg.leads.holds, .same rfl ?_⟩
    intro hm s hs
    have hmaster : c.master = none := hg.vacant hm
    rcases hidle with hup | hnone
    · rw [hg.sound.coherent.masterDown, hmaster] at hup
      cases hup
    · cases hs.symm.trans hnone
  · intro s h _ hrep _ hhost _
    have hserves := hg.leads.serves .replica s hrep
    rw [← hhost] at hserves
    refine hK.judges hg.leads.holds hserves fun v w₁ h₁ hv hb => ?_
    rw [hhost] at hv
    have drawn {w₂ : World σ} (h₂ : World.Drawn w₁.servers w₂.servers) :
        K.Goes ∅ w.servers w₂.servers := h₁.trans (hK.drawn h₁.holds h₂)
    refine ⟨?_, ?_⟩
    · intro hm w₂ h₂
      refine ⟨drawn h₂.servers, .promoted s hrep ?_⟩
      have hverdict := (hv .master).1 hm
      unfold Regime.verdict at hverdict
      cases hd : d.config.topology.declared s.host with
      | some q =>
        rw [hd, hg.placed.declared .replica s q hrep hd] at hverdict
        cases hverdict
      | none =>
        rw [hd, Option.none_or] at hverdict
        split_ifs at hverdict with hup
        rw [Regime.role_of_up hup, Regime.verdict, hd, Option.none_or, if_pos hup, hverdict]
    · intro hm w₂ h₂
      refine ⟨drawn h₂.servers, .same (h₂.handles.trans hb.handles) ?_⟩
      intro _ t ht hr
      obtain rfl : s = t := Option.some.inj (hrep.symm.trans ht)
      exact hm ((hv .master).2 ((Regime.role_of_up (Regime.up_of_role hr)).symm.trans hr))

/-- What asking the live replica again has shown, if it was promoted or if nothing changed. -/
theorem Gathered.rechecks (hK : K.Steady d.connectTimeout) (hg : Gathered K d asked c₀ g₀ u c g w)
    (hwant : g.isEnough = false) (ha : asked) : (recheckReplica d c g).Meets w
      (fun x w' => Gathered K d asked c₀ g₀ u x.1 x.2 w' ∧ K.Declines d x.1 x.2 ∧
        ∀ r, x.2.wants r = true → g.wants r = true) fun _ => False := by
  have hrecheck := (meets_recheck_steady hK hg).and (meets_recheckReplica hg.sound)
  refine hrecheck.mono ?_ fun _ h => h.1
  rintro x w' ⟨⟨hgoes, hx⟩, hr⟩
  have hongoing := hg.toOngoing.recheck hr
  have hopened := hg.opened.trans hr.opened
  cases hx with
  | same hh hdeclines =>
    have hhandles (n : SessionId) (_ : n ≤ u.opened) : w'.handles.get? n = w.handles.get? n := by
      rw [hh]
    have hleads := hg.leads.goes hgoes fun _ _ _ => Set.notMem_empty _
    refine ⟨?_, hdeclines, fun _ => id⟩
    exact ⟨hongoing, hg.placed, hleads, hopened, hg.suffices', hg.filling.of_handles hhandles⟩
  | promoted s hrep hrole =>
    refine ⟨?_, nofun, fun r hr => Goal.wants_of_found (r := .master) hr⟩
    constructor
    case toOngoing => exact hongoing
    case placed => exact hg.placed.promote hrep fun q hq => Regime.eq_of_role hrole hq
    case leads =>
      refine ⟨hgoes.holds, ?_⟩
      intro r t ht
      obtain ⟨rfl, rfl⟩ := Connection.eq_of_slot_promote ht
      exact hgoes.serves _ _ (Set.notMem_empty _) (hg.leads.serves .replica t hrep)
    case opened => exact hopened
    case suffices' => exact hg.suffices'
    case filling => exact hg.filling.promote ha hwant hrep hrole

/-- Amid a sweep of the hosts that were free. In the first pass the replica was not asked again. -/
structure Amid (K : Regime σ) (d : Deployment) (asked : Prop) (c₀ : Connection) (g₀ : Goal)
    (u : World σ) (first : Bool) (left : List Host) (e : Election) (w : World σ) : Prop where
  gathered : Gathered K d asked c₀ g₀ u e.connection e.goal w
  some : ∃ h ∈ d.hosts, c₀.isBound h = false
  free : ∀ h ∈ left, h ∈ d.hosts ∧ c₀.isBound h = false
  without : K.Without d c₀ e.goal left
  declines : first = false → K.Declines d e.connection e.goal

theorem sweeping_steady (hK : K.Steady d.connectTimeout) {first : Bool} :
    Sweeping d (Amid K d asked c₀ g₀ u first) fun _ => False where
  tries := by
    intro h left e w ha
    obtain ⟨hmem, hfree⟩ := ha.free h List.mem_cons_self
    refine (ha.gathered.tries hK hmem hfree).mono ?_ fun _ h => h
    rintro x w' ⟨hg, ht⟩
    exact ⟨hg, ha.some, fun x hx => ha.free x (List.mem_cons_of_mem h hx), ht.without ha.without,
      fun hf => ht.declines (ha.declines hf)⟩
  perm ha hp := ⟨ha.gathered, ha.some, fun x hx => ha.free x (hp.mem_iff.2 hx),
    fun x hx hfree hl => ha.without x hx hfree fun hm => hl (hp.mem_iff.1 hm), ha.declines⟩
  still ha hw := ⟨ha.gathered.still hK hw, ha.some, ha.free, ha.without, ha.declines⟩

end Gathered

section Passes

variable {K : Regime σ} {d : Deployment} {c₀ : Connection} {g₀ : Goal} {u : World σ} {total : Nat}

/-- Where `total` passes are run and there is a host to try in the first of them. -/
def Asked (d : Deployment) (c₀ : Connection) (total : Nat) : Prop :=
  2 ≤ total ∧ ∃ h ∈ d.hosts, c₀.isBound h = false

/-- Before a pass that is followed by `n` others, out of `total`. In each pass but the first all
free hosts have been tried, and in each but the first two the replica was asked. -/
structure Passing (K : Regime σ) (d : Deployment) (c₀ : Connection) (g₀ : Goal) (u : World σ)
    (total : Nat) (first : Bool) (n : Nat) (e : Election) (w : World σ) : Prop where
  gathered : Gathered K d (Asked d c₀ total) c₀ g₀ u e.connection e.goal w
  wanting : e.goal.isEnough = false
  begins : first = true → n = total ∧ 1 ≤ n ∧ e.connection = c₀
  goesOn : first = false → n < total ∧ (∃ h ∈ d.hosts, c₀.isBound h = false) ∧
    K.Without d c₀ e.goal [] ∧ (total = n + 1 ∨ K.Declines d e.connection e.goal)

/-- When a pass begins. The replica was asked if it is not the first one. -/
structure Begun (K : Regime σ) (d : Deployment) (c₀ : Connection) (g₀ : Goal) (u : World σ)
    (total : Nat) (first : Bool) (e : Election) (w : World σ) : Prop where
  gathered : Gathered K d (Asked d c₀ total) c₀ g₀ u e.connection e.goal w
  begins : first = true → e.goal.isEnough = false ∧ e.connection = c₀
  goesOn : first = false → K.Without d c₀ e.goal [] ∧ K.Declines d e.connection e.goal

variable {first : Bool} {n : Nat} {e e' : Election} {w w' : World σ}

/-- If no host is left to try, none was free, or all were tried before. -/
theorem Begun.without (h : Begun K d c₀ g₀ u total first e w)
    (hbound : ∀ h ∈ d.hosts, e.connection.isBound h = true) :
    K.Without d c₀ e.goal [] ∧ (Asked d c₀ total → K.Declines d e.connection e.goal) := by
  cases first with
  | true =>
    rw [(h.begins rfl).2] at hbound
    have taken {x : Host} (hx : x ∈ d.hosts) (hfree : c₀.isBound x = false) : False :=
      nomatch hfree.symm.trans (hbound x hx)
    constructor
    · intro x hx hfree
      exact (taken hx hfree).elim
    · rintro ⟨_, x, hx, hfree⟩
      exact (taken hx hfree).elim
  | false => exact (h.goesOn rfl).imp_right fun hdeclines _ => hdeclines

/-- After a pass there is one pass less to come. -/
theorem Amid.passing (ha : Amid K d (Asked d c₀ total) c₀ g₀ u first [] e' w')
    (h : Passing K d c₀ g₀ u total first (n + 1) e w) (hwant : e'.goal.isEnough = false) :
    Passing K d c₀ g₀ u total false n e' w' := by
  refine ⟨ha.gathered, hwant, nofun, ?_⟩
  intro _
  refine ⟨?_, ha.some, ha.without, ?_⟩
  · cases first with
    | true => exact (h.begins rfl).1 ▸ Nat.lt_succ_self n
    | false => exact Nat.lt_of_succ_lt (h.goesOn rfl).1
  · cases first with
    | true => exact .inl (h.begins rfl).1.symm
    | false => exact .inr (ha.declines rfl)

variable [Cluster σ]

theorem Passing.begun (hK : K.Steady d.connectTimeout)
    (h : Passing K d c₀ g₀ u total first (n + 1) e w) :
    (if first then pure (e.connection, e.goal)
      else recheckReplica d e.connection e.goal).Meets w (fun x w' =>
        Begun K d c₀ g₀ u total first ⟨x.1, x.2, e.lastFailure⟩ w') fun _ => False := by
  cases first with
  | true =>
    exact meets_pure ⟨h.gathered, fun _ => ⟨h.wanting, (h.begins rfl).2.2⟩, nofun⟩
  | false =>
    obtain ⟨hn, hfree, hwithout, -⟩ := h.goesOn rfl
    refine (h.gathered.rechecks hK h.wanting ⟨by omega, hfree⟩).mono ?_ fun _ h => h
    rintro ⟨c, g⟩ w' ⟨hg, hdeclines, hwants⟩
    refine ⟨hg, nofun, fun _ => ⟨?_, hdeclines⟩⟩
    intro x hx hxf hl r hr
    exact hwithout x hx hxf hl r (hwants r hr)

theorem Begun.amid (hK : K.Steady d.connectTimeout) (hc₀ : c₀.Coherent)
    (hdown : ∀ r, g₀.wants r = true → c₀.slot? r = none)
    (h : Begun K d c₀ g₀ u total first e w) (hwant : e.goal.isEnough = false) (hw : w.Still w')
    {hs : List Host} (hp : hs.Perm (d.hosts.filter fun h => !e.connection.isBound h))
    (hne : hs ≠ []) : Amid K d (Asked d c₀ total) c₀ g₀ u first hs e w' := by
  have hmem (x : Host) : x ∈ hs ↔ x ∈ d.hosts ∧ e.connection.isBound x = false := by
    rw [hp.mem_iff, List.mem_filter, Bool.not_eq_true']
  have hfree (x : Host) (hx : x ∈ hs) : x ∈ d.hosts ∧ c₀.isBound x = false :=
    ⟨((hmem x).1 hx).1, h.gathered.free hc₀ hdown hwant ((hmem x).1 hx).2⟩
  obtain ⟨x, hx⟩ := List.exists_mem_of_ne_nil hs hne
  refine ⟨h.gathered.still hK hw, ⟨x, hfree x hx⟩, hfree, ?_, fun hf => (h.goesOn hf).2⟩
  intro y hy hyf hyl
  cases first with
  | true =>
    rw [(h.begins rfl).2] at hmem
    exact absurd ((hmem y).2 ⟨hy, hyf⟩) hyl
  | false => exact (h.goesOn rfl).1 y hy hyf List.not_mem_nil

theorem meets_passes_steady (hK : K.Steady d.connectTimeout) (hc₀ : c₀.Coherent)
    (hdown : ∀ r, g₀.wants r = true → c₀.slot? r = none) :
    ∀ (n : Nat) (first : Bool) (e : Election) (w : World σ),
      Passing K d c₀ g₀ u total first n e w → (passes d first n e).Meets w
        (Searched K d (Asked d c₀ total) c₀ g₀ u) fun _ => False
  | 0, first, e, w, h => by
    cases first with
    | true => exact absurd (h.begins rfl).2.1 (Nat.not_succ_le_zero 0)
    | false =>
      obtain ⟨-, -, hwithout, hdeclines⟩ := h.goesOn rfl
      unfold passes
      apply meets_pure
      constructor
      case gathered => exact h.gathered
      case ends =>
        intro hf
        cases hf
      case wanting => exact fun _ => h.wanting
      case tried => exact fun _ => hwithout
      case declined =>
        intro _ hasked
        rcases hdeclines with rfl | hdeclines
        · exact absurd hasked.1 (by omega)
        · exact hdeclines
  | n + 1, first, e, w, h => by
    have ends {e : Election} {w : World σ}
        (hg : Gathered K d (Asked d c₀ total) c₀ g₀ u e.connection e.goal w) (hover : e.IsOver) :
        Searched K d (Asked d c₀ total) c₀ g₀ u (e, true) w := by
      refine ⟨hg, fun _ => hover, ?_, ?_, ?_⟩ <;>
        · intro hf
          cases hf
    refine meets_pass (B := Begun K d c₀ g₀ u total first) (sweeping_steady hK) (h.begun hK)
      ?enough ?alone (fun hs e' w' w'' hb hwant hw hp hne => hb.amid hK hc₀ hdown hwant hw hp hne)
      (fun left e' w' ha hover => ends ha.gathered hover)
      fun e' w' ha hwant => meets_passes_steady hK hc₀ hdown n false e' w' (ha.passing h hwant)
    case enough =>
      intro e' w' hb henough
      cases first with
      | true => cases henough.symm.trans (hb.begins rfl).1
      | false => exact ⟨rfl, ends hb.gathered (.inl henough)⟩
    case alone =>
      intro e' w' w'' hb hwant hw hbound
      obtain ⟨hwithout, hdeclines⟩ := hb.without hbound
      constructor
      case gathered => exact hb.gathered.still hK hw
      case ends =>
        intro hf
        cases hf
      case wanting => exact fun _ => hwant
      case tried => exact fun _ => hwithout
      case declined => exact fun _ => hdeclines

end Passes

def Outcome.isFound : Outcome → Bool
  | found => true
  | exhausted _ => false

/-- Passes that an election for the goal runs at most. -/
def Goal.passesIn (g : Goal) (d : Deployment) : Nat := if g.singlePass then 1 else d.passes

def Connection.isDown (c : Connection) : Role → Bool
  | .master => c.masterDown
  | .replica => c.replicaDown

section Elect

variable {K : Regime σ} {d : Deployment} {c : Connection} {g : Goal} {w : World σ}

theorem Connection.Coherent.isDown_iff (hc : c.Coherent) {r : Role} : c.isDown r = true ↔
    c.slot? r = none ∧ (r = .replica → c.hasReplicas = true) := by
  cases r with
  | master => simp [isDown, hc.masterDown, slot?]
  | replica => simp [isDown, hc.replicaDown, slot?, and_comm]

theorem Founded.gathered {asked : Prop} (hf : Founded d c w) (ho : c.closed = false)
    (hl : K.Leads c w) (hdown : ∀ r, g.wants r = true → c.isDown r = true) :
    Gathered K d asked c g w c g w where
  sound := hf.toSound
  notClosed := ho
  replicas hr := (hf.coherent.isDown_iff.1 (hdown .replica hr)).2 rfl
  quiet := Quiet.refl w
  placed := hf.placed
  leads := hl
  opened := le_rfl
  suffices' := ⟨rfl, rfl⟩
  filling := by
    refine .tried ?_ ?_ (fun _ _ => rfl) fun _ _ => rfl
    · intro r hr
      exact ⟨hr, (hf.coherent.isDown_iff.1 (hdown r hr)).1⟩
    · intro r hr hr'
      cases hr.symm.trans hr'

section Searched

variable {asked : Prop} {c₀ : Connection} {g₀ : Goal} {u : World σ} {r : Role}
  {x : Election × Bool}

theorem Gathered.not_over {failure : Option Error} (hg : Gathered K d asked c₀ g₀ u c g w)
    (plain : g₀.masterSuffices = false ∧ g₀.replicaSuffices = false) (hr : g.wants r = true) :
    ¬Election.IsOver ⟨c, g, failure⟩ := by
  have hdown : c.isDown r = true := hg.sound.coherent.isDown_iff.2
    ⟨hg.vacant hr, fun h => hg.replicas (by subst h; exact hr)⟩
  rintro (henough | ⟨hm, hrep⟩)
  · have hplain : g.masterSuffices = false ∧ g.replicaSuffices = false :=
      ⟨hg.suffices'.1.trans plain.1, hg.suffices'.2.trans plain.2⟩
    cases henough.symm.trans (Goal.isEnough_of_wants hplain hr)
  · cases r with
    | master => exact nomatch hm.symm.trans hdown
    | replica => exact nomatch hrep.symm.trans hdown

theorem Searched.unfound (hs : Searched K d asked c₀ g₀ u x w)
    (plain : g₀.masterSuffices = false ∧ g₀.replicaSuffices = false)
    (hr : x.1.goal.wants r = true) : x.2 = false := by
  rw [← Bool.not_eq_true]
  exact fun hfound => hs.gathered.not_over plain hr (hs.ends hfound)

theorem Searched.reached_iff (hs : Searched K d asked c₀ g₀ u x w)
    (hdown : ∀ q, g₀.wants q = true → c₀.slot? q = none)
    (plain : g₀.masterSuffices = false ∧ g₀.replicaSuffices = false)
    (wanted : g₀.wants r = true) : x.1.goal.wants r = false ↔
      (∃ h ∈ d.hosts, c₀.isBound h = false ∧ K.role d.config.topology h = some r) ∨
        r = .master ∧ asked ∧
          ∃ s, c₀.replica = some s ∧ K.role d.config.topology s.host = some .master := by
  refine ⟨?_, ?_⟩
  · intro hr
    obtain ⟨s, -, hrole, ⟨hmem, hfree⟩ | ⟨rfl, ha, hrep⟩⟩ := hs.gathered.origin wanted hr
    · exact .inl ⟨_, hmem, hfree, hrole⟩
    · exact .inr ⟨rfl, ha, s, hrep, hrole⟩
  · intro h
    rw [← Bool.not_eq_true]
    intro hr
    have unfound : x.2 = false := hs.unfound plain hr
    rcases h with ⟨h, hmem, hfree, hrole⟩ | ⟨rfl, ha, s, hrep, hrole⟩
    · exact hs.tried unfound h hmem hfree List.not_mem_nil r hr hrole
    · have honly : g₀.wants .replica = false := by
        rw [← Bool.not_eq_true]
        intro hw
        cases hrep.symm.trans (hdown .replica hw)
      exact hs.declined unfound ha hr s ((hs.gathered.kept hr honly).trans hrep) hrole

end Searched

variable [Cluster σ]

theorem meets_elect_steady (hK : K.Steady d.connectTimeout) (hf : Founded d c w)
    (ho : c.closed = false) (hl : K.Leads c w) (hg : g.isEnough = false)
    (hdown : ∀ r, g.wants r = true → c.isDown r = true) : (elect d c g).Meets w
      (fun x w' => ∃ failure, Searched K d (Asked d c (g.passesIn d)) c g w
        (⟨x.2.1, x.2.2, failure⟩, x.1.isFound) w') fun _ => False := by
  have hempty (r : Role) (hr : g.wants r = true) : c.slot? r = none :=
    (hf.coherent.isDown_iff.1 (hdown r hr)).1
  refine meets_elect_of ?_ ?_ fun _ w₁ h₁ => ?_
  · intro hc
    cases ho.symm.trans hc
  · intro hm hr
    rcases Goal.wants_of_isEnough hg with hw | hw
    · cases hm.symm.trans (hdown .master hw)
    · cases hr.symm.trans (hdown .replica hw)
  have hbegun : Gathered K d (Asked d c (g.passesIn d)) c g w c g w₁ :=
    (hf.gathered ho hl hdown).still hK h₁
  have hpasses : 1 ≤ g.passesIn d := by
    unfold Goal.passesIn Deployment.passes
    split_ifs <;> omega
  have hpassing : Passing K d c g w (g.passesIn d) true (g.passesIn d) ⟨c, g, none⟩ w₁ :=
    ⟨hbegun, hg, fun _ => ⟨rfl, hpasses, rfl⟩, nofun⟩
  refine (meets_passes_steady hK hf.coherent hempty _ true _ w₁ hpassing).mono ?_ fun _ h => h
  rintro ⟨⟨c', g', failure⟩, found⟩ w₂ h₂
  refine ⟨?_, ?_⟩
  · rintro rfl
    exact ⟨failure, h₂⟩
  · rintro rfl e w₃ h₃
    exact ⟨failure, h₂.gathered.still hK h₃, h₂.ends, h₂.wanting, h₂.tried, h₂.declined⟩

/-- Among steady servers an election ends, and it finds a role exactly if a free host has it, or if
it is the master's and the live replica has become one and is asked. It says that none was found
if no host has a role that it wants. -/
theorem election_finds_iff {r : Role} (steady : K.Steady d.connectTimeout) (founded : Founded d c w)
    (isOpen : c.closed = false) (leads : K.Leads c w)
    (down : ∀ q, g.wants q = true → c.isDown q = true)
    (plain : g.masterSuffices = false ∧ g.replicaSuffices = false) (wanted : g.wants r = true) :
    ∃ outcome c' g' w', elect d c g w = (some (outcome, c', g'), w') ∧
      ((∃ h ∈ d.hosts, c.isBound h = false ∧ K.role d.config.topology h = some r) →
        ∃ s, c'.slot? r = some s ∧ K.role d.config.topology s.host = some r) ∧
      ((∀ h ∈ d.hosts, K.role d.config.topology h ≠ some r) →
        (∀ q s, c.slot? q = some s → K.role d.config.topology s.host ≠ some r) →
          c'.slot? r = none ∧ ∃ e, outcome = .exhausted e) ∧
      ((c'.slot? r).isSome = true ↔
        (∃ h ∈ d.hosts, c.isBound h = false ∧ K.role d.config.topology h = some r) ∨
          r = .master ∧ Asked d c (g.passesIn d) ∧
            ∃ s, c.replica = some s ∧ K.role d.config.topology s.host = some .master) := by
  obtain ⟨⟨outcome, c', g'⟩, w', hx, failure, hs⟩ := (meets_elect_steady steady founded isOpen
    leads (Goal.isEnough_of_wants plain wanted) down).exists_value
  have hg : Gathered K d (Asked d c (g.passesIn d)) c g w c' g' w' := hs.gathered
  have reached := hs.reached_iff (fun q hq => (founded.coherent.isDown_iff.1 (down q hq)).1) plain
    wanted
  refine ⟨outcome, c', g', w', hx, fun hfree => hg.found wanted (reached.2 (.inl hfree)), ?_,
    (hg.isSome_iff wanted).trans reached⟩
  intro hnone hbound
  have hr : g'.wants r = true := by
    rw [← Bool.not_eq_false]
    intro hr
    rcases reached.1 hr with ⟨h, hmem, -, hrole⟩ | ⟨rfl, -, s, hrep, hrole⟩
    · exact hnone h hmem hrole
    · exact hbound .replica s hrep hrole
  refine ⟨hg.vacant hr, ?_⟩
  have unfound : outcome.isFound = false := hs.unfound plain hr
  cases outcome with
  | found => cases unfound
  | exhausted e => exact ⟨e, rfl⟩

end Elect

/-- The pair, with its master on the blacklist. -/
def shunned : World Script :=
  { servers := {}, blacklist := ({} : Blacklist).record ⟨"db1", 3306⟩ 0 0 }

theorem election_finds_master_of_pair : Founded pair (.new true) shunned ∧
    (Script.regime {}).Steady pair.connectTimeout ∧ (Script.regime {}).Leads (.new true) shunned ∧
    ∃ outcome c' g' w', elect pair (.new true) .both shunned = (some (outcome, c', g'), w') ∧
      ∃ s, c'.slot? .master = some s ∧
        (Script.regime {}).role .replication s.host = some .master := by
  have founded : Founded pair (.new true) shunned :=
    (Reachable.start (d := pair) ({} : Script) 0 shunned.blacklist).founded
  have steady := Script.steady_regime Script.isSteady_empty pair.connectTimeout
  have leads : (Script.regime {}).Leads (.new true) shunned :=
    ⟨fun _ => rfl, fun r s hs => by cases r <;> cases hs⟩
  obtain ⟨outcome, c', g', w', hx, found, -⟩ := election_finds_iff (g := .both) (r := .master)
    steady founded rfl leads (fun q _ => by cases q <;> rfl) ⟨rfl, rfl⟩ rfl
  exact ⟨founded, steady, leads, outcome, c', g', w', hx,
    found ⟨⟨⟨"db1", 3306⟩, some .master⟩, by decide, by decide, by decide⟩⟩

end Failover
