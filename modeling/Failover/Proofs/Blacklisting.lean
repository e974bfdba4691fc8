import Failover.Proofs.Ownership
import Failover.Proofs.Placement
import Failover.Proofs.Stages

/-!
# Hosts in slots are not blacklisted

No host is tried that has a live session. So the last attempt at the host of a slot is the one that
opened the slot's session (`Seated`), and the two slots have different hosts. A host is blacklisted
when an attempt at it fails or when its session is given up. Hence, wherever an attempt at a
blacklisted host succeeded last, the session has been closed since (`OutcastsClosed`), while the
sessions in slots are open.
-/

namespace Failover

open Act World

/-- What came of trying a host at an endpoint: the session that was opened, if one was. -/
def Event.attemptAt (e : Endpoint) : Event → Option (Option SessionId)
  | .refused h _ => if h.toEndpoint = e then some none else none
  | .opened h n => if h.toEndpoint = e then some (some n) else none
  | _ => none

/-- The host that a session was opened to. -/
def Event.hostOf (n : SessionId) : Event → Option Host
  | .opened h m => if m = n then some h else none
  | _ => none

/-- What came of the last attempt at an endpoint. -/
def lastAttempt (e : Endpoint) (journal : List Entry) : Option (Option SessionId) :=
  journal.findSome? (·.event.attemptAt e)

/-- The hosts that a session was opened to. -/
def hostsOf (n : SessionId) (journal : List Entry) : List Host :=
  journal.filterMap (·.event.hostOf n)

section Journal

variable {e : Endpoint} {n : SessionId} {x : Entry} {new journal : List Entry}

theorem Event.attemptAt_of_not_isAttempt {e : Event} (h : e.isAttempt = false) (p : Endpoint) :
    e.attemptAt p = none := by
  cases e <;> first | rfl | cases h

theorem Event.hostOf_of_not_isAttempt {e : Event} (h : e.isAttempt = false) (n : SessionId) :
    e.hostOf n = none := by
  cases e <;> first | rfl | cases h

theorem lastAttempt_append (h : ∀ x ∈ new, x.event.attemptAt e = none) :
    lastAttempt e (new ++ journal) = lastAttempt e journal := by
  unfold lastAttempt
  rw [List.findSome?_append, List.findSome?_eq_none_iff.2 h, Option.none_or]

theorem hostsOf_append (h : ∀ x ∈ new, x.event.hostOf n = none) :
    hostsOf n (new ++ journal) = hostsOf n journal := by
  unfold hostsOf
  rw [List.filterMap_append, List.filterMap_eq_nil_iff.2 h, List.nil_append]

theorem lastAttempt_cons_of_none (h : x.event.attemptAt e = none) :
    lastAttempt e (x :: journal) = lastAttempt e journal := by
  unfold lastAttempt
  rw [List.findSome?_cons, h]

theorem hostsOf_cons_of_none (h : x.event.hostOf n = none) :
    hostsOf n (x :: journal) = hostsOf n journal :=
  List.filterMap_cons_none h

theorem lastAttempt_refused {t : Nat} {h : Host} {a : Error} :
    lastAttempt h.toEndpoint (⟨t, .refused h a⟩ :: journal) = some none := by
  simp [lastAttempt, Event.attemptAt]

theorem lastAttempt_opened {t : Nat} {h : Host} :
    lastAttempt h.toEndpoint (⟨t, .opened h n⟩ :: journal) = some (some n) := by
  simp [lastAttempt, Event.attemptAt]

theorem hostsOf_opened {t : Nat} {h : Host} (hnew : hostsOf n journal = []) :
    hostsOf n (⟨t, .opened h n⟩ :: journal) = [h] := by
  have hcons : hostsOf n (⟨t, .opened h n⟩ :: journal) = h :: hostsOf n journal :=
    List.filterMap_cons_some (by simp [Event.hostOf])
  rw [hcons, hnew]

end Journal

variable {σ : Type}

section Untried

variable {u v w : World σ}

theorem World.Adds.lastAttempt (h : u.Adds (fun e => e.isAttempt = false) v) (e : Endpoint) :
    lastAttempt e v.journal = lastAttempt e u.journal := by
  obtain ⟨new, hj, hn⟩ := h
  rw [hj, lastAttempt_append fun x hx => Event.attemptAt_of_not_isAttempt (hn x hx) e]

theorem World.Adds.hostsOf (h : u.Adds (fun e => e.isAttempt = false) v) (n : SessionId) :
    hostsOf n v.journal = hostsOf n u.journal := by
  obtain ⟨new, hj, hn⟩ := h
  rw [hj, hostsOf_append fun x hx => Event.hostOf_of_not_isAttempt (hn x hx) n]

theorem Event.IsWork.not_isAttempt {n : SessionId} {cmds : List Command} {e : Event}
    (h : e.IsWork n cmds) : e.isAttempt = false := by
  cases h <;> rfl

end Untried

/-! ## The last attempt at a host in a slot -/

/-- Each session was opened to one host at most, that of a slot to the slot's host, and there was no
attempt at that host since. -/
structure Seated (c : Connection) (w : World σ) : Prop where
  fresh : ∀ n, w.opened < n → hostsOf n w.journal = []
  host : ∀ r s, c.slot? r = some s → hostsOf s.session w.journal = [s.host]
  last : ∀ r s, c.slot? r = some s →
    lastAttempt s.host.toEndpoint w.journal = some (some s.session)

section Seated

variable {c c' : Connection} {w w' : World σ} {h : Host} {n : SessionId}

theorem Seated.session_le (hs : Seated c w) {r : Role} {s : Slot} (hslot : c.slot? r = some s) :
    s.session ≤ w.opened := by
  by_contra hnew
  cases (hs.host r s hslot).symm.trans (hs.fresh _ (Nat.not_le.1 hnew))

theorem Seated.adds (hs : Seated c w) (ho : w.opened ≤ w'.opened)
    (ha : w.Adds (fun e => e.isAttempt = false) w') : Seated c w' where
  fresh n hn := (ha.hostsOf n).trans (hs.fresh n (ho.trans_lt hn))
  host r s hslot := (ha.hostsOf _).trans (hs.host r s hslot)
  last r s hslot := (ha.lastAttempt _).trans (hs.last r s hslot)

theorem Seated.spares (hs : Seated c w) (hw : w.SparesHosts w') : Seated c w' :=
  hs.adds hw.opened.ge hw.adds

theorem Seated.of_slots (hs : Seated c w)
    (hc : ∀ r s, c'.slot? r = some s → ∃ q, c.slot? q = some s) : Seated c' w := by
  refine ⟨hs.fresh, ?_, ?_⟩ <;> intro r s hslot <;> obtain ⟨q, hq⟩ := hc r s hslot
  · exact hs.host q s hq
  · exact hs.last q s hq

/-- A host was tried that is in no slot. -/
theorem Seated.tried {x : Entry} (hs : Seated c w) (hj : w'.journal = x :: w.journal)
    (ho : w.opened ≤ w'.opened)
    (hfree : ∀ r s, c.slot? r = some s → x.event.attemptAt s.host.toEndpoint = none)
    (hnew : ∀ m, m ≤ w.opened ∨ w'.opened < m → x.event.hostOf m = none) : Seated c w' := by
  constructor
  case fresh =>
    intro m hm
    rw [hj, hostsOf_cons_of_none (hnew m (.inr hm)), hs.fresh m (ho.trans_lt hm)]
  case host =>
    intro r s hslot
    rw [hj, hostsOf_cons_of_none (hnew _ (.inl (hs.session_le hslot))), hs.host r s hslot]
  case last =>
    intro r s hslot
    rw [hj, lastAttempt_cons_of_none (hfree r s hslot), hs.last r s hslot]

/-- A session that was just opened to a host. -/
structure Seatable (c : Connection) (h : Host) (n : SessionId) (w : World σ) : Prop where
  seated : Seated c w
  host : hostsOf n w.journal = [h]
  last : lastAttempt h.toEndpoint w.journal = some (some n)

theorem Seatable.spares (hs : Seatable c h n w) (hw : w.SparesHosts w') : Seatable c h n w' :=
  ⟨hs.seated.spares hw, (hw.adds.hostsOf n).trans hs.host, (hw.adds.lastAttempt _).trans hs.last⟩

theorem Seatable.fill (hs : Seatable c h n w) (r : Role) : Seated (c.fill r ⟨h, n⟩) w := by
  refine ⟨hs.seated.fresh, ?_, ?_⟩ <;> intro q s hslot <;>
    rcases Connection.cases_slot_fill hslot with ⟨rfl, rfl⟩ | ⟨-, hslot⟩
  · exact hs.host
  · exact hs.seated.host q s hslot
  · exact hs.last
  · exact hs.seated.last q s hslot

variable [Cluster σ] {d : Deployment}

theorem Seated.still (hs : Seated c w) (hw : w.Still w') : Seated c w' :=
  hs.adds hw.opened.ge (adds_of_eq hw.journal)

theorem Seatable.still (hs : Seatable c h n w) (hw : w.Still w') : Seatable c h n w' :=
  ⟨hs.seated.still hw, by rw [hw.journal]; exact hs.host, by rw [hw.journal]; exact hs.last⟩

theorem Act.Chores.meets {α : Type} {x : Act σ α} (hx : x.Chores d) {P : World σ → Prop}
    (hP : ∀ w', w.SparesHosts w' → P w') : x.Meets w (fun _ => P) fun _ => True :=
  (hx.sparesHosts.meets w).mono (fun _ _ h => hP _ h) fun _ _ => trivial

theorem trial_seated {e : Election} : Trial (σ := σ) d h e
    (fun n w => Seatable e.connection h n w) (fun n _ w => Seatable e.connection h n w)
    (fun w => Seated e.connection w) (fun n r w => Seated (e.connection.fill r ⟨h, n⟩) w)
    fun _ => True where
  judges hn := Act.Chores.meets (.kind (.judges h _)) fun _ hw => hn.spares hw
  looksUp hn := Act.Chores.meets (.kind (.looksUp h _ _)) fun _ hw => hn.spares hw
  hangsUp hn _ :=
    Act.Chores.meets (d := d) (.kind (.hangsUp _)) fun _ hw => hn.seated.spares hw
  binds := by
    intro n r text w hn _
    have binding : (do
        followCatalog e.connection { session := n, host := h, role := r }
        closeSlot (e.connection.slot? r)
        log .info text
        keep { session := n, host := h, role := r } : Act σ Unit).Chores d :=
      .bind (.kind (.follows _ _)) fun _ => .bind (chores_closeSlot d _) fun _ =>
        .bind (chores_log d _ _) fun _ => (inert_keep _).chores d
    exact binding.meets fun _ hw => (hn.spares hw).fill r
  freshStill hn hw := hn.still hw
  judgedStill hn hw := hn.still hw
  spentStill hn hw := hn.still hw

theorem Seated.tryHost {e : Election} {waiting : List Host} (distinct : d.Distinct)
    (hoffer : d.Offers e.connection h) (hsound : Sound d e.connection w)
    (hopen : e.connection.closed = false) (hs : Seated e.connection w) :
    (tryHost d h waiting e).Meets w (fun x w' => Seated x.1.connection w') fun _ => True := by
  have others (r : Role) (s : Slot) (hslot : e.connection.slot? r = some s) :
      h.toEndpoint ≠ s.host.toEndpoint := by
    intro he
    have hbound := hsound.coherent.isBound_iff.2 ⟨r, s, hslot, he.symm⟩
    cases hbound.symm.trans (hoffer.free distinct)
  refine (trial_seated.tryHost hopen (meets_connect_of ?_
    fun wait servers _ => ?_)).mono ?_ fun _ h => h
  · intro wait x servers _
    exact hs.tried rfl le_rfl (fun r s hslot => if_neg (others r s hslot)) fun _ _ => rfl
  · refine ⟨hs.tried rfl (Nat.le_succ _) (fun r s hslot => if_neg (others r s hslot))
      fun m hm => if_neg ?_, hostsOf_opened (hs.fresh _ (Nat.lt_succ_self _)), lastAttempt_opened⟩
    rcases hm with hm | hm
    · exact (Nat.lt_succ_of_le hm).ne'
    · exact hm.ne
  · intro x w' hx
    cases hx with
    | unbound hsame _ hspent => rwa [hsame]
    | bound n r _ hfill _ hheld => rwa [hfill]

theorem lasting_seated (distinct : d.Distinct) :
    Lasting d (fun _ => True) (Seated (σ := σ)) fun _ => True where
  tries hoffer hsound hopen hs := hs.tryHost distinct hoffer hsound hopen
  rechecks := by
    intro c g w hsound hs
    refine (((chores_recheckReplica d c g).meets fun _ hw => hs.spares hw).and
      (meets_recheckReplica hsound)).mono ?_ fun _ _ => trivial
    rintro x w' ⟨hs', hr⟩
    obtain ⟨c', g'⟩ := x
    cases hr with
    | same _ _ => exact hs'
    | promoted s x _ hrep _ _ _ =>
      refine hs'.of_slots fun r t ht => ⟨.replica, ?_⟩
      obtain ⟨rfl, rfl⟩ := Connection.eq_of_slot_promote ht
      exact hrep
  closes _ hs := (chores_closeSession d _).meets fun _ hw => hs.spares hw
  still hs hw := hs.still hw
  fewer hs hc := hs.of_slots fun r s hslot => ⟨r, hc.slot r s hslot⟩
  works _ hs _ _ hk := hs.adds hk.opened (hk.adds.mono fun _ he => he.not_isAttempt)
  remembers _ hs := hs.of_slots fun r s hslot => ⟨r, by cases r <;> exact hslot⟩
  stays _ := trivial

theorem Reachable.seated {s : Scene σ} (distinct : d.Distinct) (h : Reachable d s) :
    Seated s.connection s.world := by
  have empty (r : Role) : (Connection.new d.hasReplicas).slot? r = none := by cases r <;> rfl
  refine h.maintains (lasting_seated distinct) ?_ fun hs => ⟨hs.fresh, hs.host, hs.last⟩
  intro servers now blacklist
  refine ⟨fun _ _ => rfl, ?_, ?_⟩
  · intro r s hs
    cases (empty r).symm.trans hs
  · intro r s hs
    cases (empty r).symm.trans hs

omit [Cluster σ] in
/-- One host is not in two slots. -/
theorem Seated.endpoint_ne (hs : Seated c w) (hsound : Sound d c w) {r q : Role} {s t : Slot}
    (hr : c.slot? r = some s) (hq : c.slot? q = some t) (hrq : r ≠ q) :
    s.host.toEndpoint ≠ t.host.toEndpoint := by
  intro he
  have hlast := hs.last r s hr
  rw [he, hs.last q t hq] at hlast
  exact hsound.session_ne hr hq hrq (Option.some.inj (Option.some.inj hlast)).symm

end Seated

/-! ## Blacklisted hosts -/

/-- Where the last attempt at a blacklisted host opened a session, it has been closed. -/
def World.OutcastsClosed (w : World σ) : Prop :=
  ∀ e n, w.blacklist.contains e = true → lastAttempt e w.journal = some (some n) →
    0 < closings n w.journal

section Outcasts

variable {c : Connection} {w w' : World σ} {h : Host} {n : SessionId} {stuck : World σ → Prop}

theorem Blacklist.contains_record {b : Blacklist} {e x : Endpoint} {since now : Nat}
    (h : (b.record e since now).contains x = true) : x = e ∨ b.contains x = true := by
  unfold contains at h ⊢
  rw [get?_record] at h
  split_ifs at h with hx
  · exact .inl hx
  · exact .inr h

theorem World.OutcastsClosed.spares (hw : w.OutcastsClosed) (hs : w.SparesHosts w') :
    w'.OutcastsClosed := by
  intro e n he hl
  rw [hs.adds.lastAttempt] at hl
  exact (hw e n (hs.blacklist e he) hl).trans_le (closings_le_of_suffix hs.adds.suffix)

theorem outcasts_blacklist (hw : w.OutcastsClosed) (hh : ∀ n,
    lastAttempt h.toEndpoint w.journal = some (some n) → 0 < closings n w.journal) :
    (Act.blacklist h).Meets w (fun _ => OutcastsClosed) stuck := by
  refine meets_bind (m := fun _ => OutcastsClosed) (meets_change fun e n he hl => ?_)
    fun _ w₁ h₁ => (inert_log _ _).meets fun _ _ hw' => h₁.spares hw'.sparesHosts
  rcases Blacklist.contains_record he with rfl | he
  · exact hh n hl
  · exact hw e n he hl

/-- A session that was just opened to a host that is not blacklisted. -/
structure World.Admits (h : Host) (n : SessionId) (w : World σ) : Prop where
  outcasts : w.OutcastsClosed
  last : lastAttempt h.toEndpoint w.journal = some (some n)

theorem World.Admits.spares (ha : w.Admits h n) (hs : w.SparesHosts w') : w'.Admits h n :=
  ⟨ha.outcasts.spares hs, (hs.adds.lastAttempt _).trans ha.last⟩

variable [Cluster σ] {d : Deployment}

/-- The session is closed before its host is blacklisted. -/
theorem World.Admits.drop {α : Type} {a : α} (ha : w.Admits h n) :
    (do
      discard (hangUp n)
      Act.blacklist h
      return a : Act σ α).Meets w (fun _ => OutcastsClosed) stuck := by
  refine meets_bind (m := fun _ w' => w'.Admits h n ∧ 0 < closings n w'.journal)
    (meets_discard (meets_hangUp_of fun _ _ _ _ => ⟨?_, ?_⟩)) ?_
  · exact ha.spares ⟨rfl, adds_cons rfl rfl, fun _ h => h⟩
  · simp [noting, closings_closed]
  rintro _ w₁ ⟨h₁, hend⟩
  refine meets_bind (outcasts_blacklist h₁.outcasts fun m hm => ?_) fun _ _ h => meets_pure h
  rwa [Option.some.inj (Option.some.inj (hm.symm.trans h₁.last))]

/-- An attempt says what has to become of its host. -/
theorem outcasts_connect (hw : w.OutcastsClosed) : (connect h).Meets w (fun outcome w' =>
    (∀ e n, e ≠ h.toEndpoint → w'.blacklist.contains e = true →
      lastAttempt e w'.journal = some (some n) → 0 < closings n w'.journal) ∧
    lastAttempt h.toEndpoint w'.journal = some outcome.toOption) stuck := by
  apply meets_connect_of
  · intro wait x servers _
    refine ⟨?_, lastAttempt_refused⟩
    intro e n hne he hl
    have hother := hl.symm.trans (lastAttempt_cons_of_none (if_neg hne.symm))
    exact (hw e n he hother.symm).trans_le (closings_le_of_suffix (List.suffix_cons _ _))
  · intro wait servers _
    refine ⟨?_, lastAttempt_opened⟩
    intro e n hne he hl
    have hother := hl.symm.trans (lastAttempt_cons_of_none (if_neg hne.symm))
    exact (hw e n he hother.symm).trans_le (closings_le_of_suffix (List.suffix_cons _ _))

/-- A host that refuses opened nothing that would have to be closed. One that accepts is forgiven
first, so that only giving up its session can list it again. -/
theorem outcasts_tryHost {waiting : List Host} {e : Election} (hw : w.OutcastsClosed) :
    (tryHost d h waiting e).Meets w (fun _ => OutcastsClosed) fun _ => True := by
  have chore {α : Type} {x : Act σ α} {n : SessionId} {w : World σ} (ha : w.Admits h n)
      (hx : x.Chores d) : x.Meets w (fun _ w' => w'.Admits h n) fun _ => True :=
    hx.meets fun _ hw => ha.spares hw
  unfold tryHost
  refine meets_bind (outcasts_connect hw) ?_
  rintro (x | n) w₁ ⟨hothers, hlast⟩
  · have none_since {n : SessionId} (hl : lastAttempt h.toEndpoint w₁.journal = some (some n)) :
        False := nomatch Option.some.inj (hlast.symm.trans hl)
    have h₁ : w₁.OutcastsClosed := fun e m he hl => by
      by_cases hh : e = h.toEndpoint
      · exact (none_since (hh ▸ hl)).elim
      · exact hothers e m hh he hl
    refine meets_bind (m := fun _ => w₁.Inert) ((inert_log _ _).meets fun _ _ h => h)
      fun _ w₂ h₂ => ?_
    refine meets_bind (outcasts_blacklist (h₁.spares h₂.sparesHosts) fun n hl => ?_)
      fun _ _ h => meets_pure h
    exact (none_since (h₂.journal ▸ hl)).elim
  refine meets_bind (m := fun _ w' => w'.Admits h n) (meets_forgive.mono ?_ fun _ h => h) ?_
  · rintro _ w₂ ⟨hj, hforgiven⟩
    refine ⟨?_, hj ▸ hlast⟩
    intro e m he hl
    rw [hj] at hl ⊢
    unfold Blacklist.contains at he
    rw [hforgiven] at he
    split_ifs at he with hx
    · cases he
    · exact hothers e m hx he hl
  intro _ w₂ h₂
  refine meets_bind (chore h₂ (.kind (.judges h n))) ?_
  rintro (r | x | _) w₃ h₃ <;> dsimp only
  · refine (chore h₃ (.bind (chores_log d _ _) fun _ => ?_)).mono (fun _ _ h => h.outcasts)
      fun _ h => h
    have placed (named : Option Endpoint) : (do
        return (← place h n r e, named) : Act σ _).Chores d :=
      .bind (chores_place d _ _ _ _) fun _ => .pure _
    split
    · exact .bind (.kind (.looksUp h n waiting)) placed
    · exact .bind (.pure none) placed
  · exact meets_bind (chore h₃ (chores_log d _ _)) fun _ _ h => h.drop
  · exact h₃.drop

theorem Act.Staged.outcasts {α : Type} {x : Act σ α} (hx : x.Staged d) (hw : w.OutcastsClosed) :
    x.Meets w (fun _ => OutcastsClosed) fun _ => True := by
  refine MadeOf.meets hx ?_ hw
  intro α x w hstage hw
  cases hstage with
  | tries h waiting e => exact outcasts_tryHost hw
  | chore hx => exact Act.Chores.meets (.kind hx) fun _ h => hw.spares h

/-- A session that is given up is closed before its host is blacklisted. -/
theorem outcasts_abandon {r : Role} {name searched : String} (hsound : Sound d c w)
    (hs : Seated c w) (hw : w.OutcastsClosed) :
    (abandon (c.slot? r) name searched).Meets w (fun _ => OutcastsClosed) fun _ => True := by
  unfold abandon
  cases hslot : c.slot? r with
  | none => exact meets_pure hw
  | some s =>
    have hheld : ¬w.Shut s.session := (hsound.holds r s hslot).not_shut
    have hlast := hs.last r s hslot
    have ends : (closeSlot (some s)).Meets w (fun _ w' =>
        (s.session ∈ sessionIn (some s) → 0 < closings s.session w'.journal) ∧ _)
        fun _ => True := meets_closeSlot_ends hheld
    have closes : (closeSession s.session).Meets w (fun _ => w.SparesHosts) fun _ => True :=
      (chores_closeSession d s.session).meets fun _ h => h
    refine meets_bind ((closes.and ends).mono (fun _ _ h => h) fun _ _ => trivial)
      fun _ w₁ ⟨h₁, hend, _⟩ => ?_
    have hend : 0 < closings s.session w₁.journal := hend (by simp)
    refine meets_bind (m := fun _ => w₁.SparesHosts) ((inert_log _ _).meets
      fun _ _ h => h.sparesHosts) fun _ w₂ h₂ => ?_
    refine outcasts_blacklist ((hw.spares h₁).spares h₂) fun n hl => ?_
    rw [h₂.adds.lastAttempt, h₁.adds.lastAttempt, hlast] at hl
    rw [← Option.some.inj (Option.some.inj hl)]
    exact hend.trans_le (closings_le_of_suffix h₂.adds.suffix)

theorem outcasts_recover {failed : SessionId} {inTransaction : Bool} (hsound : Sound d c w)
    (hs : Seated c w) (hw : w.OutcastsClosed) :
    (recover d failed inTransaction c).Meets w (fun _ => OutcastsClosed) fun _ => True := by
  rcases recover_cases (σ := σ) d failed inTransaction c with h | ⟨r, name, searched, later, hl, h⟩
  · exact h.outcasts hw
  · rw [h]
    refine meets_bind (m := fun _ w' => w' = w) (meets_ask rfl) fun now w' hw' => ?_
    subst hw'
    exact meets_bind (outcasts_abandon hsound hs hw) fun _ w₁ h₁ => (hl now).outcasts h₁

omit [Cluster σ] in
theorem Act.Always.outcasts {α : Type} {x : Act σ α} (hx : x.Always SparesHosts)
    (hw : w.OutcastsClosed) : x.Meets w (fun _ => OutcastsClosed) fun _ => True :=
  (hx.meets w).mono (fun _ _ h => hw.spares h) fun _ _ => trivial

variable {β : Type} {act : Section σ β}

theorem Upkept.outcasts (h : Upkept d β act) (hsound : Sound d c w) (hs : Seated c w)
    (hw : w.OutcastsClosed) : (act c).Meets w (fun _ => OutcastsClosed) fun _ => True := by
  cases h with
  | assess cmd => exact (inert_assess d cmd c).sparesHosts.outcasts hw
  | establish => exact (staged_establish d c).outcasts hw
  | reconnect => exact (staged_reconnect d c).outcasts hw
  | seekMaster => exact (staged_seekMaster d c).outcasts hw
  | tryMaster => exact (staged_tryMaster d c).outcasts hw
  | switchMode b => exact (staged_switchMode d b c).outcasts hw
  | close =>
    have chores : (do return ((), ← Failover.close c) : Act σ _).Chores d :=
      .bind (chores_close d c) fun _ => .pure _
    exact chores.sparesHosts.outcasts hw
  | recover n b => exact outcasts_recover hsound hs hw
  | reads _ inert => exact ((inert c).bind fun _ => inert_pure _).sparesHosts.outcasts hw

theorem Part.outcasts {may : Command → Prop} (h : Part d may β act) (hsound : Sound d c w)
    (hs : Seated c w) (hw : w.OutcastsClosed) :
    (act c).Meets w (fun _ => OutcastsClosed) fun _ => True := by
  cases h with
  | upkept h => exact h.outcasts hsound hs hw
  | remember database _ => exact meets_pure hw
  | dispatch _ spares _ =>
    exact (framing_sparesHosts.bind (spares c) fun _ => framing_sparesHosts.pure _).outcasts hw
  | dispatchAll cmds _ =>
    exact (framing_sparesHosts.bind (sparesHosts_dispatchAll cmds c) fun _ =>
      framing_sparesHosts.pure _).outcasts hw

end Outcasts

section Alone

/-! ## The only connection of a driver -/

variable [Cluster σ] {d : Deployment} {s : Scene σ}

/-- The scenes to which the only connection of a driver can come: the servers and the clock go their
own way, but the blacklist does not. -/
inductive ReachableAlone (d : Deployment) : Scene σ → Prop
  | start (servers : σ) (now : Nat) (blacklist : Blacklist) :
      ReachableAlone d ⟨.new d.hasReplicas, { servers, now, blacklist }, []⟩
  | call {s : Scene σ} (h : ReachableAlone d s) (k : Call) :
      ReachableAlone d { s with tasks := s.tasks ++ [k.task d] }
  | advance {s : Scene σ} {before after : List (Task σ)} {α β : Type} {act : Section σ β}
      {next : β → Job σ α} {b : β} {c : Connection} {w : World σ} (h : ReachableAlone d s)
      (turn : s.tasks = before ++ ⟨α, .step act next⟩ :: after)
      (comes : act s.connection s.world = (some (b, c), w)) :
      ReachableAlone d ⟨c, w, before ++ ⟨α, next b⟩ :: after⟩
  | leave {s : Scene σ} {before after : List (Task σ)} {t : Task σ} (h : ReachableAlone d s)
      (gone : s.tasks = before ++ t :: after) :
      ReachableAlone d { s with tasks := before ++ after }
  | drift {s : Scene σ} (h : ReachableAlone d s) (servers : σ) (now : Nat) :
      ReachableAlone d { s with world := { s.world with servers, now } }

theorem ReachableAlone.reachable (h : ReachableAlone d s) : Reachable d s := by
  induction h with
  | start servers now blacklist => exact .start servers now blacklist
  | call h k ih => exact ih.step (.call _ k)
  | advance h turn comes ih => exact ih.step (.advance turn comes)
  | leave h gone ih => exact ih.step (.leave gone)
  | @drift s h servers now ih => exact ih.step (.drift _ servers now s.world.blacklist)

theorem ReachableAlone.outcastsClosed (distinct : d.Distinct) (h : ReachableAlone d s) :
    s.world.OutcastsClosed := by
  induction h with
  | start servers now blacklist => exact nofun
  | call h k ih => exact ih
  | @advance s before after α β act next b c w h turn comes ih =>
    have hr := h.reachable
    have hpart := (hr.parts ⟨α, .step act next⟩ (by simp [turn])).head
    exact (hpart.outcasts hr.atRest.settled.toSound (hr.seated distinct) ih).value comes
  | leave h gone ih => exact ih
  | drift h servers now ih => exact ih

/-- Among hosts with different addresses the slots hold different ones, each with a session that was
opened to that host and to no other, and neither host is blacklisted while no section is under
way. -/
theorem placement_of_reachableAlone (distinct : d.Distinct) (h : ReachableAlone d s) :
    (∀ m r, s.connection.master = some m → s.connection.replica = some r →
      m.host.toEndpoint ≠ r.host.toEndpoint) ∧
    ∀ q slot, s.connection.slot? q = some slot → slot.host ∈ d.hosts ∧
      hostsOf slot.session s.world.journal = [slot.host] ∧
      s.world.blacklist.contains slot.host.toEndpoint = false := by
  have hsound := h.reachable.atRest.settled.toSound
  have hseated := h.reachable.seated distinct
  constructor
  · intro m r hm hr
    exact hseated.endpoint_ne (r := .master) (q := .replica) hsound hm hr (by decide)
  · intro q slot hslot
    refine ⟨h.reachable.founded.placed.mem q slot hslot, hseated.host q slot hslot, ?_⟩
    have hopen : closings slot.session s.world.journal = 0 :=
      (h.reachable.custody.owned _ (hsound.holds q slot hslot).not_shut).1
    rw [← Bool.not_eq_true]
    intro hlisted
    have hclosed := h.outcastsClosed distinct _ _ hlisted (hseated.last q slot hslot)
    exact absurd hopen hclosed.ne'

end Alone

/-- A host that was blacklisted in the past, and serves again. -/
def pardoned : World Script where
  servers := {}
  blacklist := Blacklist.record {} ⟨"db2", 3306⟩ 0 0

theorem placement_of_pair : ∃ (s : Scene Script) (m r : Slot), pair.Distinct ∧
    ReachableAlone pair s ∧ s.connection.master = some m ∧ s.connection.replica = some r ∧
    m.host.toEndpoint ≠ r.host.toEndpoint ∧
    ∀ slot ∈ [m, r], slot.host ∈ pair.hosts ∧
      hostsOf slot.session s.world.journal = [slot.host] ∧
      s.world.blacklist.contains slot.host.toEndpoint = false := by
  have distinct : pair.Distinct := by
    unfold Deployment.Distinct
    decide +kernel
  have hx : established.yields pardoned (fun x _ =>
      x.2.master.isSome && x.2.replica.isSome) = true := by
    decide +kernel
  obtain ⟨⟨b, c⟩, w, hy, hbound⟩ := exists_of_yields hx
  obtain ⟨hm, hr⟩ := Bool.and_eq_true_iff.1 hbound
  obtain ⟨m, hm⟩ := Option.isSome_iff_exists.1 hm
  obtain ⟨r, hr⟩ := Option.isSome_iff_exists.1 hr
  have h : ReachableAlone pair ⟨c, w, [⟨_, .done b⟩]⟩ :=
    ((ReachableAlone.start pardoned.servers 0 pardoned.blacklist).call .establish).advance
      (show _ = [] ++ _ :: _ from rfl) hy
  obtain ⟨hne, hslots⟩ := placement_of_reachableAlone distinct h
  refine ⟨_, m, r, distinct, h, hm, hr, hne m r hm hr, ?_⟩
  rintro slot hslot
  rcases List.mem_pair.1 hslot with rfl | rfl
  · exact hslots .master _ hm
  · exact hslots .replica _ hr

end Failover
