import Failover.Proofs.Transaction
import Mathlib.Data.List.Perm.Subperm

/-!
# Who owns a session

A session that was opened has no handle while its host is tried. It is hung up then, or it is bound
with an open handle, and from there on it is closed by its handle alone, when its slot is given up.
So a session is open as long as it is in a slot, and it is closed once when it leaves the slots
(`Custody`). Since commands, probes and lookups go to the sessions in the slots or to the one that
was just opened, none of them is sent on a session that was closed.
-/

namespace Failover

open Act World

/-- Whether the session ends with the event. -/
def Event.ends (n : SessionId) : Event → Bool
  | .closed m => m = n
  | _ => false

/-- The session that an event makes use of. -/
def Event.used : Event → Option SessionId
  | .called n _ _ | .judged n _ | .ran n _ => some n
  | _ => none

/-- How often a session was closed. -/
def closings (n : SessionId) (journal : List Entry) : Nat := journal.countP (·.event.ends n)

/-- Whether a session was ever opened. -/
def wasOpened (n : SessionId) (journal : List Entry) : Bool := journal.any (·.event.opens n)

/-- Sessions were used only as long as they had not been closed. -/
def UsedOpen (journal : List Entry) : Prop :=
  ∀ x past n, x :: past <:+ journal → x.event.used = some n → closings n past = 0

section Closings

variable {n m : SessionId} {e : Entry} {new journal : List Entry}

theorem closings_cons : closings n (e :: journal) =
    closings n journal + if e.event.ends n then 1 else 0 := List.countP_cons

theorem closings_closed {t : Nat} :
    closings n (⟨t, .closed m⟩ :: journal) = closings n journal + if m = n then 1 else 0 := by
  simp [closings_cons, Event.ends]

theorem closings_append (h : ∀ e ∈ new, e.event.ends n = false) :
    closings n (new ++ journal) = closings n journal := by
  unfold closings
  rw [List.countP_append, List.countP_eq_zero.2 fun e he => by simp [h e he], Nat.zero_add]

theorem closings_le_of_suffix {journal' : List Entry} (h : journal <:+ journal') :
    closings n journal ≤ closings n journal' :=
  h.sublist.countP_le

theorem Event.ends_of_used {e : Event} (h : e.used = some m) : e.ends n = false := by
  cases e <;> first | rfl | cases h

theorem Event.opens_of_used {e : Event} (h : e.used = some m) : e.opens n = false := by
  cases e <;> first | rfl | cases h

theorem wasOpened_cons : wasOpened n (e :: journal) = (e.event.opens n || wasOpened n journal) :=
  rfl

theorem wasOpened_append (h : ∀ e ∈ new, e.event.opens n = false) :
    wasOpened n (new ++ journal) = wasOpened n journal := by
  unfold wasOpened
  rw [List.any_append, List.any_eq_false.2 fun e he => by simp [h e he], Bool.false_or]

theorem UsedOpen.cons (h : UsedOpen journal) (he : e.event.used = none) :
    UsedOpen (e :: journal) := by
  intro x past n hx hn
  rcases List.suffix_cons_iff.1 hx with heq | hold
  · obtain ⟨rfl, -⟩ := List.cons.inj heq
    cases he.symm.trans hn
  · exact h x past n hold hn

end Closings

variable {σ : Type}

/-- A session was used, and no other one was touched. -/
structure World.Uses (n : SessionId) (w w' : World σ) : Prop where
  opened : w.opened ≤ w'.opened
  shut : ∀ m, w'.Shut m ↔ w.Shut m
  adds : w.Adds (fun e => e.used = some n) w'

/-- The sessions that were opened are accounted for: those that are not shut are in a slot, and the
others were closed once, but for those that are `pending` and have no handle yet. -/
structure Custody (pending : Set SessionId) (c : Connection) (w : World σ) : Prop where
  fresh : ∀ n, w.opened < n → closings n w.journal = 0
  known : ∀ n, ¬w.Shut n → n ≤ w.opened
  owned : ∀ n, ¬w.Shut n → closings n w.journal = 0 ∧ ∃ r, n ∈ sessionIn (c.slot? r)
  gone : ∀ n, wasOpened n w.journal = true → n ∉ pending → w.Shut n → closings n w.journal = 1
  used : UsedOpen w.journal

/-- A session that is still to be bound or hung up. -/
structure Unclaimed (c : Connection) (n : SessionId) (w : World σ) : Prop where
  custody : Custody {n} c w
  le : n ≤ w.opened
  unended : closings n w.journal = 0
  shut : w.Shut n

section Custody

variable {pending pending' : Set SessionId} {c c' : Connection} {w w' : World σ} {n : SessionId}

theorem World.shut_iff_of_handles (h : w'.handles = w.handles) : w'.Shut n ↔ w.Shut n :=
  ⟨fun hn => hn.of_handles h.symm, fun hn => hn.of_handles h⟩

theorem World.Uses.closings (h : w.Uses n w') (m : SessionId) :
    closings m w'.journal = closings m w.journal := by
  obtain ⟨new, hj, hnew⟩ := h.adds
  rw [hj, closings_append fun e he => Event.ends_of_used (hnew e he)]

theorem World.Uses.wasOpened (h : w.Uses n w') (m : SessionId) :
    wasOpened m w'.journal = wasOpened m w.journal := by
  obtain ⟨new, hj, hnew⟩ := h.adds
  rw [hj, wasOpened_append fun e he => Event.opens_of_used (hnew e he)]

theorem UsedOpen.uses (h : UsedOpen w.journal) (hn : closings n w.journal = 0)
    (hw : w.Uses n w') : UsedOpen w'.journal := by
  intro x past m hx hm
  rcases hw.adds.entry_cases hx with hold | ⟨hused, hpast⟩
  · exact h x past m hold hm
  · obtain rfl : m = n := Option.some.inj (hm.symm.trans hused)
    obtain ⟨-, new, rfl, hnew⟩ := hw.adds.entry hx hpast
    rw [closings_append fun e he => Event.ends_of_used (hnew e he), hn]

theorem Custody.uses (h : Custody pending c w) (hn : closings n w.journal = 0)
    (hw : w.Uses n w') : Custody pending c w' where
  fresh m hm := (hw.closings m).trans (h.fresh m (hw.opened.trans_lt hm))
  known m hm := (h.known m fun hs => hm ((hw.shut m).2 hs)).trans hw.opened
  owned m hm := by
    rw [hw.closings m]
    exact h.owned m fun hs => hm ((hw.shut m).2 hs)
  gone m ho hp hm := by
    rw [hw.wasOpened m] at ho
    rw [hw.closings m]
    exact h.gone m ho hp ((hw.shut m).1 hm)
  used := h.used.uses hn hw

theorem Custody.same (h : Custody pending c w) (ho : w'.opened = w.opened)
    (hs : ∀ n, w'.Shut n ↔ w.Shut n) (hj : w'.journal = w.journal) : Custody pending c w' := by
  obtain ⟨hfresh, hknown, howned, hgone, hused⟩ := h
  constructor <;> simpa only [ho, hs, hj]

theorem Custody.still [Cluster σ] (h : Custody pending c w) (hw : w.Still w') :
    Custody pending c w' :=
  h.same hw.opened (fun _ => shut_iff_of_handles hw.handles) hw.journal

/-- The attempt to open a session that has the next number. -/
theorem Custody.opens {e : Entry} (h : Custody ∅ c w) (ho : w.opened ≤ w'.opened)
    (hh : w'.handles = w.handles) (hj : w'.journal = e :: w.journal) (hu : e.event.used = none)
    (he : ∀ n, e.event.ends n = false) (hp : ∀ n, e.event.opens n = true → n ∈ pending) :
    Custody pending c w' := by
  have hs (n : SessionId) : w'.Shut n ↔ w.Shut n := shut_iff_of_handles hh
  have hc (n : SessionId) : closings n w'.journal = closings n w.journal := by
    rw [hj, closings_cons, he n]
    rfl
  refine ⟨?_, ?_, ?_, ?_, ?_⟩
  · intro n hn
    rw [hc, h.fresh n (ho.trans_lt hn)]
  · intro n hn
    exact (h.known n fun hshut => hn ((hs n).2 hshut)).trans ho
  · intro n hn
    rw [hc]
    exact h.owned n fun hshut => hn ((hs n).2 hshut)
  · intro n hopen hn hshut
    rw [hj, wasOpened_cons, Bool.or_eq_true] at hopen
    rw [hc]
    exact h.gone n (hopen.resolve_left fun hnew => hn (hp n hnew)) (Set.notMem_empty n)
      ((hs n).1 hshut)
  · rw [hj]
    exact h.used.cons hu

theorem Custody.ended {t : Nat} (h : Custody pending c w) (hn : closings n w.journal = 0)
    (hle : n ≤ w.opened) (ho : w'.opened = w.opened)
    (hj : w'.journal = ⟨t, .closed n⟩ :: w.journal) (hs : ∀ m, w'.Shut m ↔ m = n ∨ w.Shut m)
    (hp : ∀ m ∈ pending, m = n ∨ m ∈ pending') : Custody pending' c w' := by
  have hc {m : SessionId} (hm : m ≠ n) : closings m w'.journal = closings m w.journal := by
    rw [hj, closings_closed, if_neg hm.symm, Nat.add_zero]
  refine ⟨?_, ?_, ?_, ?_, ?_⟩
  · intro m hm
    rw [ho] at hm
    rw [hc (hle.trans_lt hm).ne', h.fresh m hm]
  · intro m hm
    rw [ho]
    exact h.known m fun hshut => hm ((hs m).2 (.inr hshut))
  · intro m hm
    rw [hc fun he => hm ((hs m).2 (.inl he))]
    exact h.owned m fun hshut => hm ((hs m).2 (.inr hshut))
  · intro m hopen hm hshut
    rcases eq_or_ne m n with rfl | hne
    · rw [hj, closings_closed, if_pos rfl, hn]
    · rw [hj, wasOpened_cons] at hopen
      rw [hc hne]
      exact h.gone m hopen (fun hm' => hm ((hp m hm').resolve_left hne))
        (((hs m).1 hshut).resolve_left hne)
  · rw [hj]
    exact h.used.cons rfl

theorem Custody.fewer (h : Custody pending c w) (hc : c.Fewer w c') : Custody pending c' w where
  fresh := h.fresh
  known := h.known
  owned n hn := by
    obtain ⟨hend, r, hr⟩ := h.owned n hn
    refine ⟨hend, r, ?_⟩
    obtain ⟨s, hs, rfl⟩ := mem_sessionIn.1 hr
    cases hs' : c'.slot? r with
    | none => exact absurd (hc.gone r s hs hs') hn
    | some s' =>
      rw [hc.slot r s' hs'] at hs
      rw [Option.some.inj hs, sessionIn_some]
      exact Set.mem_singleton _
  gone := h.gone
  used := h.used

/-- The session that has no handle yet is bound in a slot that is not held any more. -/
theorem Unclaimed.bound {h : Handle} {r : Role} (hu : Unclaimed c h.session w)
    (hopen : h.closed = false) (hs : ∀ s, c.slot? r = some s → w.Shut s.session) :
    Custody ∅ (c.fill r ⟨h.host, h.session⟩) { w with handles := w.handles.put h } := by
  have others {n : SessionId} (hn : n ≠ h.session) :
      World.Shut { w with handles := w.handles.put h } n ↔ w.Shut n := by
    rw [shut_put, if_neg hn]
  refine ⟨hu.custody.fresh, ?_, ?_, ?_, hu.custody.used⟩
  · intro n hn
    rcases eq_or_ne n h.session with rfl | hne
    · exact hu.le
    · exact hu.custody.known n fun hshut => hn ((others hne).2 hshut)
  · intro n hn
    rcases eq_or_ne n h.session with rfl | hne
    · refine ⟨hu.unended, r, ?_⟩
      rw [Connection.slot_fill_self, sessionIn_some]
      exact Set.mem_singleton _
    · have hheld : ¬w.Shut n := fun hshut => hn ((others hne).2 hshut)
      obtain ⟨hend, q, hq⟩ := hu.custody.owned n hheld
      refine ⟨hend, q, ?_⟩
      have hqr : q ≠ r := by
        rintro rfl
        obtain ⟨s, hslot, rfl⟩ := mem_sessionIn.1 hq
        exact hheld (hs s hslot)
      rwa [Connection.slot_fill_of_ne _ _ hqr]
  · intro n hfrom _ hshut
    rcases eq_or_ne n h.session with rfl | hne
    · rw [shut_put, if_pos rfl, hopen] at hshut
      cases hshut
    · exact hu.custody.gone n hfrom hne ((others hne).1 hshut)

theorem Custody.promote {s : Slot} (h : Custody ∅ c w) (hm : c.master = none)
    (hrep : c.replica = some s) : Custody ∅ (c.promote s) w where
  fresh := h.fresh
  known := h.known
  owned n hn := by
    obtain ⟨hend, r, hr⟩ := h.owned n hn
    refine ⟨hend, .master, ?_⟩
    rw [Connection.slot_promote_master]
    cases r with
    | master =>
      rw [Connection.slot?, hm, sessionIn_none] at hr
      cases hr
    | replica => rwa [Connection.slot?, hrep] at hr
  gone := h.gone
  used := h.used

end Custody

section Actions

variable [Cluster σ] {d : Deployment} {pending : Set SessionId} {c : Connection} {w w' : World σ}
  {n : SessionId}

theorem World.Still.uses (h : w.Still w') : w.Uses n w' :=
  ⟨h.opened.ge, fun _ => shut_iff_of_handles h.handles, adds_of_eq h.journal⟩

theorem framing_uses (n : SessionId) : Framing (World.Uses (σ := σ) n) := by
  apply framing_of_still Still.uses
  · intro u v w h h'
    exact {
      opened := h.opened.trans h'.opened
      shut := fun m => (h'.shut m).trans (h.shut m)
      adds := h.adds.trans h'.adds }
  · intro w w' t h
    exact ⟨h.opened, h.shut, h.adds⟩

theorem uses_call (r : Request) : (call n r : Act σ _).Always (World.Uses n) := by
  apply always_call
  intro w reply servers now
  exact ⟨le_rfl, fun _ => Iff.rfl, adds_cons rfl rfl⟩

theorem uses_judge (t : Topology) (limit : Nat) (h : Host) :
    (t.judge limit h n : Act σ _).Always (World.Uses n) :=
  (framing_uses n).judge (uses_call _) fun _ => always_change fun _ =>
    ⟨le_rfl, fun _ => Iff.rfl, adds_cons rfl rfl⟩

omit [Cluster σ] in
theorem Unclaimed.uses (h : Unclaimed c n w) (hw : w.Uses n w') : Unclaimed c n w' :=
  ⟨h.custody.uses h.unended hw, h.le.trans hw.opened, (hw.closings n).trans h.unended,
    (hw.shut n).2 h.shut⟩

theorem Custody.closeSession {stuck : World σ → Prop} (h : Custody pending c w) :
    (closeSession n).Meets w (fun _ w' => Custody pending c w' ∧ w'.opened = w.opened ∧
      ∀ m, w.Shut m → w'.Shut m ∧ closings m w'.journal = closings m w.journal) stuck := by
  refine meets_closeSession_of (fun _ => ⟨h, rfl, fun m hm => ⟨hm, rfl⟩⟩) ?_
  intro x w' hx hopen hc
  have hx' : ¬w.Shut x.session := fun hshut => by
    rw [hshut x (by rwa [session_of_get? hx])] at hopen
    cases hopen
  obtain ⟨t, hj⟩ := hc.journal
  refine ⟨?_, hc.opened, ?_⟩
  · exact h.ended (h.owned _ hx').1 (h.known _ hx') hc.opened hj (fun m => hc.shut_iff)
      fun m hm => .inr hm
  · intro m hm
    refine ⟨hc.shut_iff.2 (.inr hm), ?_⟩
    have hne : x.session ≠ m := by
      rintro rfl
      exact hx' hm
    rw [hj, closings_closed, if_neg hne, Nat.add_zero]

/-- Closing a slot closes its session, and no other one. -/
theorem meets_closeSlot_ends {slot : Option Slot} {stuck : World σ → Prop} (hn : ¬w.Shut n) :
    (closeSlot slot).Meets w (fun _ w' => (n ∈ sessionIn slot → 0 < closings n w'.journal) ∧
      (n ∉ sessionIn slot → ¬w'.Shut n)) stuck := by
  cases slot with
  | none => exact meets_pure ⟨fun h => absurd h (by simp), fun _ => hn⟩
  | some s =>
    rw [sessionIn_some]
    refine meets_closeSession_of ?_ ?_
    · intro hshut
      refine ⟨?_, fun _ => hn⟩
      rintro rfl
      exact absurd hshut hn
    · intro x w' hx _ hc
      rw [← session_of_get? hx]
      constructor
      · rintro rfl
        obtain ⟨t, hj⟩ := hc.journal
        rw [hj, closings_closed, if_pos rfl]
        exact Nat.succ_pos _
      · intro hne hshut
        rcases hc.shut_iff.1 hshut with heq | hshut
        · exact hne heq
        · exact hn hshut

theorem Unclaimed.closeSlot {slot : Option Slot} {stuck : World σ → Prop}
    (h : Unclaimed c n w) : (closeSlot slot).Meets w
      (fun _ w' => Unclaimed c n w' ∧ ∀ s, slot = some s → w'.Shut s.session) stuck := by
  cases slot with
  | none => exact meets_pure ⟨h, fun s hs => nomatch hs⟩
  | some s =>
    have hclosed : (closeSession s.session).Meets w (fun _ w' => w.Shuts (some s) w')
        fun _ => True := meets_closeSession_shuts
    refine (h.custody.closeSession.and hclosed).mono ?_ fun _ h => h.1
    rintro _ w' ⟨⟨hc, ho, hs⟩, hshut⟩
    obtain ⟨hshut', hend⟩ := hs n h.shut
    have hle : n ≤ w'.opened := by
      rw [ho]
      exact h.le
    exact ⟨⟨hc, hle, hend.trans h.unended, hshut'⟩, hshut.own⟩

/-- While a host is tried, its new session is the only one that is used. -/
theorem trial_custody {h : Host} {e : Election} : Trial d h e
    (fun n (w' : World σ) => Unclaimed e.connection n w')
    (fun n _ w' => Unclaimed e.connection n w') (fun w' => Custody ∅ e.connection w')
    (fun n r w' => Custody ∅ (e.connection.fill r ⟨h, n⟩) w') (fun w' => UsedOpen w'.journal) where
  judges hn := ((uses_judge _ _ _).meets _).mono (fun _ _ hw => hn.uses hw)
    fun _ hw => (hn.uses hw).custody.used
  looksUp hn := (((framing_uses _).namedMaster (uses_call _)).meets _).mono
    (fun _ _ hw => hn.uses hw) fun _ hw => (hn.uses hw).custody.used
  hangsUp := by
    intro n e w hn _
    apply meets_hangUp_of
    intro wait o servers _
    have shut (m : SessionId) : w.Shut m ↔ m = n ∨ w.Shut m := by
      refine ⟨.inr, ?_⟩
      rintro (rfl | hm)
      · exact hn.shut
      · exact hm
    exact hn.custody.ended hn.unended hn.le rfl rfl shut fun m hm => .inl hm
  binds := by
    intro n r text w hn _
    have hfollows : (followCatalog e.connection ⟨n, h, r, false, false⟩ : Act σ _).Always
        (World.Uses n) := (framing_uses n).followCatalog fun _ => uses_call _
    refine meets_bind ((hfollows.meets w).mono (fun _ _ hw => hn.uses hw)
      fun _ hw => (hn.uses hw).custody.used) fun _ w₁ h₁ => ?_
    refine meets_bind h₁.closeSlot fun _ w₂ ⟨h₂, hs⟩ => ?_
    refine meets_bind_harmless (harmless_log _ _) fun _ w₃ h₃ => ?_
    exact meets_change <| Unclaimed.bound (h := ⟨n, h, r, false, false⟩)
      (h₂.uses h₃.uses) rfl fun s hslot => (hs s hslot).of_handles h₃.handles
  freshStill hn hw := hn.uses hw.uses
  judgedStill hn hw := hn.uses hw.uses
  spentStill hc hw := hc.still hw

omit [Cluster σ] in
theorem World.Holds.not_shut {r : Role} {s : Slot} (h : w.Holds r s) : ¬w.Shut s.session := by
  obtain ⟨x, hx, -, -, hopen⟩ := h
  intro hshut
  cases hopen.symm.trans (hshut x hx)

omit [Cluster σ] in
theorem Work.uses {cmds : List Command} (h : Work n cmds w w') : w.Uses n w' where
  opened := h.opened
  shut m := by
    unfold World.Shut
    rcases eq_or_ne m n with rfl | hm
    · obtain ⟨b, hb⟩ := h.own
      simp [hb]
    · rw [h.handle m hm]
  adds := h.adds.mono fun e he => by cases he <;> rfl

theorem lasting_custody :
    Lasting d (fun _ => True) (Custody (σ := σ) ∅) fun w => UsedOpen w.journal where
  tries := by
    intro h waiting e w _ hs hopen hc
    refine (trial_custody.tryHost hopen (meets_connect_of ?_ fun _ _ _ => ?_)).mono ?_ fun _ h => h
    · intro _ _ _ _
      exact hc.opens le_rfl rfl rfl rfl (fun _ => rfl) nofun
    · refine ⟨hc.opens (Nat.le_succ _) rfl rfl rfl (fun _ => rfl) fun n hn => ?_, le_rfl, ?_, ?_⟩
      · exact (of_decide_eq_true hn).symm
      · exact closings_cons.trans (hc.fresh _ (Nat.lt_succ_self _))
      · by_contra hnew
        exact Nat.not_succ_le_self _ (hc.known _ hnew)
    · intro x w' hx
      cases hx with
      | unbound hsame _ hspent => rwa [hsame]
      | bound n r _ hfill _ hheld => rwa [hfill]
  rechecks := by
    intro c g w hs hc
    refine meets_recheck_of hs (fun _ => hc) fun s x hdown hrep hx _ _ => ?_
    have hheld : ¬w.Shut s.session := (hs.holds .replica s hrep).not_shut
    have hend := (hc.owned _ hheld).1
    refine ((uses_judge _ _ _).meets w).mono ?_ fun u hu => hc.used.uses hend hu
    intro v u hu
    have hc' : Custody ∅ c u := hc.uses hend hu
    refine ⟨?_, fun _ u' hu' => hc'.still hu'⟩
    intro _ u' hu'
    have hmaster : c.master = none := hs.coherent.master_eq_none hdown
    have hput : Custody ∅ c { u with handles := u.handles.put { x with role := .master } } := by
      refine hc'.same rfl ?_ rfl
      intro m
      rw [shut_put, hu.shut m]
      split_ifs with hm
      · have hsession : x.session = s.session := session_of_get? hx
        rw [hm, hsession]
        refine iff_of_false (fun hclosed => hheld fun y hy => ?_) hheld
        rw [Option.some.inj (hy.symm.trans hx)]
        exact hclosed
      · rfl
    exact (hput.promote hmaster hrep).still hu'
  closes _ hc := hc.closeSession.mono (fun _ _ h => h.1) fun _ h => h
  still hc hw := hc.still hw
  fewer hc hf := hc.fewer hf
  works := by
    intro c w w' x cmds hs hc hr _ hk
    obtain ⟨s, hslot, hx⟩ := hr.slot
    obtain ⟨r, -, hslot⟩ := Option.bind_eq_some_iff.1 hslot
    have hheld : ¬w.Shut x.session := by
      rw [session_of_get? hx]
      exact (hs.holds r s hslot).not_shut
    exact hc.uses (hc.owned _ hheld).1 hk.uses
  remembers _ hc := ⟨hc.fresh, hc.known, fun n hn => by
    obtain ⟨hend, r, hr⟩ := hc.owned n hn
    exact ⟨hend, r, by cases r <;> exact hr⟩, hc.gone, hc.used⟩
  stays hc := hc.used

end Actions

/-- The session is open, and one slot holds it. -/
structure Owned (c : Connection) (w : World σ) (n : SessionId) : Prop where
  unended : closings n w.journal = 0
  live : ¬w.Shut n
  slot : ∃! r, n ∈ sessionIn (c.slot? r)

/-- The session was closed, once, and no slot holds it. -/
structure Discarded (c : Connection) (w : World σ) (n : SessionId) : Prop where
  ended : closings n w.journal = 1
  shut : w.Shut n
  slots : ∀ r, n ∉ sessionIn (c.slot? r)

section Reachable

variable [Cluster σ] {d : Deployment} {s : Scene σ} {c : Connection} {w : World σ} {n : SessionId}

theorem Reachable.custody (h : Reachable d s) : Custody ∅ s.connection s.world := by
  refine h.maintains lasting_custody ?_ fun hc => hc.same rfl (fun _ => Iff.rfl) rfl
  intro servers now blacklist
  have shut (n : SessionId) : ({ servers, now, blacklist } : World σ).Shut n := by
    rintro _ ⟨⟩
  constructor
  case fresh => exact fun _ _ => rfl
  case known => exact fun n hn => absurd (shut n) hn
  case owned => exact fun n hn => absurd (shut n) hn
  case gone =>
    rintro _ ⟨⟩
  case used =>
    intro _ _ _ hx _
    cases List.suffix_nil.1 hx

omit [Cluster σ] in
theorem Custody.owned_of_not_shut (h : Custody ∅ c w) (hs : Sound d c w) (hn : ¬w.Shut n) :
    Owned c w n := by
  obtain ⟨hend, r, hr⟩ := h.owned n hn
  refine ⟨hend, hn, r, hr, ?_⟩
  intro q hq
  obtain ⟨s, hslot, rfl⟩ := mem_sessionIn.1 hr
  obtain ⟨t, hslot', hsame⟩ := mem_sessionIn.1 hq
  by_contra hne
  exact hs.session_ne hslot' hslot hne hsame

omit [Cluster σ] in
theorem Custody.discarded_of_shut (h : Custody ∅ c w) (hs : Sound d c w) (hn : w.Shut n)
    (hopened : wasOpened n w.journal = true) : Discarded c w n := by
  refine ⟨h.gone n hopened (Set.notMem_empty n) hn, hn, ?_⟩
  intro r hr
  obtain ⟨s, hslot, rfl⟩ := mem_sessionIn.1 hr
  exact (hs.holds r s hslot).not_shut hn

/-- Whenever no section is under way, every session that was ever opened is open in one slot or has
been closed once and is in none, so that no more than two are open. No session is used after it
was closed, not even in a section that does not come to an end. -/
theorem sessions_owned_or_discarded (h : Reachable d s) :
    (∀ n, wasOpened n s.world.journal = true →
      Owned s.connection s.world n ∨ Discarded s.connection s.world n) ∧
    (∀ ns : List SessionId, ns.Nodup → (∀ n ∈ ns, wasOpened n s.world.journal = true ∧
      closings n s.world.journal = 0) → ns.length ≤ 2) ∧
    UsedOpen s.world.journal ∧
    ∀ (α β : Type) (act : Section σ β) (next : β → Job σ α), ⟨α, .step act next⟩ ∈ s.tasks →
      UsedOpen (act s.connection s.world).2.journal := by
  have hc := h.custody
  have hs := h.atRest.settled.toSound
  have cases_of_opened (n : SessionId) (hn : wasOpened n s.world.journal = true) :
      Owned s.connection s.world n ∨ Discarded s.connection s.world n := by
    by_cases hshut : s.world.Shut n
    · exact .inr (hc.discarded_of_shut hs hshut hn)
    · exact .inl (hc.owned_of_not_shut hs hshut)
  refine ⟨cases_of_opened, ?_, hc.used, ?_⟩
  · intro ns hnodup hopen
    have hsub : ns ⊆ (s.connection.master.toList ++ s.connection.replica.toList).map
        Slot.session := by
      intro n hn
      obtain ⟨hopened, hend⟩ := hopen n hn
      rcases cases_of_opened n hopened with howned | hgone
      · obtain ⟨r, hr, -⟩ := howned.slot
        obtain ⟨t, ht, rfl⟩ := mem_sessionIn.1 hr
        refine List.mem_map_of_mem ?_
        cases r with
        | master => exact List.mem_append_left _ (Option.mem_toList.2 ht)
        | replica => exact List.mem_append_right _ (Option.mem_toList.2 ht)
      · cases hend.symm.trans hgone.ended
    refine (hnodup.subperm hsub).length_le.trans ?_
    cases s.connection.master <;> cases s.connection.replica <;> simp
  · intro α β act next hturn
    have hm := lasting_custody.part (h.parts _ hturn).head _ _ h.atRest.settled hc
    rcases hx : act s.connection s.world with ⟨_ | x, w⟩
    · exact hm.stalled hx
    · exact (hm.value hx).2.used

end Reachable

/-- A master that was lost is closed, and the replica that stands in for it is not. -/
theorem sessions_of_standIn : ∃ s : Scene Script, Reachable pair s ∧
    Discarded s.connection s.world 1 ∧ Owned s.connection s.world 2 ∧
    (∀ ns : List SessionId, ns.Nodup → (∀ n ∈ ns, wasOpened n s.world.journal = true ∧
      closings n s.world.journal = 0) → ns.length ≤ 2) ∧
    UsedOpen s.world.journal ∧
    ⟨_, .reading (dispatch increment)⟩ ∈ s.tasks ∧
    UsedOpen (Job.unchanged (dispatch increment) s.connection s.world).2.journal := by
  have hx : standIn.yields { servers := {} } (fun _ w =>
      wasOpened 1 w.journal && wasOpened 2 w.journal && closings 1 w.journal == 1 &&
        closings 2 w.journal == 0) = true := by
    decide +kernel
  obtain ⟨c, w, hy, hx⟩ := exists_of_yields hx
  simp only [Bool.and_eq_true, beq_iff_eq] at hx
  obtain ⟨⟨⟨hopened₁, hopened₂⟩, hend₁⟩, hend₂⟩ := hx
  obtain ⟨tasks, h⟩ := reachable_standIn hy
  have hcall := h.step (.call _ (.dispatch increment))
  have hmem : (⟨_, .reading (dispatch increment)⟩ : Task Script) ∈
      tasks ++ [Call.task pair (.dispatch increment)] := by simp [Call.task]
  obtain ⟨hcases, hfew, hused, hturn⟩ := sessions_owned_or_discarded hcall
  refine ⟨_, hcall, ?_, ?_, hfew, hused, hmem, hturn _ _ _ _ hmem⟩
  · refine (hcases 1 hopened₁).resolve_left fun howned => ?_
    cases hend₁.symm.trans howned.unended
  · refine (hcases 2 hopened₂).resolve_right fun hgone => ?_
    cases hend₂.symm.trans hgone.ended

end Failover
