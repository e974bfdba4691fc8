import Failover.Proofs.Reporting

/-!
# Reports that hold together

The report of a failover is put together from what the recovery came to, from whether the command is
sent again, and from what comes of that. Whichever handle failed and whatever the command, its parts
agree with each other and with the connection that the call leaves (`report_holds_together`): an
answer comes from a connection that is back, a connection that is back has a session to go to, and
for one that is not there is an error that says why.
-/

namespace Failover

open Act World

variable {σ : Type}

/-- An election found nothing, or there was none because the connection is closed for good. -/
def Error.EndsSearch (e : Error) : Prop :=
  e = .connectionClosed ∨ ∃ role failure, e = .exhausted role failure

/-- What a recovery says of the connection that it leaves. -/
inductive Recovery.Accords (c : Connection) : Recovery → Prop
  | restored (routed : c.currentSlot.isSome = true) : Accords c .restored
  | standIn {e : Error} (routed : c.currentSlot.isSome = true) (cause : e.EndsSearch) :
      Accords c (.standIn e)
  | failed {e : Error} (cause : e.EndsSearch) : Accords c (.failed e)

/-- The parts of a report agree with each other, and with the connection that the call leaves. -/
structure Report.Consistent (report : Report) (cmd : Option Command) (c : Connection) : Prop where
  answered : report.mustRaise = false ↔ report.result.isSome = true
  back : report.result.isSome = true → report.reconnected = true
  routed : report.reconnected = true → c.currentSlot.isSome = true
  cause : report.reconnected = false → ∃ e, report.cause = some e ∧ e.EndsSearch
  unasked : cmd = none → report.result = none

section Elections

variable [Cluster σ] {d : Deployment} {c : Connection} {g : Goal} {w : World σ}

/-- What was looked for is still looked for, or there is a session. -/
def Gained (start : Goal) (c : Connection) (g : Goal) : Prop :=
  g = start ∨ ∃ r, (c.slot? r).isSome = true

omit [Cluster σ] in
theorem kept_gained (start : Goal) : Kept d fun c g (_ : World σ) => Gained start c g where
  attempt := by
    intro e e' w w' _ h ha
    cases ha with
    | unbound hc hg _ => rwa [hc, hg]
    | bound r s _ _ hc _ _ _ =>
      rw [hc]
      exact .inr ⟨r, congrArg Option.isSome (e.connection.slot_fill_self s r)⟩
  beside h _ := h

omit [Cluster σ] in
theorem keptByRecheck_gained (start : Goal) :
    KeptByRecheck d fun c g (_ : World σ) => Gained start c g := by
  intro c c' g g' w w' _ h hr
  cases hr with
  | same _ _ => exact h
  | promoted s x _ _ _ _ _ =>
    exact .inr ⟨.master, congrArg Option.isSome (c.slot_promote_master s)⟩

omit [Cluster σ] in
/-- A connection at rest with any session at all has one to route to. -/
theorem Settled.routed (hs : Settled d c w) {r : Role} (h : (c.slot? r).isSome = true) :
    c.currentSlot.isSome = true := by
  rw [Connection.isSome_currentSlot hs.rest, Bool.or_eq_true]
  cases r with
  | master => exact .inl h
  | replica => exact .inr h

theorem meets_elect_fruitless : (elect d c g).Meets w
    (fun x _ => ∀ e, x.1 = .exhausted e → e.EndsSearch) fun _ => True := by
  cases hclosed : c.closed with
  | false =>
    refine (meets_elect_cause hclosed).mono ?_ fun _ h => h
    intro x _ h e he
    obtain ⟨failure, rfl⟩ := h e he
    exact .inr ⟨_, failure, rfl⟩
  | true =>
    unfold elect
    refine meets_bind_harmless (harmless_log _ _) fun _ w₁ _ => ?_
    rw [hclosed, if_pos rfl]
    refine meets_pure ?_
    rintro _ ⟨⟩
    exact .inl rfl

/-- An election that found what it looked for leaves a session to go to, and any other one says
why. -/
theorem meets_electAndRoute_accords (hs : Sound d c w) (hg : g.isEnough = false)
    (hrep : g.wantsReplica = true → c.hasReplicas = true) : (electAndRoute d c g).Meets w
      (fun x w' => Settled d x.2 w' ∧ (x.1 = .found → x.2.currentSlot.isSome = true) ∧
        ∀ e, x.1 = .exhausted e → e.EndsSearch) fun _ => True := by
  unfold electAndRoute
  have helect := meets_elect (kept_gained g).upheld
    (.inr (KeptByRecheck.upheld (keptByRecheck_gained g))) hs (.inl rfl) hg hrep
  refine meets_bind ((helect.and meets_elect_fruitless).mono (fun _ _ h => h)
    fun _ _ => trivial) ?_
  rintro ⟨outcome, c', g'⟩ w' ⟨hended, hcause⟩
  have hsettled : Settled d c'.route w' := ⟨hended.sound.route, hended.sound.coherent.current_route⟩
  refine meets_pure ⟨hsettled, fun hfound => ?_, hcause⟩
  have routed {r : Role} (h : (c'.slot? r).isSome = true) : c'.route.currentSlot.isSome = true :=
    hsettled.routed ((congrArg Option.isSome (c'.slot_route r)).trans h)
  rcases hended.found hfound with henough | ⟨hup, -⟩
  · rcases hended.kept with hsame | ⟨r, hr⟩
    · rw [show g' = g from hsame, hg] at henough
      cases henough
    · exact routed hr
  · have hmaster : c'.masterDown = c'.master.isNone := hended.sound.coherent.masterDown
    rw [show c'.masterDown = false from hup] at hmaster
    exact routed (r := .master) (Option.isNone_eq_false_iff.1 hmaster.symm)

end Elections

section Recoveries

variable [Cluster σ] {d : Deployment} {c : Connection} {w : World σ} {inTransaction : Bool}

theorem accords_recoverMaster (hs : Settled d c w) :
    (recoverMaster d inTransaction c).Meets w (fun x _ => x.1.Accords x.2) fun _ => True := by
  refine meets_recoverMaster_of (A := fun _ => True) (B := fun _ _ _ => True) hs.toSound
    (meets_abandon_known hs.orderly fun _ _ => trivial)
    (fun _ _ _ _ => meets_of_forall (fun _ _ => trivial) fun _ => trivial)
    (fun now s w₂ _ hs₂ => .restored ?_) fun now w₂ _ hs₂ => ?_
  · exact hs₂.routed (congrArg Option.isSome ((c.masterLost now).slot_promote_master s))
  · have helected := meets_electAndRoute_accords (g := .masterOnly) hs₂ rfl nofun
    refine helected.mono ?_ fun _ h => h
    rintro x w₃ ⟨_, hfound, hcause⟩
    constructor
    · intro hx
      exact .restored (hfound hx)
    · intro e hx
      constructor
      · exact .failed (hcause e hx)
      · intro havailable _ _
        exact .standIn (Bool.and_eq_true_iff.1 havailable).2 (hcause e hx)

/-- Whatever is found after the loss of the replica, the master stays. -/
theorem accords_recoverReplica (hs : Settled d c w) (hrep : c.replica.isSome = true) :
    (recoverReplica d c).Meets w (fun x _ => x.1.Accords x.2) fun _ => True := by
  have hwanted : c.hasReplicas = true := hs.coherent.replica hrep
  refine meets_recoverReplica_of (A := fun _ => True) hs.toSound hrep
    (meets_abandon_known hs.orderly fun _ _ => trivial) ?_ ?_
  · intro w₁ _ hs₁ hm
    have helected := (upkeep_quiet w₁).elected (g := Goal.replicaOnly.inOnePass) hs₁
      (Quiet.refl w₁) rfl fun _ => hwanted
    refine helected.mono ?_ fun _ _ => trivial
    rintro x w₂ ⟨hs₂, he, _⟩
    have hmaster : x.2.master.isSome = true := he.master hm
    constructor
    · intro _
      exact .restored (hs₂.routed (r := .master) hmaster)
    · intro _ _ _ _
      exact .restored hmaster
  · intro w₁ _ hs₁ _
    refine (meets_electAndRoute_accords hs₁ rfl fun _ => hwanted).mono ?_ fun _ h => h
    rintro x w₂ ⟨_, hfound, hcause⟩
    constructor
    · intro hx
      exact .restored (hfound hx)
    · intro e hx
      split
      next hrouted => exact .restored hrouted
      next => exact .failed (hcause e hx)

theorem accords_recover (hs : Settled d c w) (failed : SessionId) :
    (recover d failed inTransaction c).Meets w (fun x _ => x.1.Accords x.2) fun _ => True := by
  unfold recover
  split
  · exact meets_pure (.failed (.inl rfl))
  cases hr : c.roleOf failed with
  | none =>
    dsimp only
    split
    next hrouted =>
      exact meets_bind_harmless (harmless_log _ _) fun _ _ _ => meets_pure (.restored hrouted)
    next => exact accords_recoverMaster hs
  | some r =>
    cases r with
    | master => exact accords_recoverMaster hs
    | replica =>
      obtain ⟨s, hslot, -⟩ := Connection.slot_of_roleOf hr
      exact accords_recoverReplica hs (Option.isSome_iff_exists.2 ⟨s, hslot⟩)

end Recoveries

section Reports

variable {d : Deployment} {n : SessionId} {s s' : Scene σ} {cmd : Option Command}

theorem Report.consistent_raising {c : Connection} {reconnected : Bool} {cause : Option Error}
    (routed : reconnected = true → c.currentSlot.isSome = true)
    (ends : reconnected = false → ∃ e, cause = some e ∧ e.EndsSearch) :
    (Report.raising reconnected cause).Consistent cmd c where
  answered := by simp [Report.raising]
  back := by simp [Report.raising]
  routed := routed
  cause := ends
  unasked _ := rfl

theorem Report.consistent_answered {c : Connection} {x : Command} {r : QueryResult}
    (hcmd : cmd = some x) (routed : c.currentSlot.isSome = true) :
    (Report.answered r).Consistent cmd c where
  answered := by simp [Report.answered]
  back _ := rfl
  routed _ := routed
  cause := by simp [Report.answered]
  unasked := by simp [hcmd]

variable [Cluster σ]

/-- Sending the command again leaves the connection as it is. -/
theorem consistent_sendAgain {inTransaction : Bool} {cause : Option Error}
    (routed : s.connection.currentSlot.isSome = true) (ends : ∀ e, cause = some e → e.EndsSearch) :
    (sendAgain cmd inTransaction cause : Job σ Report).Meets Drift s
      (fun report s' => report.Consistent cmd s'.connection) fun _ => True := by
  unfold sendAgain
  cases hf : cmd.filter (fun cmd => cmd.isRepeatable && !inTransaction) with
  | none =>
    refine Job.meets_pure (Report.consistent_raising (fun _ => routed) fun hnone => ?_)
    obtain ⟨e, rfl⟩ := Option.isSome_iff_exists.1 (Option.isNone_eq_false_iff.1 hnone)
    exact ⟨e, rfl, ends e rfl⟩
  | some x =>
    have hcmd : cmd = some x := (Option.filter_eq_some_iff.1 hf).1
    have sent : (Job.reading (redispatch x) : Job σ _).Meets Drift s
        (fun _ s₁ => s₁.connection.currentSlot.isSome = true) fun _ => True :=
      Job.meets_reading fun m hm => meets_of_forall (fun _ _ => hm.connection ▸ routed)
        fun _ => trivial
    refine Job.meets_bind sent fun y s₁ h₁ => ?_
    rcases y with e | ⟨_, e | r⟩
    · exact Job.meets_pure (Report.consistent_raising (fun _ => h₁) nofun)
    · exact Job.meets_pure (Report.consistent_raising (fun _ => h₁) nofun)
    · exact Job.meets_pure (Report.consistent_answered hcmd h₁)

theorem consistent_failOver (hs : Settled d s.connection s.world) :
    (failOver d n cmd).Meets Drift s (fun report s' => report.Consistent cmd s'.connection)
      fun _ => True := by
  unfold failOver
  have looks : (Job.reading (readFlag n) : Job σ Bool).Meets Drift s
      (fun _ s₁ => Settled d s₁.connection s₁.world) fun _ => True :=
    Job.meets_reading fun m hm => (harmless_readFlag n m.connection).meets fun _ w₁ h₁ =>
      (hm.settled hs).beside h₁.beside
  refine Job.meets_bind looks fun flag s₁ hs₁ => ?_
  have recovers : (Job.atomic (recover d n flag) : Job σ Recovery).Meets Drift s₁
      (fun r s₂ => r.Accords s₂.connection) fun _ => True :=
    Job.meets_atomic fun m hm => accords_recover (hm.settled hs₁) n
  refine Job.meets_bind recovers fun r s₂ hr => ?_
  cases hr with
  | restored routed => exact consistent_sendAgain routed nofun
  | standIn routed cause =>
    exact consistent_sendAgain routed fun _ he => Option.some.inj he ▸ cause
  | @failed e cause =>
    exact Job.meets_pure (Report.consistent_raising nofun fun _ => ⟨e, rfl, cause⟩)

/-- Whichever session is said to have failed, whatever the command and however the servers behave, a
failover that nobody interrupts reports an answer if and only if its caller need not raise anything,
and then the connection is back. If it is back, an open session is in the slot routed to, and if it
is not, the cause is an election that found nothing, or that the connection is closed for good. -/
theorem report_holds_together (h : Reachable d s) {vs : List (Visit σ)} {report : Report}
    (course : Course Drift (failOver d n cmd) s vs (some report) s') :
    report.Consistent cmd s'.connection ∧ (report.reconnected = true → ∃ r slot,
      s'.connection.current = some r ∧ s'.connection.slot? r = some slot ∧
        s'.world.Holds r slot) := by
  have hconsistent : report.Consistent cmd s'.connection :=
    consistent_failOver h.atRest.settled _ _ _ course
  refine ⟨hconsistent, ?_⟩
  intro hback
  have hend := ((course.mono fun _ _ hm => hm.meanwhile (d := d)).atRest
    (all_failOver n cmd) h.atRest rfl).1
  obtain ⟨slot, hslot⟩ := Option.isSome_iff_exists.1 (hconsistent.routed hback)
  obtain ⟨r, hcurrent, hr⟩ := Option.bind_eq_some_iff.1 hslot
  exact ⟨r, slot, hcurrent, hr, hend.settled.holds r slot hr⟩

end Reports

/-- The master is gone for good, and the replica that stands in for it answers the read. -/
theorem report_holds_together_of_read : ∃ (s s' : Scene Script) (vs : List (Visit Script))
    (report : Report), Reachable pair s ∧
      Course Drift (failOver pair 1 (some (.query "SELECT 1"))) s vs (some report) s' ∧
      report.result.isSome = true ∧ s'.connection.master = none ∧
      report.Consistent (some (.query "SELECT 1")) s'.connection ∧
      (report.reconnected = true → ∃ r slot, s'.connection.current = some r ∧
        s'.connection.slot? r = some slot ∧ s'.world.Holds r slot) := by
  have hx : severed.yields { servers := {} } (fun c w =>
      ((failOver pair 1 (some (.query "SELECT 1"))).run c).yields w fun x _ =>
        x.1.result.isSome && x.2.master.isNone) = true := by
    decide +kernel
  obtain ⟨c, w, hy, hx⟩ := exists_of_yields hx
  obtain ⟨⟨report, c'⟩, w', hrun, hx⟩ := exists_of_yields hx
  obtain ⟨hanswered, hlost⟩ := Bool.and_eq_true_iff.1 hx
  have course := Course.of_run Drift.refl hrun []
  have h := reachable_severed hy
  obtain ⟨hconsistent, hrouted⟩ := report_holds_together h course
  exact ⟨_, _, _, report, h, course, hanswered, Option.isNone_iff_eq_none.1 hlost, hconsistent,
    hrouted⟩

end Failover
