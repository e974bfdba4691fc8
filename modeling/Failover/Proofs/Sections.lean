import Failover.Proofs.Running
import Failover.Proofs.Upkeep

/-!
# What a section leaves behind

A section that finds the connection at rest leaves it at rest. The sections in which commands are
handed to sessions do not move the connection, and hold a write back from all sessions but those
of a master and those the mode allows (`Lawful`); in all others no command is handed over at all
(`Calm`).
-/

namespace Failover

open Act World

variable {σ : Type}

/-- Every write that was handed to a session since `w` was either allowed by the mode, or the last
verdict on that session was that it is a master's. -/
def Guarded (c : Connection) (w w' : World σ) : Prop :=
  ∀ t n cmd past, ⟨t, .ran n cmd⟩ :: past <:+ w'.journal → w.journal <:+ past →
    cmd.isWrite = true → c.readOnly = true ∨ latestVerdict n past = some (.role .master)

section Guarded

variable {d : Deployment} {c : Connection} {w w' : World σ} {h : Handle} {cmds : List Command}
  {n : SessionId}

theorem guarded_of_quiet (hw : w.Quiet w') : Guarded c w w' := by
  intro t n cmd past hrun hpast _
  cases (hw.adds.entry hrun hpast).1

theorem Work.guarded (hk : Work h.session cmds w w') (hw : w.Orderly) (hr : Routed c cmds w h) :
    Guarded c w w' := by
  intro t n cmd past hrun hpast hwrite
  obtain ⟨hwork, new, rfl, hnew⟩ := hk.adds.entry hrun hpast
  obtain ⟨rfl, hmem⟩ := hwork.of_ran
  rcases hr.allowed with hro | hm | hreads
  · exact .inl hro
  · right
    rw [latestVerdict_append fun e he => (hnew e he).verdictOn _]
    exact hw.trusted _ h hr.known hm
  · exact absurd hwrite (by simp [hreads cmd hmem])

theorem Work.orderly (hk : Work n cmds w w') (hw : w.Orderly) : w'.Orderly := by
  have before (m : SessionId) (x : Handle) (hx : w'.handles.get? m = some x) :
      ∃ y, w.handles.get? m = some y ∧ x.role = y.role := by
    by_cases hm : m = n
    · obtain ⟨b, hb⟩ := hk.own
      rw [hm, hb] at hx
      obtain ⟨y, hy, rfl⟩ := Option.map_eq_some_iff.1 hx
      exact ⟨y, hm ▸ hy, rfl⟩
    · exact ⟨x, (hk.handle m hm).symm.trans hx, rfl⟩
  refine ⟨?_, ?_⟩
  · intro m x hx
    obtain ⟨y, hy, -⟩ := before m x hx
    exact (hw.known m y hy).trans hk.opened
  · intro m x hx hr
    obtain ⟨y, hy, hxy⟩ := before m x hx
    rw [(hk.adds.mono fun _ he => he.verdictOn m).latestVerdict]
    exact hw.trusted m y hy (hxy ▸ hr)

theorem Work.holds (hk : Work n cmds w w') {r : Role} {s : Slot} (hs : w.Holds r s) :
    w'.Holds r s := by
  obtain ⟨x, hx, hp⟩ := hs
  by_cases hm : s.session = n
  · obtain ⟨b, hb⟩ := hk.own
    rw [← hm, hx] at hb
    exact ⟨_, hb, hp⟩
  · exact ⟨x, (hk.handle _ hm).trans hx, hp⟩

/-- Work on sessions is no matter of the slots. -/
theorem Settled.work (h : Settled d c w) (hk : Work n cmds w w') : Settled d c w' where
  orderly := hk.orderly h.orderly
  topology := h.topology
  coherent := h.coherent
  holds r s hs := hk.holds (h.holds r s hs)
  rest := h.rest

theorem Work.lawful (hs : Settled d c w) (hr : Routed c cmds w h)
    (hk : Work h.session cmds w w') : Settled d c w' ∧ Guarded c w w' ∧ w.Keeps w' :=
  ⟨hs.work hk, hk.guarded hs.orderly hr, hk.keeps⟩

end Guarded

variable {β : Type}

/-- A section that leaves the connection at rest, guards the writes and keeps all handles. -/
def Lawful (d : Deployment) (β : Type) (act : Section σ β) : Prop :=
  ∀ c w, Settled d c w →
    (act c).Meets w (fun x w' => Settled d x.2 w' ∧ Guarded c w w' ∧ w.Keeps w') (Guarded c w)

/-- A section that leaves the connection at rest and hands over no command. -/
def Calm (d : Deployment) (β : Type) (act : Section σ β) : Prop :=
  ∀ c w, Settled d c w → (act c).Meets w (fun x w' => Settled d x.2 w' ∧ w.Quiet w') w.Quiet

theorem Calm.lawful {d : Deployment} {act : Section σ β} (h : Calm d β act) : Lawful d β act := by
  intro c w hs
  refine (h c w hs).mono ?_ fun _ hw => guarded_of_quiet hw
  rintro x w' ⟨hs', hw⟩
  exact ⟨hs', guarded_of_quiet hw, hw.keeps⟩

theorem calm_unchanged {d : Deployment} {act : Connection → Act σ β}
    (h : ∀ c, (act c).Always Beside) : Calm d _ (Job.unchanged act) := by
  intro c w hs
  refine meets_bind_beside (h c) (Quiet.refl w) fun b w₁ h₁ => ?_
  exact meets_pure ⟨hs.beside h₁, h₁.quiet⟩

theorem calm_remember {d : Deployment} (database : String) :
    Calm d _ (remember database : Section σ _) :=
  fun _ w hs => meets_pure ⟨hs.of_shape rfl, Quiet.refl w⟩

section Calm

variable [Cluster σ] {d : Deployment} {c : Connection} {w : World σ}

omit [Cluster σ] in
theorem Attempt.quiet {e e' : Election} {w' : World σ} (ha : Attempt e w e' w') : w.Quiet w' := by
  cases ha with
  | unbound _ _ ho => exact ho.quiet
  | bound _ _ _ _ _ _ _ ho => exact ho.quiet

omit [Cluster σ] in
theorem Recheck.quiet {c' : Connection} {g g' : Goal} {w' : World σ}
    (hr : Recheck c g w c' g' w') : w.Quiet w' := by
  cases hr with
  | same _ ho => exact ho.quiet
  | promoted _ _ _ _ _ _ ho => exact ho.quiet

/-- No section but those that dispatch hands over a command. -/
theorem upkeep_quiet (u : World σ) : Upkeep d (fun _ w => u.Quiet w) u.Quiet where
  tries _ hs ho hu := (meets_tryHost hs ho).mono (fun _ _ h => hu.trans h.quiet)
    fun _ h => hu.trans h
  rechecks hs hu := (meets_recheckReplica hs).mono (fun _ _ h => hu.trans h.quiet)
    fun _ h => hu.trans h
  closes hw hu := (meets_closeSession hw).mono (fun _ _ h => hu.trans h.quiet) fun _ h => h
  still hu hw := hu.trans hw.beside.quiet
  fewer hu _ := hu

omit [Cluster σ] in
theorem Maintains.calm {act : Section σ β}
    (h : ∀ u : World σ, Maintains d (fun _ w => u.Quiet w) u.Quiet β act) : Calm d β act :=
  fun c w hs => h w c w hs (Quiet.refl w)

theorem calm_assess (cmd : Command) : Calm d _ (assess d cmd : Section σ _) :=
  Maintains.calm fun u => (upkeep_quiet u).assess cmd

theorem calm_recover (failed : SessionId) (inTransaction : Bool) :
    Calm d _ (recover d failed inTransaction : Section σ _) :=
  Maintains.calm fun u => (upkeep_quiet u).recover failed inTransaction

/-- What a search for the master leaves aside: the mode, the replica's slot and all handles. -/
structure Sought (d : Deployment) (c : Connection) (w : World σ) (c' : Connection)
    (w' : World σ) : Prop where
  settled : Settled d c' w'
  readOnly : c'.readOnly = c.readOnly
  replica : c'.replica = c.replica
  onward : w.Onward ∅ w'

theorem meets_seekMaster (hs : Settled d c w) :
    (seekMaster d c).Meets w (fun x w' => Sought d c w x.2 w') w.Quiet := by
  refine meets_seekMaster_of (fun _ => ⟨hs, rfl, rfl, Onward.refl w⟩) fun hdown => ?_
  have hmaster : c.master = none := hs.coherent.master_eq_none hdown
  have hs' : Settled d { c with fallbackReads := 0 } w := hs.of_shape rfl
  have helected := (upkeep_quiet w).elected (g := Goal.masterOnly.inOnePass) hs'.toSound
    (Quiet.refl w) rfl fun h => by cases h
  refine (helected.and (meets_masterInOnePass hs'.toSound hmaster)).mono ?_ fun _ h => h.1
  intro x w' h answer failure
  obtain ⟨⟨hs₁, he, -⟩, hrep, ho⟩ := h
  exact ⟨hs₁.of_shape rfl, he.readOnly, hrep, ho⟩

theorem meets_tryMaster (hs : Settled d c w) :
    (tryMaster d c).Meets w (fun x w' => Sought d c w x.2 w') w.Quiet := by
  refine meets_tryMaster_of ((meets_seekMaster hs).mono ?_ fun _ h => h)
  intro x w' h w'' hw
  exact ⟨h.settled.beside hw.beside, h.readOnly, h.replica, h.onward.beside hw.beside⟩

end Calm

section Dispatch

/-! ## The sections that hand over commands -/

variable [Cluster σ] {d : Deployment} {c : Connection} {w : World σ}

/-- Sending a command to the session that is routed to, whatever is logged on the way. -/
def Dispatches (cmd : Command)
    (act : Connection → Act σ (Except Error (SessionId × Except Error QueryResult))) : Prop :=
  ∀ c w, (act c).Meets w (Dispatched c cmd w)
    fun w' => ∃ h, Routed c [cmd] w h ∧ Ran h cmd .silence w w'

theorem dispatches_dispatch (cmd : Command) : Dispatches (σ := σ) cmd (dispatch cmd) :=
  fun _ _ => meets_dispatch

theorem dispatches_redispatch (cmd : Command) : Dispatches (σ := σ) cmd (redispatch cmd) := by
  intro c w
  unfold redispatch
  refine meets_bind (m := fun _ w' => w' = _) (meets_change rfl) fun _ w₁ h₁ => ?_
  subst h₁
  refine meets_dispatch.mono ?_ ?_
  · intro x w' h
    cases h with
    | unsent e hw => exact .unsent e ⟨hw.servers, hw.opened, hw.handles, hw.journal⟩
    | sent h wait result hr hran =>
      exact .sent h wait result ⟨hr.slot, hr.allowed⟩ ⟨hran.opened, hran.journal, hran.handles⟩
  · rintro w' ⟨h, hr, hran⟩
    exact ⟨h, ⟨hr.slot, hr.allowed⟩, ⟨hran.opened, hran.journal, hran.handles⟩⟩

theorem Dispatches.lawful {cmd : Command}
    {act : Connection → Act σ (Except Error (SessionId × Except Error QueryResult))}
    (ha : Dispatches cmd act) : Lawful d _ (Job.unchanged act) := by
  intro c w hs
  have work {h : Handle} {reply : Reply} {w' : World σ} (hr : Routed c [cmd] w h)
      (hran : Ran h cmd reply w w') : Work h.session [cmd] w w' :=
    hran.work hr.known (List.mem_singleton_self cmd)
  refine meets_bind ((ha c w).mono (fun _ _ h => h) ?_) fun x w' h => ?_
  · rintro w' ⟨h, hr, hran⟩
    exact (work hr hran).guarded hs.orderly hr
  · cases h with
    | unsent e hw =>
      have hq := hw.beside.quiet
      exact meets_pure ⟨hs.beside hw.beside, guarded_of_quiet hq, hq.keeps⟩
    | sent h wait result hr hran => exact meets_pure ((work hr hran).lawful hs hr)

theorem lawful_dispatchAll (cmds : List Command) :
    Lawful d _ (Job.unchanged (dispatchAll cmds) : Section σ _) := by
  intro c w hs
  refine meets_bind (meets_dispatchAll.mono (fun _ _ h => h) ?_) fun x w' h => ?_
  · rintro w' ⟨h, hr, hk⟩
    exact hk.guarded hs.orderly hr
  · cases h with
    | unsent e hw =>
      have hq := hw.beside.quiet
      exact meets_pure ⟨hs.beside hw.beside, guarded_of_quiet hq, hq.keeps⟩
    | sent h results hr hk => exact meets_pure (hk.lawful hs hr)

end Dispatch

end Failover
