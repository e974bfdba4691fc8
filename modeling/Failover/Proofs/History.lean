import Failover.Proofs.SharedRecovery

/-!
# Histories

A history tells of each section that was run what it was about, and how it found the connection and
left it (`Moment`). Every scene to which a connection can come has one (`Reachable.history`). From
it the reads are counted that have passed the hook since the present fallback began or a master was
looked for (`readsOnFallback`). The count that the connection keeps is not started afresh by a
fallback: it exceeds that number by what it held when the fallback began (`History.fallbackReads`).
-/

namespace Failover

open Act World

variable {σ : Type}

/-- What a section is about, as far as tries for the master are concerned. -/
inductive Turn
  /-- A command is admitted. -/
  | hook (cmd : Command)
  /-- The master is looked for while it is down. -/
  | retry
  | reconnect
  | other

section Turns

variable [Cluster σ]

inductive Turn.Of (d : Deployment) : Turn → (β : Type) → Section σ β → Prop
  | assess (cmd : Command) : Of d (.hook cmd) _ (assess d cmd)
  | seekMaster : Of d .retry _ (seekMaster d)
  | tryMaster : Of d .retry _ (tryMaster d)
  | reconnect : Of d .reconnect _ (Failover.reconnect d)
  | establish : Of d .other _ (establish d)
  | switchMode (readOnly : Bool) : Of d .other _ (switchMode d readOnly)
  | close : Of d .other Unit fun c => do return ((), ← close c)
  | recover (failed : SessionId) (inTransaction : Bool) :
      Of d .other _ (recover d failed inTransaction)
  | remember (database : String) : Of d .other Unit (remember database)
  | unchanged {β : Type} (act : Connection → Act σ β) : Of d .other β (Job.unchanged act)

theorem Part.turn {d : Deployment} {may : Command → Prop} {β : Type} {act : Section σ β}
    (h : Part d may β act) : ∃ t, Turn.Of d t β act := by
  cases h with
  | upkept h =>
    cases h with
    | assess cmd => exact ⟨_, .assess cmd⟩
    | establish => exact ⟨_, .establish⟩
    | reconnect => exact ⟨_, .reconnect⟩
    | seekMaster => exact ⟨_, .seekMaster⟩
    | tryMaster => exact ⟨_, .tryMaster⟩
    | switchMode b => exact ⟨_, .switchMode b⟩
    | close => exact ⟨_, .close⟩
    | recover n b => exact ⟨_, .recover n b⟩
    | reads _ _ => exact ⟨_, .unchanged _⟩
  | remember database _ => exact ⟨_, .remember database⟩
  | dispatch _ _ _ => exact ⟨_, .unchanged _⟩
  | dispatchAll cmds _ => exact ⟨_, .unchanged _⟩

end Turns

/-- A section that was run, with the connection that it found and the one that it left. -/
structure Moment where
  turn : Turn
  before : Connection
  after : Connection

/-- The moments that lead from one scene to another, the last one first. -/
inductive History [Cluster σ] (d : Deployment) (s₀ : Scene σ) : List Moment → Scene σ → Prop
  | refl : History d s₀ [] s₀
  | call {ms : List Moment} {s : Scene σ} (h : History d s₀ ms s) (k : Call) :
      History d s₀ ms { s with tasks := s.tasks ++ [k.task d] }
  | advance {ms : List Moment} {s : Scene σ} (h : History d s₀ ms s) {t : Turn}
      {before after : List (Task σ)} {α β : Type} {act : Section σ β} {next : β → Job σ α} {b : β}
      {c : Connection} {w : World σ} (turn : s.tasks = before ++ ⟨α, .step act next⟩ :: after)
      (about : t.Of d β act) (comes : act s.connection s.world = (some (b, c), w)) :
      History d s₀ (⟨t, s.connection, c⟩ :: ms) ⟨c, w, before ++ ⟨α, next b⟩ :: after⟩
  | leave {ms : List Moment} {s : Scene σ} (h : History d s₀ ms s) {before after : List (Task σ)}
      {t : Task σ} (gone : s.tasks = before ++ t :: after) :
      History d s₀ ms { s with tasks := before ++ after }
  | drift {ms : List Moment} {s : Scene σ} (h : History d s₀ ms s) (servers : σ) (now : Nat)
      (blacklist : Blacklist) :
      History d s₀ ms { s with world := { s.world with servers, now, blacklist } }

section Histories

variable [Cluster σ] {d : Deployment} {s₀ s s' : Scene σ} {ms ms' : List Moment}

theorem History.reachable (h : History d s₀ ms s) (h₀ : Reachable d s₀) : Reachable d s := by
  induction h with
  | refl => exact h₀
  | call _ k ih => exact ih.step (.call _ k)
  | advance _ turn _ comes ih => exact ih.step (.advance turn comes)
  | leave _ gone ih => exact ih.step (.leave gone)
  | drift _ servers now blacklist ih => exact ih.step (.drift _ servers now blacklist)

theorem History.trans (h : History d s₀ ms s) (h' : History d s ms' s') :
    History d s₀ (ms' ++ ms) s' := by
  induction h' with
  | refl => exact h
  | call _ k ih => exact ih.call k
  | advance _ turn about comes ih => exact ih.advance turn about comes
  | leave _ gone ih => exact ih.leave gone
  | drift _ servers now blacklist ih => exact ih.drift servers now blacklist

theorem Reachable.history (h : Reachable d s) : ∃ servers now blacklist ms,
    History d ⟨.new d.hasReplicas, { servers, now, blacklist }, []⟩ ms s := by
  induction h with
  | start servers now blacklist => exact ⟨servers, now, blacklist, [], .refl⟩
  | step h hs ih =>
    obtain ⟨servers, now, blacklist, ms, hms⟩ := ih
    refine ⟨servers, now, blacklist, ?_⟩
    cases hs with
    | call k => exact ⟨ms, hms.call k⟩
    | advance turn comes =>
      obtain ⟨t, about⟩ := (Scene.head_of_turn h.parts turn).turn
      exact ⟨_, hms.advance turn about comes⟩
    | leave gone => exact ⟨ms, hms.leave gone⟩
    | drift servers now blacklist => exact ⟨ms, hms.drift servers now blacklist⟩

/-- The first section of a call, with the call given up after it. -/
theorem History.visit (h : History d s₀ ms s) (k : Call) {t : Turn} {α β : Type}
    {act : Section σ β} {next : β → Job σ α} {b : β} {c : Connection} {w : World σ}
    (hk : k.task d = ⟨α, .step act next⟩) (about : t.Of d β act)
    (comes : act s.connection s.world = (some (b, c), w)) :
    History d s₀ (⟨t, s.connection, c⟩ :: ms) ⟨c, w, s.tasks⟩ := by
  have hcall := h.call k
  rw [hk] at hcall
  have hgone := (hcall.advance rfl about comes).leave rfl
  rwa [List.append_nil] at hgone

end Histories

/-! ## Counting the reads -/

namespace Moment

/-- A command that needs no master has passed the hook while a replica stood in. -/
def counts (m : Moment) : Bool :=
  match m.turn with
  | .hook cmd => m.before.isFallback && !cmd.isWrite
  | _ => false

/-- The master was looked for, or everything was given up to begin anew. -/
def renews (m : Moment) : Bool :=
  match m.turn with
  | .retry => m.before.masterDown
  | .reconnect => !m.before.closed
  | _ => false

/-- A replica has begun to stand in. -/
def begins (m : Moment) : Bool := m.after.isFallback && !m.before.isFallback

/-- What becomes of the count that the connection keeps. -/
def Tallies (m : Moment) : Prop :=
  m.after.fallbackReads = if m.renews then 0 else m.before.fallbackReads + m.counts.toNat

end Moment

/-- The reads that have passed the hook since the fallback began or the master was looked for,
whichever was later. -/
def readsOnFallback : List Moment → Nat
  | [] => 0
  | m :: past => if m.renews || m.begins then 0 else readsOnFallback past + m.counts.toNat

/-- What the count of the connection held when the fallback began, unless it was started afresh
since. -/
def carriedOver : List Moment → Nat
  | [] => 0
  | m :: past =>
    if m.renews then 0 else if m.begins then m.after.fallbackReads else carriedOver past

section Counter

variable {d : Deployment} {c : Connection} {w : World σ} {n : Nat}

theorem kept_fallbackReads : Kept d fun c _ (_ : World σ) => c.fallbackReads = n where
  attempt := by
    intro e e' w w' _ h ha
    cases ha with
    | unbound hc _ _ => rwa [hc]
    | bound r s _ _ hc _ _ _ => rwa [hc, Connection.fallbackReads_fill]
  beside h _ := h

theorem keptByRecheck_fallbackReads :
    KeptByRecheck d fun c _ (_ : World σ) => c.fallbackReads = n := by
  intro c c' g g' w w' _ h hr
  cases hr with
  | same _ _ => exact h
  | promoted s x _ _ _ _ _ => rwa [Connection.fallbackReads_promote]

variable [Cluster σ]

theorem meets_electAndRoute_tally {g : Goal} (hs : Sound d c w) (hn : c.fallbackReads = n)
    (hg : g.isEnough = false) (hrep : g.wantsReplica = true → c.hasReplicas = true) :
    (electAndRoute d c g).Meets w (fun x w' => Settled d x.2 w' ∧ Elected c g x.1 x.2 ∧
      x.2.fallbackReads = n) fun _ => True := by
  refine (meets_election kept_fallbackReads.upheld (.inr keptByRecheck_fallbackReads.upheld) hs hn
    hg hrep).mono ?_ fun _ h => h
  rintro ⟨outcome, _⟩ w' ⟨hs', he, c', g', rfl, hn'⟩
  exact ⟨hs', he, by rwa [Connection.fallbackReads_route]⟩

theorem meets_electRoles_tally (hs : Settled d c w) (hn : c.fallbackReads = n) :
    (electRoles d c).Meets w (fun x _ => x.2.fallbackReads = n) fun _ => True := by
  refine meets_electRoles_of (A := fun c' w' => Settled d c' w' ∧ c'.fallbackReads = n)
    ?_ (fun _ => ⟨hs, hn⟩) (fun c' w' h _ => h.2) ?_
  · intro hrep
    refine (meets_electAndRoute_tally hs.toSound hn rfl fun _ => hrep).mono ?_ fun _ h => h
    rintro x w' ⟨hs', -, hn'⟩
    exact ⟨hs', hn'⟩
  · intro c' w' h _
    exact (meets_electAndRoute_tally h.1.toSound h.2 rfl fun h => by cases h).mono
      (fun _ _ h _ _ => h.2.2) fun _ h => h

theorem meets_seekMaster_tally (hs : Settled d c w) : (seekMaster d c).Meets w
    (fun x _ => (⟨.retry, c, x.2⟩ : Moment).Tallies) fun _ => True := by
  refine meets_seekMaster_of ?_ ?_
  · intro up
    simp [Moment.Tallies, Moment.renews, Moment.counts, up]
  · intro down
    have hs' : Settled d { c with fallbackReads := 0 } w := hs.of_shape rfl
    refine (meets_electAndRoute_tally (n := 0) hs'.toSound rfl rfl fun h => by cases h).mono
      (fun x _ h answer failure => ?_) fun _ h => h
    simpa [Moment.Tallies, Moment.renews, down] using h.2.2

theorem meets_reconnect_tally (hs : Settled d c w) : (reconnect d c).Meets w
    (fun x _ => (⟨.reconnect, c, x.2⟩ : Moment).Tallies) fun _ => True := by
  unfold reconnect
  split
  next closed =>
    exact meets_pure (by simp [Moment.Tallies, Moment.renews, Moment.counts, closed])
  next isOpen =>
    have hclosed := (upkeep_quiet w).closeSessions c.closed hs.toSound (Quiet.refl w)
    refine meets_bind (hclosed.mono (fun _ _ h => h) fun _ _ => trivial) ?_
    rintro _ w₁ ⟨rfl, hs₁, -⟩
    refine (meets_electRoles_tally (c := { c.withoutSessions with fallbackReads := 0 }) (n := 0)
      (hs₁.of_shape rfl) rfl).mono ?_ fun _ h => h
    intro x _ h
    simpa [Moment.Tallies, Moment.renews, isOpen] using h

theorem meets_switchMode_tally {readOnly : Bool} (hs : Settled d c w) :
    (switchMode d readOnly c).Meets w (fun x _ => x.2.fallbackReads = c.fallbackReads)
      fun _ => True := by
  unfold switchMode
  split
  · exact meets_pure rfl
  refine meets_bind_harmless (harmless_isHeldBack readOnly c) fun held w₁ h₁ => ?_
  split
  · exact meets_pure rfl
  refine meets_enterMode_of (hs.beside h₁.beside) (fun _ _ => rfl) ?_ ?_
  · intro _ _ hrep hs'
    exact (meets_electAndRoute_tally hs'.toSound rfl rfl fun _ => hrep).mono
      (fun _ _ h _ _ => h.2.2) fun _ h => h
  · intro _ _ hs'
    exact (meets_electAndRoute_tally hs'.toSound rfl rfl fun h => by cases h).mono
      (fun _ _ h _ => h.2.2) fun _ h => h

theorem meets_recoverMaster_tally {inTransaction : Bool} (hs : Settled d c w) :
    (recoverMaster d inTransaction c).Meets w (fun x _ => x.2.fallbackReads = c.fallbackReads)
      fun _ => True := by
  have still {c' : Connection} {u v : World σ} (h : c'.fallbackReads = c.fallbackReads)
    (_ : u.Still v) : c'.fallbackReads = c.fallbackReads := h
  refine (meets_recoverMaster_keeps (A := fun _ => True)
    (B := fun _ x _ => x.1.fallbackReads = c.fallbackReads) hs.toSound @still
    (meets_abandon_known hs.orderly fun _ _ => trivial)
    (fun now w₁ _ hs₁ => ?_) (fun _ _ _ h => h)
    fun now w₁ hb hs₁ => meets_electAndRoute_tally hs₁ hb rfl fun h => by cases h).mono
      (fun _ _ h => h.2) fun _ h => h
  exact (meets_recheckReplica hs₁).mono
    (fun _ _ hr => keptByRecheck_fallbackReads hs₁ rfl hr) fun _ _ => trivial

theorem meets_recoverReplica_tally (hs : Settled d c w) (hrep : c.replica.isSome = true) :
    (recoverReplica d c).Meets w (fun x _ => x.2.fallbackReads = c.fallbackReads)
      fun _ => True := by
  have hwanted : c.hasReplicas = true := hs.coherent.replica hrep
  have still {c' : Connection} {u v : World σ} (h : c'.fallbackReads = c.fallbackReads)
    (_ : u.Still v) : c'.fallbackReads = c.fallbackReads := h
  exact (meets_recoverReplica_keeps (A := fun _ => True) hs.toSound @still hrep
    (meets_abandon_known hs.orderly fun _ _ => trivial)
    (fun w₁ _ hs₁ => meets_electAndRoute_tally hs₁ rfl rfl fun _ => hwanted)
    fun w₁ _ hs₁ _ => meets_electAndRoute_tally hs₁ rfl rfl fun _ => hwanted).mono
      (fun _ _ h => h.2) fun _ h => h

theorem meets_recover_tally {failed : SessionId} {inTransaction : Bool} (hs : Settled d c w) :
    (recover d failed inTransaction c).Meets w (fun x _ => x.2.fallbackReads = c.fallbackReads)
      fun _ => True := by
  unfold recover
  split
  · exact meets_pure rfl
  cases hr : c.roleOf failed with
  | none =>
    dsimp only
    split
    · exact meets_bind_harmless (harmless_log _ _) fun _ _ _ => meets_pure rfl
    · exact meets_recoverMaster_tally hs
  | some r =>
    cases r with
    | master => exact meets_recoverMaster_tally hs
    | replica =>
      obtain ⟨s, hslot, -⟩ := Connection.slot_of_roleOf hr
      exact meets_recoverReplica_tally hs (Option.isSome_iff_exists.2 ⟨s, hslot⟩)

theorem meets_close_tally (hs : Settled d c w) : (close c).Meets w
    (fun c' _ => c'.fallbackReads = c.fallbackReads) fun _ => True := by
  unfold close
  split
  · exact meets_pure rfl
  have hclosed := (upkeep_quiet w).closeSessions true hs.toSound (Quiet.refl w)
  refine meets_bind (hclosed.mono (fun _ _ h => h) fun _ _ => trivial) ?_
  rintro _ w₁ ⟨rfl, -, -⟩
  exact meets_bind_harmless (harmless_log _ _) fun _ _ _ => meets_pure rfl

theorem meets_establish_tally (hs : Settled d c w) : (establish d c).Meets w
    (fun x _ => x.2.fallbackReads = c.fallbackReads) fun _ => True := by
  unfold establish
  refine meets_bind (meets_electRoles_tally hs rfl) ?_
  rintro ⟨outcome, c'⟩ w' h
  dsimp only
  split
  · exact meets_bind_harmless (harmless_log _ _) fun _ _ _ => meets_pure h
  · exact meets_pure h

omit [Cluster σ] in
/-- A read on a replica that stands in is counted, and no other command. -/
theorem admission_snd (cmd : Command) (now : Nat)
    (isOpen : c.isFallback = true → c.closed = false) :
    (admission d cmd now c).2 = if c.isFallback && !cmd.isWrite then
      { c with fallbackReads := c.fallbackReads + 1 } else c := by
  unfold admission
  cases hclosed : c.closed with
  | true =>
    have hno : c.isFallback = false := by
      rw [← Bool.not_eq_true]
      intro h
      cases hclosed.symm.trans (isOpen h)
    rw [hno]
    rfl
  | false =>
    simp only [Bool.false_eq_true, if_false]
    cases c.isFallback && !cmd.isWrite <;> simp only [Bool.false_eq_true, if_false, if_true] <;>
      split <;> split_ifs <;> rfl

omit [Cluster σ] in
theorem admission_tally (cmd : Command) (now : Nat)
    (isOpen : c.isFallback = true → c.closed = false) :
    (⟨.hook cmd, c, (admission d cmd now c).2⟩ : Moment).Tallies := by
  rw [admission_snd cmd now isOpen]
  unfold Moment.Tallies Moment.renews Moment.counts
  cases hread : c.isFallback && !cmd.isWrite <;> simp [hread]

/-- What each section does to the count. -/
theorem Turn.Of.meets {t : Turn} {β : Type} {act : Section σ β} (about : t.Of d β act)
    (hs : Settled d c w) (isOpen : c.isFallback = true → c.closed = false) :
    (act c).Meets w (fun x _ => (⟨t, c, x.2⟩ : Moment).Tallies) fun _ => True := by
  have same {x : β × Connection} (h : x.2.fallbackReads = c.fallbackReads) :
      (⟨.other, c, x.2⟩ : Moment).Tallies := by
    simpa [Moment.Tallies, Moment.renews, Moment.counts] using h
  cases about with
  | assess cmd =>
    have hassess : (Failover.assess d cmd c).Meets w
        (fun x w' => x = admission d cmd w.now c ∧ w.Still w') fun _ => True := meets_assess
    refine hassess.mono ?_ fun _ h => h
    intro x _ h
    rw [h.1]
    exact admission_tally cmd w.now isOpen
  | seekMaster => exact meets_seekMaster_tally hs
  | tryMaster =>
    exact meets_tryMaster_of ((meets_seekMaster_tally hs).mono (fun _ _ h _ _ => h) fun _ h => h)
  | reconnect => exact meets_reconnect_tally hs
  | establish => exact (meets_establish_tally hs).mono (fun _ _ h => same h) fun _ h => h
  | switchMode b => exact (meets_switchMode_tally hs).mono (fun _ _ h => same h) fun _ h => h
  | close => exact meets_bind (meets_close_tally hs) fun _ _ h => meets_pure (same h)
  | recover n b => exact (meets_recover_tally hs).mono (fun _ _ h => same h) fun _ h => h
  | remember database => exact meets_pure (same rfl)
  | unchanged act =>
    exact meets_bind (m := fun _ _ => True) (meets_of_forall (fun _ _ => trivial) fun _ => trivial)
      fun _ _ _ => meets_pure (same rfl)

/-- A replica stands in only for a connection that is in use. -/
theorem Reachable.isOpen_of_isFallback {s : Scene σ} (h : Reachable d s)
    (hfall : s.connection.isFallback = true) : s.connection.closed = false := by
  have hrest := h.atRest.settled.rest
  obtain ⟨hcurrent, -, -⟩ := Connection.fallback_iff.1 hfall
  cases hrep : s.connection.replica with
  | some slot => exact h.isOpen (r := .replica) hrep
  | none =>
    rw [hcurrent, Connection.target, hrep] at hrest
    split_ifs at hrest with hno <;> cases hrest
    cases hno

/-- The connection counts what it held when the fallback began, and the reads since. -/
theorem History.fallbackReads {s₀ s : Scene σ} {ms : List Moment} (h : History d s₀ ms s)
    (h₀ : Reachable d s₀) (hzero : s₀.connection.fallbackReads = 0) :
    s.connection.fallbackReads = carriedOver ms + readsOnFallback ms := by
  induction h with
  | refl => exact hzero
  | call _ k ih => exact ih
  | @advance ms s h t before after α β act next b c w turn about comes ih =>
    have hs := h.reachable h₀
    have htally : (⟨t, s.connection, c⟩ : Moment).Tallies :=
      (about.meets hs.atRest.settled hs.isOpen_of_isFallback).value comes
    unfold Moment.Tallies at htally
    rw [ih] at htally
    unfold carriedOver readsOnFallback
    change c.fallbackReads = _
    cases hrenews : Moment.renews ⟨t, s.connection, c⟩ with
    | true => simpa [hrenews] using htally
    | false =>
      cases hbegins : Moment.begins ⟨t, s.connection, c⟩ with
      | true => simp
      | false => simpa [hrenews, Nat.add_assoc] using htally
  | leave _ gone ih => exact ih
  | drift _ servers now blacklist ih => exact ih

end Counter

end Failover
