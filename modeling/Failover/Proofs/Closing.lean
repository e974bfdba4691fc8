import Failover.Proofs.SharedRecovery

/-!
# Closing for good

A connection that was closed has no session and no section finds it one: elections give up at once,
there is nowhere to send a command, and a recovery has nothing to recover for. So every section ends
without doing anything to the servers (`Part.refuses`), and what is asked of the connection later
comes to a refusal, as does what was asked before and had no answer yet (`close_is_final`).
-/

namespace Failover

open Act World

variable {σ : Type}

/-- At rest, closed for good, and with no session left. -/
structure Finished (d : Deployment) (c : Connection) (w : World σ) : Prop
    extends Settled d c w where
  closed : c.closed = true
  vacant : ∀ r, c.slot? r = none

section Finished

variable {d : Deployment} {c c' : Connection} {w w' : World σ}

theorem Finished.of_shape (h : Finished d c w) (hc : c.shape = c'.shape) : Finished d c' w where
  toSettled := h.toSettled.of_shape hc
  closed := by
    have hx : c.shape.closed = c'.shape.closed := by rw [hc]
    exact hx.symm.trans h.closed
  vacant r := (Connection.slot_of_shape hc r).symm.trans (h.vacant r)

theorem Finished.still [Cluster σ] (h : Finished d c w) (hw : w.Still w') : Finished d c w' :=
  ⟨h.toSettled.beside hw.beside, h.closed, h.vacant⟩

theorem Finished.target (h : Finished d c w) : c.target = none := by
  have hm : c.master = none := h.vacant .master
  have hr : c.replica = none := h.vacant .replica
  simp [Connection.target, hm, hr]

theorem Finished.currentSlot (h : Finished d c w) : c.currentSlot = none := by
  simp [Connection.currentSlot, h.rest, h.target]

theorem Finished.masterDown (h : Finished d c w) : c.masterDown = true := by
  rw [h.coherent.masterDown, show c.master = none from h.vacant .master]
  rfl

/-- With no session there is no route to be found. -/
theorem Finished.route (h : Finished d c w) : c.route = c := by
  have hcur : c.current = none := h.rest.trans h.target
  have hm : c.masterAvailable = false := by
    rw [h.coherent.masterAvailable, show c.master = none from h.vacant .master]
    rfl
  have hr : c.replicaAvailable = false := by
    rw [h.coherent.replicaAvailable, show c.replica = none from h.vacant .replica]
    rfl
  unfold Connection.route
  simp only [h.currentSlot, hm, hr, Option.isSome_none, Bool.and_false, Bool.false_eq_true,
    if_false, ← hcur]

end Finished

section Sections

/-! ## Sections on a finished connection -/

variable [Cluster σ] {d : Deployment} {c : Connection} {w : World σ} {β : Type}
  {answer answer' : β → Prop} {stuck : World σ → Prop} {may : Command → Prop} {act : Section σ β}

/-- On a finished connection the section comes to such an answer, and does nothing to the
servers. -/
def Refuses (d : Deployment) (act : Section σ β) (answer : β → Prop) : Prop :=
  ∀ c w, Finished d c w → (act c).Meets w
    (fun x w' => answer x.1 ∧ Finished d x.2 w' ∧ w.Still w') fun _ => False

theorem Refuses.mono (h : Refuses d act answer) (ha : ∀ b, answer b → answer' b) :
    Refuses d act answer' := by
  intro c w hf
  refine (h c w hf).mono ?_ fun _ h => h
  rintro x w' ⟨hx, hrest⟩
  exact ⟨ha _ hx, hrest⟩

theorem refuses_unchanged {act : Connection → Act σ β} (h : ∀ c w, Finished d c w →
    (act c).Meets w (fun b w' => answer b ∧ w.Still w') fun _ => False) :
    Refuses d (Job.unchanged act) answer := by
  intro c w hf
  refine meets_bind (h c w hf) ?_
  rintro b w' ⟨hb, hw⟩
  exact meets_pure ⟨hb, hf.still hw, hw⟩

theorem meets_electAndRoute_finished (h : Finished d c w) {g : Goal} :
    (electAndRoute d c g).Meets w
      (fun x w' => x = (.exhausted .connectionClosed, c) ∧ w.Still w') stuck := by
  have helect : (elect d c g).Meets w
      (fun x w' => x = (.exhausted .connectionClosed, c, g) ∧ w.Still w') stuck := by
    unfold elect
    refine meets_bind_harmless (harmless_log _ _) fun _ w₁ h₁ => ?_
    rw [if_pos h.closed]
    exact meets_pure ⟨rfl, h₁⟩
  unfold electAndRoute
  refine meets_bind helect ?_
  rintro _ w₁ ⟨rfl, h₁⟩
  exact meets_pure ⟨by rw [h.route], h₁⟩

theorem refuses_assess (cmd : Command) :
    Refuses d (assess d cmd : Section σ _) (· = .refuse .connectionClosed) := by
  intro c w h
  refine meets_assess.mono ?_ fun _ h => h
  intro x w' h'
  obtain ⟨rfl, hw⟩ := h'
  have hadm : admission d cmd w.now c = (.refuse .connectionClosed, c) := by
    unfold admission
    rw [if_pos h.closed]
  rw [hadm]
  exact ⟨rfl, h.still hw, hw⟩

theorem refuses_electRoles :
    Refuses d (electRoles d : Section σ _) (· = .error .connectionClosed) := by
  intro c w h
  have none {w' : World σ} (hw : w.Still w') :
      (if c.masterDown then electMaster d c else pure (.ok (), c)).Meets w'
        (fun x w' => x.1 = .error .connectionClosed ∧ Finished d x.2 w' ∧ w.Still w')
        fun _ => False := by
    rw [if_pos h.masterDown]
    unfold electMaster
    refine meets_bind (meets_electAndRoute_finished (h.still hw)) ?_
    rintro _ w₁ ⟨rfl, h₁⟩
    exact meets_pure ⟨rfl, h.still (hw.trans h₁), hw.trans h₁⟩
  unfold electRoles
  split
  · refine meets_bind (m := fun c' w' => c' = c ∧ w.Still w') (meets_map ?_) ?_
    · exact (meets_electAndRoute_finished h).mono (fun x w' ⟨hx, hw⟩ => ⟨by rw [hx], hw⟩)
        fun _ h => h
    · rintro _ w₁ ⟨rfl, h₁⟩
      exact none h₁
  · exact none (Still.refl w)

theorem refuses_establish :
    Refuses d (establish d : Section σ _) (· = .error .connectionClosed) := by
  intro c w h
  unfold establish
  refine meets_bind (refuses_electRoles c w h) ?_
  rintro ⟨_, c'⟩ w₁ ⟨rfl, h₁⟩
  exact meets_pure ⟨rfl, h₁⟩

theorem refuses_reconnect :
    Refuses d (reconnect d : Section σ _) (· = .error .connectionClosed) := by
  intro c w h
  unfold reconnect
  rw [if_pos h.closed]
  exact meets_pure ⟨rfl, h, Still.refl w⟩

theorem refuses_seekMaster :
    Refuses d (seekMaster d : Section σ _) (· = .error .connectionClosed) := by
  intro c w h
  have hc : Finished d { c with fallbackReads := 0 } w := h.of_shape rfl
  unfold seekMaster
  rw [if_neg (by simp [h.masterDown])]
  refine meets_bind (meets_electAndRoute_finished hc) ?_
  rintro _ w₁ ⟨rfl, h₁⟩
  refine meets_bind (m := fun _ w' => w' = w₁) (meets_ask rfl) ?_
  rintro _ _ rfl
  exact meets_pure ⟨rfl, (hc.still h₁).of_shape rfl, h₁⟩

theorem refuses_tryMaster : Refuses d (tryMaster d : Section σ _) fun _ => True := by
  intro c w h
  refine meets_tryMaster_of ((refuses_seekMaster c w h).mono ?_ fun _ h => h)
  intro x w' hx w'' hw
  exact ⟨trivial, hx.2.1.still hw, hx.2.2.trans hw⟩

theorem refuses_switchMode (readOnly : Bool) :
    Refuses d (switchMode d readOnly : Section σ _) (· = .error .connectionClosed) := by
  intro c w h
  unfold switchMode
  rw [if_pos h.closed]
  exact meets_pure ⟨rfl, h, Still.refl w⟩

theorem refuses_close :
    Refuses d (fun c => do return ((), ← close c) : Section σ Unit) fun _ => True := by
  intro c w h
  unfold close
  dsimp only
  rw [if_pos h.closed]
  exact meets_pure ⟨trivial, h, Still.refl w⟩

theorem refuses_recover (n : SessionId) (inTransaction : Bool) :
    Refuses d (recover d n inTransaction : Section σ _) (· = .failed .connectionClosed) := by
  intro c w h
  unfold recover
  rw [if_pos h.closed]
  exact meets_pure ⟨rfl, h, Still.refl w⟩

theorem refuses_reads {act : Connection → Act σ β} (harmless : ∀ c, (act c).Harmless) :
    Refuses d (Job.unchanged act) fun _ => True :=
  refuses_unchanged fun c _ _ => (harmless c).meets fun _ _ hw => ⟨trivial, hw⟩

omit [Cluster σ] in
/-- There is no session to look up. -/
theorem Finished.withoutHandle (h : Finished d c w) {f : Option Handle → Act σ β}
    {post : β → World σ → Prop} (hf : (f none).Meets w post stuck) :
    (currentHandle? c >>= f).Meets w post stuck := by
  refine meets_bind meets_currentHandle? ?_
  rintro _ w' ⟨rfl, rfl⟩
  rwa [h.currentSlot]

theorem refuses_dispatch (cmd : Command) :
    Refuses d (Job.unchanged (dispatch cmd) : Section σ _) (· = .error .connectionClosed) := by
  refine refuses_unchanged fun c w h => ?_
  unfold dispatch
  exact h.withoutHandle (meets_pure ⟨rfl, Still.refl w⟩)

theorem refuses_dispatchAll (cmds : List Command) :
    Refuses d (Job.unchanged (dispatchAll cmds) : Section σ _)
      (· = .error .connectionClosed) := by
  refine refuses_unchanged fun c w h => ?_
  unfold dispatchAll
  exact h.withoutHandle (meets_pure ⟨rfl, Still.refl w⟩)

/-- There is nowhere to send a command. -/
theorem Dispatches.refuses {cmd : Command}
    {act : Connection → Act σ (Except Error (SessionId × Except Error QueryResult))}
    (ha : Dispatches cmd act) : Refuses d (Job.unchanged act) fun _ => True := by
  have unrouted {c : Connection} {w : World σ} {x : Handle} (h : Finished d c w) :
      ¬Routed c [cmd] w x := by
    intro hr
    obtain ⟨s, hs, -⟩ := hr.slot
    cases hs.symm.trans h.currentSlot
  refine refuses_unchanged fun c w h => (ha c w).mono ?_ ?_
  · intro x w' hx
    cases hx with
    | unsent e hw => exact ⟨trivial, hw⟩
    | sent x wait result hr hran => exact absurd hr (unrouted h)
  · rintro w' ⟨x, hr, -⟩
    exact unrouted h hr

theorem Part.refuses (h : Part d may β act) : Refuses d act fun _ => True := by
  cases h with
  | upkept h =>
    cases h with
    | assess cmd => exact (refuses_assess cmd).mono fun _ _ => trivial
    | establish => exact refuses_establish.mono fun _ _ => trivial
    | reconnect => exact refuses_reconnect.mono fun _ _ => trivial
    | seekMaster => exact refuses_seekMaster.mono fun _ _ => trivial
    | tryMaster => exact refuses_tryMaster
    | switchMode b => exact (refuses_switchMode b).mono fun _ _ => trivial
    | close => exact refuses_close
    | recover n b => exact (refuses_recover n b).mono fun _ _ => trivial
    | reads harmless _ => exact refuses_reads harmless
  | remember database _ =>
    exact fun c w h => meets_pure ⟨trivial, h.of_shape rfl, Still.refl w⟩
  | dispatch hact _ _ => exact hact.refuses
  | dispatchAll cmds _ => exact (refuses_dispatchAll cmds).mono fun _ _ => trivial

end Sections

section Calls

/-! ## Calls after the end -/

/-- Closed for good, without a session, and nothing was opened or sent since `u`. -/
structure Over (u : World σ) (m : Scene σ) : Prop where
  closed : m.connection.closed = true
  vacant : ∀ r, m.connection.slot? r = none
  opened : m.world.opened = u.opened
  journal : m.world.journal = u.journal

variable [Cluster σ] {d : Deployment} {u w : World σ} {c : Connection} {m m' : Scene σ}
  {α β : Type} {act : Section σ β} {answer : β → Prop}

/-- It is over between two sections. -/
structure Ceased (d : Deployment) (u : World σ) (m : Scene σ) : Prop extends Over u m where
  settled : Settled d m.connection m.world
  tasks : ∀ t ∈ m.tasks, t.2.All (Part d fun _ => True)

theorem Ceased.finished (h : Ceased d u m) : Finished d m.connection m.world :=
  ⟨h.settled, h.closed, h.vacant⟩

theorem Ceased.still (h : Ceased d u m) (hf : Finished d c w) (hw : m.world.Still w) :
    Ceased d u ⟨c, w, m.tasks⟩ where
  closed := hf.closed
  vacant := hf.vacant
  opened := hw.opened.trans h.opened
  journal := hw.journal.trans h.journal
  settled := hf.toSettled
  tasks := h.tasks

theorem Ceased.step (h : Ceased d u m) (hs : m.Step d m') : Ceased d u m' := by
  have htasks := hs.tasks (fun k _ => part_task fun _ _ => trivial) h.tasks
  cases hs with
  | call k => exact { h with tasks := htasks }
  | @advance before after α β act next b c w turn comes =>
    have hpart := Scene.head_of_turn h.tasks turn
    obtain ⟨-, hf, hw⟩ := (hpart.refuses _ _ h.finished).value comes
    exact { h.still hf hw with tasks := htasks }
  | leave gone => exact { h with tasks := htasks }
  | drift servers now blacklist =>
    exact { h with settled := h.settled.drift servers now blacklist }

theorem Ceased.run (h : Ceased d u m) (hm : Meanwhile d m m') : Ceased d u m' := by
  induction hm with
  | refl => exact h
  | tail _ hs ih => exact ih.step hs

/-- Once it is over, the job comes to such an answer. -/
def Declines (d : Deployment) (t : Job σ α) (answer : α → Prop) : Prop :=
  ∀ u m, Ceased d u m →
    t.Meets (Meanwhile d) m (fun x m' => answer x ∧ Ceased d u m') fun _ => False

theorem declines_pure {answer : α → Prop} {a : α} (ha : answer a) :
    Declines d (pure a : Job σ α) answer :=
  fun _ _ h => Job.meets_pure ⟨ha, h⟩

theorem Declines.bind {t : Job σ α} {f : α → Job σ β} {first : α → Prop}
    (ht : Declines d t first) (hf : ∀ a, first a → Declines d (f a) answer) :
    Declines d (t >>= f) answer := by
  intro u m h
  refine Job.meets_bind (ht u m h) ?_
  rintro a m' ⟨ha, h'⟩
  exact hf a ha u m' h'

theorem Refuses.atomic (h : Refuses d act answer) : Declines d (.atomic act) answer := by
  intro u m hm
  refine Job.meets_atomic fun m' hm' => ?_
  have h' := hm.run hm'
  refine (h _ _ h'.finished).mono ?_ fun _ h => h
  rintro x w ⟨hx, hfinished, hstill⟩
  exact ⟨hx, h'.still hfinished hstill⟩

theorem declines_prepare (cmd : Command) :
    Declines d (prepare d cmd : Job σ _) (· = .error .connectionClosed) := by
  unfold prepare
  refine (refuses_assess cmd).atomic.bind ?_
  rintro _ rfl
  exact declines_pure rfl

theorem declines_failOver (n : SessionId) (cmd : Option Command) :
    Declines d (failOver d n cmd : Job σ _) (· = .raising false (some .connectionClosed)) := by
  unfold failOver
  refine (refuses_reads (harmless_readFlag n)).atomic.bind fun inTransaction _ => ?_
  refine (refuses_recover n inTransaction).atomic.bind ?_
  rintro _ rfl
  exact declines_pure rfl

theorem declines_resume (cmd : Command) (n : SessionId) (e : Error) :
    Declines d (resume d cmd n e : Job σ _)
      (· = .error (.failover false e (some .connectionClosed))) := by
  unfold resume
  refine (refuses_reads fun _ => harmless_log _ _).atomic.bind fun _ _ => ?_
  refine (declines_failOver n (some cmd)).bind ?_
  rintro _ rfl
  exact declines_pure rfl

theorem declines_carryOut (cmd : Command) :
    Declines d (carryOut d cmd : Job σ _) (· = .error .connectionClosed) := by
  unfold carryOut
  refine (refuses_dispatch cmd).atomic.bind ?_
  rintro _ rfl
  exact declines_pure rfl

theorem declines_carryOutAll (cmds : List Command) :
    Declines d (carryOutAll d cmds : Job σ _) (· = .error .connectionClosed) := by
  unfold carryOutAll
  refine (refuses_dispatchAll cmds).atomic.bind ?_
  rintro _ rfl
  exact declines_pure rfl

theorem declines_execute (cmd : Command) :
    Declines d (execute d cmd : Job σ _) (· = .error .connectionClosed) := by
  unfold execute
  refine (declines_prepare cmd).bind ?_
  rintro _ rfl
  exact declines_pure rfl

theorem declines_executeAll (statements : List String) :
    Declines d (executeAll d statements : Job σ _)
      (· = if statements = [] then .ok [] else .error .connectionClosed) := by
  unfold executeAll
  dsimp only
  split
  next first hfirst =>
    have hsome : statements ≠ [] := by
      rintro rfl
      cases hfirst
    rw [if_neg hsome]
    refine (declines_prepare first).bind ?_
    rintro _ rfl
    exact declines_pure rfl
  next hnone =>
    have hempty : statements = [] := by
      cases statements with
      | nil => rfl
      | cons sql rest => simp [leadingCommand] at hnone
    rw [if_pos hempty]
    exact declines_pure rfl

/-- What an application is told by a connection that was closed. -/
def Operation.Refused : Operation → Except Error Answer → Prop
  | .isClosed, x | .isExplicitlyClosed, x => x = .ok (.flag true)
  | .isReadOnly, x => ∃ b, x = .ok (.flag b)
  | .close, x => x = .ok .done
  | .setReadOnly _, x | .data _, x => x = .error .connectionClosed

/-- What a call comes to on a connection that was closed. -/
def Call.Refused (d : Deployment) : (k : Call) → (k.task d : Task σ).1 → Prop
  | .establish, x => x = (.error .connectionClosed : Except Error Unit)
  | .reconnect, x => x = (.error .connectionClosed : Except Error Unit)
  | .prepare _, x => x = (.error .connectionClosed : Except Error Unit)
  | .dispatch _, x =>
    x = (.error .connectionClosed : Except Error (SessionId × Except Error QueryResult))
  | .dispatchAll _, x =>
    x = (.error .connectionClosed : Except Error (SessionId × Except Error (List QueryResult)))
  | .failOver _ _, x => x = Report.raising false (some .connectionClosed)
  | .execute _, x => x = (.error .connectionClosed : Except Error QueryResult)
  | .executeAll statements, x => x =
    (if statements = [] then .ok [] else .error .connectionClosed : Except Error (List QueryResult))
  | .operation op, x => op.Refused x

theorem declines_invoke (op : Operation) : Declines d (op.invoke d : Job σ _) op.Refused := by
  unfold Operation.invoke
  cases op with
  | isClosed =>
    refine (refuses_unchanged fun c w h => meets_pure ⟨?_, Still.refl w⟩).atomic
    simp [Operation.Refused, Connection.isClosed, h.closed]
  | isExplicitlyClosed =>
    refine (refuses_unchanged fun c w h => meets_pure ⟨?_, Still.refl w⟩).atomic
    simp [Operation.Refused, h.closed]
  | isReadOnly =>
    exact (refuses_unchanged fun c w _ => meets_pure ⟨⟨c.readOnly, rfl⟩, Still.refl w⟩).atomic
  | setReadOnly b =>
    refine (refuses_switchMode b).atomic.bind ?_
    rintro _ rfl
    exact declines_pure rfl
  | close => exact refuses_close.atomic.bind fun _ _ => declines_pure rfl
  | data cmd =>
    refine (declines_execute cmd).bind ?_
    rintro _ rfl
    exact declines_pure rfl

theorem declines_task (k : Call) : Declines d (k.task d : Task σ).2 (k.Refused d) := by
  cases k with
  | establish => exact refuses_establish.atomic
  | reconnect => exact refuses_reconnect.atomic
  | prepare cmd => exact declines_prepare cmd
  | dispatch cmd => exact (refuses_dispatch cmd).atomic
  | dispatchAll cmds => exact (refuses_dispatchAll cmds).atomic
  | failOver n cmd => exact declines_failOver n cmd
  | execute cmd => exact declines_execute cmd
  | executeAll statements => exact declines_executeAll statements
  | operation op => exact declines_invoke op

/-- What is left of a call that has no answer yet: its commands have not been sent, or the session
that they were sent to broke. -/
inductive Unanswered (d : Deployment) : {α : Type} → Job σ (Except Error α) → Prop
  | carryOut (cmd : Command) : Unanswered d (carryOut d cmd)
  | carryOutAll (cmds : List Command) : Unanswered d (carryOutAll d cmds)
  | resume (cmd : Command) (n : SessionId) (e : Error) : Unanswered d (resume d cmd n e)

theorem Unanswered.declines {t : Job σ (Except Error α)} (h : Unanswered d t) :
    Declines d t fun x => ∃ e, x = .error e := by
  have fails {e : Error} {t : Job σ (Except Error α)} (ht : Declines d t (· = .error e)) :
      Declines d t fun x => ∃ e, x = .error e := by
    intro u m hm
    refine (ht u m hm).mono ?_
    rintro x s ⟨hx, hrest⟩
    exact ⟨⟨e, hx⟩, hrest⟩
  cases h with
  | carryOut cmd => exact fails (declines_carryOut cmd)
  | carryOutAll cmds => exact fails (declines_carryOutAll cmds)
  | resume cmd n e => exact fails (declines_resume cmd n e)

variable {s : Scene σ}

theorem meets_close_closed :
    (close c).Meets w (fun c' _ => c'.closed = true) fun _ => True := by
  have any {β : Type} {x : Act σ β} {w : World σ} :
      x.Meets w (fun _ _ => True) fun _ => True :=
    meets_of_forall (fun _ _ => trivial) fun _ => trivial
  unfold close
  split
  next hclosed => exact meets_pure hclosed
  next =>
    refine meets_bind (m := fun c' _ => c'.closed = true) ?_ fun c' _ h => ?_
    · unfold closeSessions
      exact meets_bind any fun _ _ _ => meets_bind any fun _ _ _ => meets_pure rfl
    · exact meets_bind any fun _ _ _ => meets_pure h

/-- Once a connection was closed, whatever is asked of it or still under way, by however many tasks
and in whatever order, it stays closed and without a session, and nothing is opened and nothing
sent: each section that a task goes through comes to an end without that, and so does each call.
Commands and batches that have no answer yet fail, and so does each request but those for a flag,
for no statement at all, or for what is done already. -/
theorem close_is_final (h : Reachable d s) {front rest : List (Task σ)} {next : Unit → Job σ α}
    (turn : s.tasks = front ++ ⟨α, .step (fun c => do return ((), ← close c)) next⟩ :: rest)
    (returns : close s.connection s.world = (some c, w))
    (later : Meanwhile d ⟨c, w, front ++ ⟨α, next ()⟩ :: rest⟩ m) :
    Over w m ∧
      (∀ (α β : Type) (act : Section σ β) (next : β → Job σ α), ⟨α, .step act next⟩ ∈ m.tasks →
        (act m.connection).Meets m.world (fun x w' => Over w ⟨x.2, w', m.tasks⟩)
          fun _ => False) ∧
      (∀ (k : Call) (vs : List (Visit σ)) (a : Option (k.task d : Task σ).1) (m' : Scene σ),
        Course (Meanwhile d) (k.task d).2 m vs a m' →
          ∃ x, a = some x ∧ k.Refused d x ∧ Over w m') ∧
      ∀ (α : Type) (t : Job σ (Except Error α)) (vs : List (Visit σ))
        (a : Option (Except Error α)) (m' : Scene σ), Unanswered d t →
        Course (Meanwhile d) t m vs a m' → ∃ e, a = some (.error e) ∧ Over w m' := by
  have comes : (do return ((), ← close s.connection) : Act σ _) s.world = (some ((), c), w) := by
    rw [bind_apply, returns]
    rfl
  have hc := h.step (.advance turn comes)
  have hclosed : c.closed = true := meets_close_closed.value returns
  have hceased : Ceased d w m :=
    Ceased.run ⟨⟨hclosed, hc.vacated hclosed, rfl, rfl⟩, hc.atRest.settled, hc.parts⟩ later
  refine ⟨hceased.toOver, ?_, ?_, ?_⟩
  · intro α β act next ht
    have hpart := (hceased.tasks _ ht).head
    exact (hpart.refuses _ _ hceased.finished).mono
      (fun x w' hx => (hceased.still hx.2.1 hx.2.2).toOver) fun _ h => h
  · intro k vs a m' hcourse
    obtain ⟨x, rfl, hx, hm'⟩ := (declines_task k w m hceased).exists_value hcourse
    exact ⟨x, rfl, hx, hm'.toOver⟩
  · intro α t vs a m' ht hcourse
    obtain ⟨_, rfl, ⟨e, rfl⟩, hm'⟩ := (ht.declines w m hceased).exists_value hcourse
    exact ⟨e, rfl, hm'.toOver⟩

end Calls

/-- While a command waits to be recovered from, another task closes the connection. -/
theorem close_is_final_for_pair : ∃ (s m m' : Scene Script) (c : Connection) (w : World Script)
    (front rest : List (Task Script)) (α : Type) (next : Unit → Job Script α)
    (vs : List (Visit Script)) (a : Option (Except Error QueryResult)), Reachable pair s ∧
      s.tasks = front ++ ⟨α, .step (fun c => do return ((), ← close c)) next⟩ :: rest ∧
      close s.connection s.world = (some c, w) ∧
      Meanwhile pair ⟨c, w, front ++ ⟨α, next ()⟩ :: rest⟩ m ∧
      Course (Meanwhile pair) (resume pair increment 1 .connectionClosed) m vs a m' ∧
      Over w m ∧ ∃ e, a = some (.error e) ∧ Over w m' := by
  have hx : established.yields { servers := {} } (fun x w =>
      (close x.2).yields w fun c w =>
        ((resume pair increment 1 .connectionClosed).run c).yields w fun _ _ => true) = true := by
    decide +kernel
  obtain ⟨⟨b, c₀⟩, w₀, hy, hx⟩ := exists_of_yields hx
  obtain ⟨c, w, hclose, hx⟩ := exists_of_yields hx
  obtain ⟨⟨answer, c'⟩, w', hresume, -⟩ := exists_of_yields hx
  have hs := (reachable_established hy).step (.call _ (.operation .close))
  obtain ⟨hover, -, -, hfails⟩ :=
    close_is_final hs (show _ = [⟨_, .done b⟩] ++ _ :: _ from rfl) hclose .refl
  have hcourse := Course.of_run (M := Meanwhile pair) (fun _ => .refl) hresume
  exact ⟨_, _, _, c, w, _, _, _, _, _, _, hs, rfl, hclose, .refl, hcourse _, hover,
    hfails _ _ _ _ _ (.resume _ _ _) (hcourse _)⟩

end Failover
