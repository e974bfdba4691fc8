import Failover.Proofs.Chores
import Failover.Proofs.Sections

/-!
# Interleaved tasks

Any number of tasks share a connection, each with calls of its own, and between their sections the
servers, the clock and the blacklist go their own way. All sections of every call are lawful, so
the connection is at rest whenever no section is under way (`Reachable.atRest`). What else holds
then follows from what the parts of the sections keep (`Lasting`, `Reachable.maintains`).
-/

namespace Failover

open Act World

namespace Job

variable {σ α β : Type}

/-- All sections of a job, whatever the values of those before. -/
inductive All (P : (β : Type) → Section σ β → Prop) : Job σ α → Prop
  | done (a : α) : All P (done a)
  | step {β : Type} {act : Section σ β} {next : β → Job σ α} (head : P β act)
      (rest : ∀ b, All P (next b)) : All P (step act next)

variable {P : (β : Type) → Section σ β → Prop}

theorem All.head {act : Section σ β} {next : β → Job σ α} (h : (Job.step act next).All P) :
    P β act := by
  cases h with
  | step head _ => exact head

theorem All.rest {act : Section σ β} {next : β → Job σ α} (h : (Job.step act next).All P) (b : β) :
    (next b).All P := by
  cases h with
  | step _ rest => exact rest b

theorem all_atomic {act : Section σ β} (h : P β act) : (atomic act).All P := .step h .done

theorem All.bind {t : Job σ α} {f : α → Job σ β} (ht : t.All P) (hf : ∀ a, (f a).All P) :
    (t >>= f).All P := by
  induction ht with
  | done a => exact hf a
  | step head rest ih => exact .step head ih

theorem All.mono {P' : (β : Type) → Section σ β → Prop} {t : Job σ α} (ht : t.All P)
    (h : ∀ β act, P β act → P' β act) : t.All P' := by
  induction ht with
  | done a => exact .done a
  | step head rest ih => exact .step (h _ _ head) ih

end Job

/-- What may be asked of a connection, from the outside or by a task that found a session broken. -/
inductive Call
  | establish
  | reconnect
  | prepare (cmd : Command)
  | dispatch (cmd : Command)
  | dispatchAll (cmds : List Command)
  | failOver (failed : SessionId) (cmd : Option Command)
  | execute (cmd : Command)
  | executeAll (statements : List String)
  | operation (op : Operation)

/-- A job with whatever value. -/
abbrev Task (σ : Type) := (α : Type) × Job σ α

def Call.task {σ : Type} [Cluster σ] (d : Deployment) : Call → Task σ
  | establish => ⟨_, .atomic (Failover.establish d)⟩
  | reconnect => ⟨_, .atomic (Failover.reconnect d)⟩
  | prepare cmd => ⟨_, Failover.prepare d cmd⟩
  | dispatch cmd => ⟨_, .reading (Failover.dispatch cmd)⟩
  | dispatchAll cmds => ⟨_, .reading (Failover.dispatchAll cmds)⟩
  | failOver failed cmd => ⟨_, Failover.failOver d failed cmd⟩
  | execute cmd => ⟨_, Failover.execute d cmd⟩
  | executeAll statements => ⟨_, Failover.executeAll d statements⟩
  | operation op => ⟨_, op.invoke d⟩

/-- The commands that a call may hand over. -/
def Call.commands : Call → List Command
  | dispatch cmd | execute cmd | operation (.data cmd) => [cmd]
  | dispatchAll cmds => cmds
  | failOver _ cmd => cmd.toList
  | executeAll statements => statements.map .execute
  | establish | reconnect | prepare _ | operation _ => []

/-- A connection between two sections, with the tasks that share it. -/
structure Scene (σ : Type) where
  connection : Connection
  world : World σ
  tasks : List (Task σ)

variable {σ : Type} [Cluster σ]

inductive Scene.Step (d : Deployment) : Scene σ → Scene σ → Prop
  /-- One more call is made. -/
  | call (s : Scene σ) (k : Call) : Step d s { s with tasks := s.tasks ++ [k.task d] }
  /-- One of the tasks goes through its next section. -/
  | advance {s : Scene σ} {before after : List (Task σ)} {α β : Type} {act : Section σ β}
      {next : β → Job σ α} {b : β} {c : Connection} {w : World σ}
      (turn : s.tasks = before ++ ⟨α, .step act next⟩ :: after)
      (comes : act s.connection s.world = (some (b, c), w)) :
      Step d s ⟨c, w, before ++ ⟨α, next b⟩ :: after⟩
  /-- One of the tasks is given up. -/
  | leave {s : Scene σ} {before after : List (Task σ)} {t : Task σ}
      (gone : s.tasks = before ++ t :: after) : Step d s { s with tasks := before ++ after }
  /-- Meanwhile the servers, the clock and the blacklist have changed. -/
  | drift (s : Scene σ) (servers : σ) (now : Nat) (blacklist : Blacklist) :
      Step d s { s with world := { s.world with servers, now, blacklist } }

/-- The scenes to which a new connection can come. -/
inductive Reachable (d : Deployment) : Scene σ → Prop
  | start (servers : σ) (now : Nat) (blacklist : Blacklist) :
      Reachable d ⟨.new d.hasReplicas, { servers, now, blacklist }, []⟩
  | step {s s' : Scene σ} (h : Reachable d s) (hs : s.Step d s') : Reachable d s'

section Parts

/-! ## The sections of the calls -/

/-- The sections that hand over no command and leave the database alone. -/
inductive Upkept (d : Deployment) : (β : Type) → Section σ β → Prop
  | assess (cmd : Command) : Upkept d _ (assess d cmd)
  | establish : Upkept d _ (establish d)
  | reconnect : Upkept d _ (reconnect d)
  | seekMaster : Upkept d _ (seekMaster d)
  | tryMaster : Upkept d _ (tryMaster d)
  | switchMode (readOnly : Bool) : Upkept d _ (switchMode d readOnly)
  | close : Upkept d Unit fun c => do return ((), ← close c)
  | recover (failed : SessionId) (inTransaction : Bool) :
      Upkept d _ (recover d failed inTransaction)
  | reads {β : Type} {act : Connection → Act σ β} (harmless : ∀ c, (act c).Harmless)
      (inert : ∀ c, (act c).Inert) : Upkept d β (Job.unchanged act)

/-- The sections of calls that hand over no other commands than those that they `may`. -/
inductive Part (d : Deployment) (may : Command → Prop) : (β : Type) → Section σ β → Prop
  | upkept {β : Type} {act : Section σ β} (h : Upkept d β act) : Part d may β act
  | remember (database : String) (h : may (.setCatalog database)) :
      Part d may Unit (remember database)
  | dispatch {cmd : Command}
      {act : Connection → Act σ (Except Error (SessionId × Except Error QueryResult))}
      (dispatches : Dispatches cmd act) (spares : ∀ c, (act c).Always SparesHosts) (h : may cmd) :
      Part d may _ (Job.unchanged act)
  | dispatchAll (cmds : List Command) (h : ∀ cmd ∈ cmds, may cmd) :
      Part d may _ (Job.unchanged (dispatchAll cmds))

variable {d : Deployment} {may : Command → Prop} {β : Type} {act : Section σ β}

/-- What is kept when commands are handed to the session that is routed to, as far as they may be,
and when what concerns no session is read. -/
structure Dispatching (d : Deployment) (may : Command → Prop) (Inv : Connection → World σ → Prop)
    (stuck : World σ → Prop) : Prop where
  works : ∀ {c : Connection} {w w' : World σ} {h : Handle} {cmds : List Command}, Settled d c w →
    Inv c w → Routed c cmds w h → (∀ cmd ∈ cmds, may cmd) → Work h.session cmds w w' → Inv c w'
  still : ∀ {c : Connection} {w w' : World σ}, Inv c w → w.Still w' → Inv c w'
  stays : ∀ {c : Connection} {w : World σ}, Inv c w → stuck w

section Dispatching

variable {Inv : Connection → World σ → Prop} {stuck : World σ → Prop}

theorem maintains_reads {act : Connection → Act σ β} (harmless : ∀ c, (act c).Harmless)
    (still : ∀ {c : Connection} {w w' : World σ}, Inv c w → w.Still w' → Inv c w') :
    Maintains d Inv stuck β (Job.unchanged act) := by
  intro c w hs hi
  refine meets_bind_harmless (harmless c) fun b w₁ h₁ => ?_
  exact meets_pure ⟨hs.beside h₁.beside, still hi h₁⟩

theorem Dispatching.dispatch (hD : Dispatching d may Inv stuck) {cmd : Command}
    {act : Connection → Act σ (Except Error (SessionId × Except Error QueryResult))}
    (ha : Dispatches cmd act) (hmay : may cmd) :
    Maintains d Inv stuck _ (Job.unchanged act) := by
  intro c w hs hi
  have worked {x : Handle} {reply : Reply} {w' : World σ} (hr : Routed c [cmd] w x)
      (hran : Ran x cmd reply w w') : Settled d c w' ∧ Inv c w' := by
    have hone : ∀ y ∈ [cmd], may y := fun y hy => List.mem_singleton.1 hy ▸ hmay
    have hk := hran.work hr.known (List.mem_singleton_self cmd)
    exact ⟨hs.work hk, hD.works hs hi hr hone hk⟩
  refine meets_bind ((ha c w).mono (fun _ _ h => h) ?_) fun x w' h => ?_
  · rintro w' ⟨x, hr, hran⟩
    exact hD.stays (worked hr hran).2
  · cases h with
    | unsent e hw => exact meets_pure ⟨hs.beside hw.beside, hD.still hi hw⟩
    | sent h wait result hr hran => exact meets_pure (worked hr hran)

theorem Dispatching.dispatchAll (hD : Dispatching d may Inv stuck) {cmds : List Command}
    (hmay : ∀ cmd ∈ cmds, may cmd) :
    Maintains d Inv stuck _ (Job.unchanged (dispatchAll cmds)) := by
  intro c w hs hi
  refine meets_bind (meets_dispatchAll.mono (fun _ _ h => h) ?_) fun x w' h => ?_
  · rintro w' ⟨x, hr, hk⟩
    exact hD.stays (hD.works hs hi hr hmay hk)
  · cases h with
    | unsent e hw => exact meets_pure ⟨hs.beside hw.beside, hD.still hi hw⟩
    | sent h results hr hk _ => exact meets_pure ⟨hs.work hk, hD.works hs hi hr hmay hk⟩

end Dispatching

theorem Upkept.maintains {Inv : Connection → World σ → Prop} {stuck : World σ → Prop}
    (h : Upkept d β act) (hU : Upkeep d Inv stuck) : Maintains d Inv stuck β act := by
  cases h with
  | assess cmd => exact hU.assess cmd
  | establish => exact hU.establish
  | reconnect => exact hU.reconnect
  | seekMaster => exact hU.seekMaster
  | tryMaster => exact hU.tryMaster
  | switchMode b => exact hU.switchMode b
  | close => exact hU.close
  | recover n b => exact hU.recover n b
  | reads harmless _ => exact maintains_reads harmless hU.still

theorem Upkept.calm (h : Upkept d β act) : Calm d β act :=
  Maintains.calm fun u => h.maintains (upkeep_quiet u)

theorem Part.lawful (h : Part d may β act) : Lawful d β act := by
  cases h with
  | upkept h => exact h.calm.lawful
  | remember database _ => exact (calm_remember database).lawful
  | dispatch hact _ _ => exact hact.lawful
  | dispatchAll cmds _ => exact lawful_dispatchAll cmds

/-- What is kept by the upkeep, by commands, and when a database is remembered. -/
structure Lasting (d : Deployment) (may : Command → Prop) (Inv : Connection → World σ → Prop)
    (stuck : World σ → Prop) : Prop extends Upkeep d Inv stuck, Dispatching d may Inv stuck where
  remembers : ∀ {c : Connection} {w : World σ} {database : String}, may (.setCatalog database) →
    Inv c w → Inv { c with catalog := some database } w

theorem Lasting.part {Inv : Connection → World σ → Prop} {stuck : World σ → Prop}
    (hL : Lasting d may Inv stuck) (h : Part d may β act) : Maintains d Inv stuck β act := by
  cases h with
  | upkept h => exact h.maintains hL.toUpkeep
  | remember database hmay =>
    exact fun c w hs hi => meets_pure ⟨hs.of_shape rfl, hL.remembers hmay hi⟩
  | dispatch hact _ hmay => exact hL.toDispatching.dispatch hact hmay
  | dispatchAll cmds hmay => exact hL.toDispatching.dispatchAll hmay

theorem upkept_prepare (cmd : Command) : (prepare d cmd : Job σ _).All (Upkept d) := by
  unfold prepare
  refine (Job.all_atomic (.assess cmd)).bind fun a => ?_
  cases a with
  | refuse e => exact .done _
  | reconnect => exact Job.all_atomic .reconnect
  | needMaster => exact Job.all_atomic .seekMaster
  | tryMaster => exact Job.all_atomic .tryMaster
  | pass => exact .done _

theorem part_rememberDatabase {cmd : Command} (h : may cmd) :
    (rememberDatabase cmd : Job σ _).All (Part d may) := by
  unfold rememberDatabase
  split
  · exact Job.all_atomic (.remember _ h)
  · exact .done _

theorem all_failOver_of {P : (β : Type) → Section σ β → Prop} {failed : SessionId}
    {cmd : Option Command} (reads : P _ (Job.unchanged (readFlag failed)))
    (recovers : ∀ inTransaction, P _ (recover d failed inTransaction))
    (sends : ∀ x ∈ cmd, P _ (Job.unchanged (redispatch x))) :
    (failOver d failed cmd : Job σ _).All P := by
  have again (inTransaction : Bool) (cause : Option Error) :
      (sendAgain cmd inTransaction cause : Job σ _).All P := by
    unfold sendAgain
    split
    · exact .done _
    next x hx =>
      refine (Job.all_atomic (sends x (Option.filter_eq_some_iff.1 hx).1)).bind fun y => ?_
      split <;> exact .done _
  unfold failOver
  refine (Job.all_atomic reads).bind fun inTransaction => ?_
  refine (Job.all_atomic (recovers inTransaction)).bind fun r => ?_
  cases r with
  | restored => exact again _ _
  | standIn e => exact again _ _
  | failed e => exact .done _

theorem harmless_readFlag (n : SessionId) (c : Connection) :
    (readFlag n c : Act σ Bool).Harmless :=
  harmless_bind (harmless_ask _) fun _ => harmless_pure _

omit [Cluster σ] in
theorem inert_readFlag (n : SessionId) (c : Connection) : (readFlag n c : Act σ Bool).Inert :=
  (inert_ask _).bind fun _ => inert_pure _

theorem part_failOver (failed : SessionId) {cmd : Option Command} (h : ∀ x ∈ cmd, may x) :
    (failOver d failed cmd : Job σ _).All (Part d may) :=
  all_failOver_of (.upkept (.reads (harmless_readFlag failed) (inert_readFlag failed)))
    (fun b => .upkept (.recover failed b)) fun x hx =>
      .dispatch (dispatches_redispatch x) (sparesHosts_redispatch x) (h x hx)

theorem part_resume {cmd : Command} (h : may cmd) (n : SessionId) (e : Error) :
    (resume d cmd n e : Job σ _).All (Part d may) := by
  unfold resume
  refine (Job.all_atomic (.upkept
    (.reads (fun _ => harmless_log _ _) fun _ => inert_log _ _))).bind fun _ => ?_
  refine (part_failOver n (by simpa using h)).bind fun report => ?_
  split
  · exact .done _
  · exact (part_rememberDatabase h).bind fun _ => .done _

theorem part_carryOut {cmd : Command} (h : may cmd) :
    (carryOut d cmd : Job σ _).All (Part d may) := by
  unfold carryOut
  refine (Job.all_atomic (.dispatch (dispatches_dispatch cmd)
    (sparesHosts_dispatch cmd) h)).bind fun x => ?_
  split
  · exact .done _
  · exact (part_rememberDatabase h).bind fun _ => .done _
  · split
    · exact .done _
    · exact part_resume h _ _

theorem part_execute {cmd : Command} (h : may cmd) :
    (execute d cmd : Job σ _).All (Part d may) := by
  refine ((upkept_prepare cmd).mono fun _ _ => .upkept).bind fun admitted => ?_
  split
  · exact .done _
  · exact part_carryOut h

theorem part_executeAll {statements : List String} (h : ∀ sql ∈ statements, may (.execute sql)) :
    (executeAll d statements : Job σ _).All (Part d may) := by
  have hmay : ∀ cmd ∈ statements.map Command.execute, may cmd := by simpa using h
  unfold executeAll carryOutAll
  dsimp only
  split
  next first _ =>
    refine ((upkept_prepare first).mono fun _ _ => .upkept).bind fun admitted => ?_
    split
    · exact .done _
    refine (Job.all_atomic (.dispatchAll _ hmay)).bind fun x => ?_
    split
    · exact .done _
    · exact .done _
    · split
      · exact .done _
      · exact (part_failOver _ fun x hx => nomatch hx).bind fun _ => .done _
  · exact .done _

theorem part_invoke {op : Operation} (h : ∀ cmd, op = .data cmd → may cmd) :
    (op.invoke d : Job σ _).All (Part d may) := by
  have reads {β : Type} (f : Connection → β) :
      (Job.reading fun c => pure (f c) : Job σ β).All (Part d may) :=
    Job.all_atomic (.upkept (.reads (fun _ => harmless_pure _) fun _ => inert_pure _))
  unfold Operation.invoke
  cases op with
  | isClosed => exact reads _
  | isExplicitlyClosed => exact reads _
  | isReadOnly => exact reads _
  | setReadOnly b => exact (Job.all_atomic (.upkept (.switchMode b))).bind fun _ => .done _
  | close => exact (Job.all_atomic (.upkept .close)).bind fun _ => .done _
  | data cmd => exact (part_execute (h cmd rfl)).bind fun _ => .done _

/-- A call consists of these sections, and hands over no commands but its own. -/
theorem part_task {k : Call} (h : ∀ cmd ∈ k.commands, may cmd) :
    (k.task d : Task σ).2.All (Part d may) := by
  cases k with
  | establish => exact Job.all_atomic (.upkept .establish)
  | reconnect => exact Job.all_atomic (.upkept .reconnect)
  | prepare cmd => exact (upkept_prepare cmd).mono fun _ _ => .upkept
  | dispatch cmd =>
    have hmay := h cmd (List.mem_singleton_self cmd)
    exact Job.all_atomic
      (.dispatch (dispatches_dispatch cmd) (sparesHosts_dispatch cmd) hmay)
  | dispatchAll cmds => exact Job.all_atomic (.dispatchAll cmds h)
  | failOver failed cmd => exact part_failOver failed (by simpa [Call.commands] using h)
  | execute cmd => exact part_execute (h cmd (List.mem_singleton_self cmd))
  | executeAll statements => exact part_executeAll (by simpa [Call.commands] using h)
  | operation op =>
    refine part_invoke fun cmd hop => h cmd ?_
    rw [hop]
    exact List.mem_singleton_self cmd

end Parts

section Calls

variable {d : Deployment}

theorem all_prepare (cmd : Command) : (prepare d cmd : Job σ _).All (Calm d) :=
  (upkept_prepare cmd).mono fun _ _ h => h.calm

omit [Cluster σ] in
theorem Job.All.lawful {α : Type} {t : Job σ α} (h : t.All (Calm d)) : t.All (Lawful d) :=
  h.mono fun _ _ h => h.lawful

omit [Cluster σ] in
theorem all_rememberDatabase (cmd : Command) : (rememberDatabase cmd : Job σ _).All (Calm d) := by
  unfold rememberDatabase
  split
  · exact Job.all_atomic (calm_remember _)
  · exact .done _

theorem all_failOver (failed : SessionId) (cmd : Option Command) :
    (failOver d failed cmd : Job σ _).All (Lawful d) := by
  have hparts : (failOver d failed cmd : Job σ _).All (Part d fun _ => True) :=
    part_failOver failed fun _ _ => trivial
  exact hparts.mono fun _ _ h => h.lawful

theorem all_task (k : Call) : (k.task d : Task σ).2.All (Lawful d) := by
  have hparts : (k.task d : Task σ).2.All (Part d fun _ => True) := part_task fun _ _ => trivial
  exact hparts.mono fun _ _ h => h.lawful

/-- What is true of all sections of the calls that are made is true of the sections that are yet
to come. -/
theorem Scene.Step.tasks {P : (β : Type) → Section σ β → Prop} {s s' : Scene σ} (hs : s.Step d s')
    (hcall : ∀ k : Call, k.task d ∈ s'.tasks.drop s.tasks.length → (k.task d : Task σ).2.All P)
    (h : ∀ t ∈ s.tasks, t.2.All P) : ∀ t ∈ s'.tasks, t.2.All P := by
  intro t ht
  cases hs with
  | call k =>
    rcases List.mem_append.1 ht with ht | ht
    · exact h t ht
    · rw [List.mem_singleton.1 ht]
      exact hcall k (by simp)
  | @advance before after α β act next b c w turn comes =>
    rw [turn] at h
    rcases List.mem_append.1 ht with ht | ht
    · exact h t (List.mem_append_left _ ht)
    · rcases List.mem_cons.1 ht with rfl | ht
      · exact (h _ (List.mem_append_right _ List.mem_cons_self)).rest b
      · exact h t (List.mem_append_right _ (List.mem_cons_of_mem _ ht))
  | leave gone =>
    rw [gone] at h
    rcases List.mem_append.1 ht with ht | ht
    · exact h t (List.mem_append_left _ ht)
    · exact h t (List.mem_append_right _ (List.mem_cons_of_mem _ ht))
  | drift servers now blacklist => exact h t ht

omit [Cluster σ] in
theorem Scene.head_of_turn {P : (β : Type) → Section σ β → Prop} {s : Scene σ}
    {before after : List (Task σ)} {α β : Type} {act : Section σ β} {next : β → Job σ α}
    (h : ∀ t ∈ s.tasks, t.2.All P) (turn : s.tasks = before ++ ⟨α, .step act next⟩ :: after) :
    P β act :=
  (h ⟨α, .step act next⟩ (by simp [turn])).head

/-- The connection is at rest, and no task means to do anything unlawful. -/
structure Scene.AtRest (s : Scene σ) (d : Deployment) : Prop where
  settled : Settled d s.connection s.world
  lawful : ∀ t ∈ s.tasks, t.2.All (Lawful d)

theorem Scene.AtRest.step {s s' : Scene σ} (h : s.AtRest d) (hs : s.Step d s') :
    s'.AtRest d := by
  refine ⟨?_, hs.tasks (fun k _ => all_task k) h.lawful⟩
  cases hs with
  | call k => exact h.settled
  | @advance before after α β act next b c w turn comes =>
    exact ((Scene.head_of_turn h.lawful turn _ _ h.settled).value comes).1
  | leave gone => exact h.settled
  | drift servers now blacklist => exact h.settled.drift servers now blacklist

theorem Reachable.atRest {s : Scene σ} (h : Reachable d s) : s.AtRest d := by
  induction h with
  | start servers now blacklist =>
    have orderly : ({ servers, now, blacklist } : World σ).Orderly := ⟨nofun, nofun⟩
    refine ⟨⟨⟨orderly, rfl, .new _, ?_⟩, rfl⟩, nofun⟩
    intro r s h
    cases r <;> cases h
  | step _ hs ih => exact ih.step hs

theorem Reachable.parts {s : Scene σ} (h : Reachable d s) :
    ∀ t ∈ s.tasks, t.2.All (Part d fun _ => True) := by
  induction h with
  | start servers now blacklist => exact nofun
  | step _ hs ih => exact hs.tasks (fun k _ => part_task fun _ _ => trivial) ih

section Lasting

variable {Inv : Connection → World σ → Prop} {stuck : World σ → Prop} {s s' : Scene σ}

/-- What lasts, and is no matter of the servers, the clock and the blacklist, outlives a step. -/
theorem Scene.Step.maintains (hs : s.Step d s') (h : Reachable d s)
    (hL : Lasting d (fun _ => True) Inv stuck)
    (drifts : ∀ {c w servers now blacklist}, Inv c w → Inv c { w with servers, now, blacklist })
    (hi : Inv s.connection s.world) : Inv s'.connection s'.world := by
  cases hs with
  | call k => exact hi
  | @advance before after α β act next b c w turn comes =>
    have hpart := Scene.head_of_turn h.parts turn
    exact ((hL.part hpart _ _ h.atRest.settled hi).value comes).2
  | leave gone => exact hi
  | drift servers now blacklist => exact drifts hi

/-- What lasts holds at all times if it holds of a new connection. -/
theorem Reachable.maintains (h : Reachable d s) (hL : Lasting d (fun _ => True) Inv stuck)
    (starts : ∀ servers now blacklist, Inv (.new d.hasReplicas) { servers, now, blacklist })
    (drifts : ∀ {c w servers now blacklist}, Inv c w → Inv c { w with servers, now, blacklist }) :
    Inv s.connection s.world := by
  induction h with
  | start servers now blacklist => exact starts servers now blacklist
  | step h hs ih => exact hs.maintains h hL drifts ih

end Lasting

end Calls

section Alone

variable {d : Deployment} {α : Type} {a : α} {c c' : Connection} {w w' : World σ}

theorem Reachable.run {before : List (Task σ)} {t : Job σ α}
    (h : Reachable d ⟨c, w, before ++ [⟨α, t⟩]⟩) (hrun : t.run c w = (some (a, c'), w')) :
    Reachable d ⟨c', w', before ++ [⟨α, .done a⟩]⟩ := by
  induction t generalizing c w with
  | done b =>
    cases hrun
    exact h
  | step act next ih =>
    obtain ⟨⟨b, c₁⟩, w₁, hx, hrun⟩ := bind_eq_some.1 hrun
    exact ih b (h.step (.advance rfl hx)) hrun

/-- What a call does at its first turn, with the call given up after it. -/
theorem Reachable.visit {s : Scene σ} {β : Type} {act : Section σ β} {next : β → Job σ α} {b : β}
    (h : Reachable d s) (k : Call) (hk : k.task d = ⟨α, .step act next⟩)
    (comes : act s.connection s.world = (some (b, c), w)) : Reachable d ⟨c, w, s.tasks⟩ := by
  have hcall := h.step (.call s k)
  rw [hk] at hcall
  have hgone := (hcall.step (.advance rfl comes)).step (.leave rfl)
  rwa [List.append_nil] at hgone

theorem Reachable.alone {s : Scene σ} {t : Job σ α} (h : Reachable d s) (k : Call)
    (hk : k.task d = ⟨α, t⟩) (hrun : t.run s.connection s.world = (some (a, c'), w')) :
    Reachable d ⟨c', w', s.tasks ++ [⟨α, .done a⟩]⟩ := by
  have hcall := h.step (.call s k)
  rw [hk] at hcall
  exact hcall.run hrun

end Alone

end Failover
