import Failover.Proofs.Course
import Failover.Proofs.Invariants
import Mathlib.Data.List.Forall2

/-!
# Batches

The statements of a batch are run on one session, in order and each of them once, until one fails
(`RanThrough`). What follows on a failure hands over no command, and neither does what comes
before, so this is all that a whole call hands over (`Batched`).
-/

namespace Failover

open Act World

variable {σ : Type}

/-- The session gave this result in answer. -/
def Handover.Brings (t : Handover) (result : Except Error QueryResult) : Prop :=
  ∃ wait, t.reply = some (.answer wait result)

/-- How commands are handed to session `n` one after another until one fails, and what they come
to. -/
inductive RanThrough (n : SessionId) :
    List Command → List Handover → Option (Except Error (List QueryResult)) → Prop
  | done : RanThrough n [] [] (some (.ok []))
  | silent {cmd : Command} (rest : List Command) :
      RanThrough n (cmd :: rest) [⟨n, cmd, some .silence⟩] none
  | fails {cmd : Command} {e : Error} (rest : List Command) (wait : Nat) :
      RanThrough n (cmd :: rest) [⟨n, cmd, some (.answer wait (.error e))⟩] (some (.error e))
  | goesOn {cmd : Command} {rest : List Command} (wait : Nat) {r r' : QueryResult}
      {ts : List Handover} {a : Option (Except Error (List QueryResult))}
      (shown : cmd.shown (.ok r) = .ok r') (later : RanThrough n rest ts a) :
      RanThrough n (cmd :: rest) (⟨n, cmd, some (.answer wait (.ok r))⟩ :: ts)
        (a.map (Except.map (r' :: ·)))

namespace RanThrough

variable {n : SessionId} {cmds : List Command} {ts : List Handover}
  {a : Option (Except Error (List QueryResult))}

theorem session (h : RanThrough n cmds ts a) : ∀ t ∈ ts, t.session = n := by
  induction h with
  | done => exact fun t ht => nomatch ht
  | silent rest => simp
  | fails rest wait => simp
  | goesOn wait shown later ih => simpa using ih

theorem inOrder (h : RanThrough n cmds ts a) : ts.map Handover.command <+: cmds := by
  induction h with
  | done => exact List.prefix_rfl
  | silent rest => exact ⟨rest, rfl⟩
  | fails rest wait => exact ⟨rest, rfl⟩
  | goesOn wait shown later ih => exact List.cons_prefix_cons.2 ⟨rfl, ih⟩

/-- All but the last were answered without error. -/
theorem answered (h : RanThrough n cmds ts a) : ∀ t ∈ ts.dropLast, ∃ r, t.Brings (.ok r) := by
  induction h with
  | done => exact fun t ht => nomatch ht
  | silent rest => exact fun t ht => nomatch ht
  | fails rest wait => exact fun t ht => nomatch ht
  | @goesOn cmd rest wait r r' ts a shown later ih =>
    intro t ht
    cases ts with
    | nil => cases ht
    | cons t' ts =>
      rw [List.dropLast_cons_cons] at ht
      rcases List.mem_cons.1 ht with rfl | ht
      · exact ⟨r, wait, rfl⟩
      · exact ih t ht

theorem of_ok (h : RanThrough n cmds ts a) (plain : ∀ cmd ∈ cmds, cmd.shown = id)
    {rs : List QueryResult} (ha : a = some (.ok rs)) : ts.map Handover.command = cmds ∧
      List.Forall₂ (fun t r => t.Brings (.ok r)) ts rs := by
  induction h generalizing rs with
  | done =>
    cases ha
    exact ⟨rfl, .nil⟩
  | silent rest => cases ha
  | fails rest wait => cases ha
  | @goesOn cmd rest wait r r' ts a shown later ih =>
    rcases a with _ | _ | rs'
    · cases ha
    · cases ha
    · cases ha
      obtain ⟨hcmds, hall⟩ := ih (fun x hx => plain x (List.mem_cons_of_mem _ hx)) rfl
      rw [plain cmd List.mem_cons_self] at shown
      cases shown
      exact ⟨congrArg (cmd :: ·) hcmds, .cons ⟨wait, rfl⟩ hall⟩

theorem of_error (h : RanThrough n cmds ts a) {e : Error} (ha : a = some (.error e)) :
    ∃ t, ts.getLast? = some t ∧ t.Brings (.error e) := by
  induction h with
  | done => cases ha
  | silent rest => cases ha
  | fails rest wait =>
    cases ha
    exact ⟨_, rfl, wait, rfl⟩
  | @goesOn cmd rest wait r r' ts a shown later ih =>
    rcases a with _ | e' | _
    · cases ha
    · cases ha
      obtain ⟨t, hlast, ht⟩ := ih rfl
      refine ⟨t, ?_, ht⟩
      rw [List.getLast?_cons, hlast]
      rfl
    · cases ha

/-- The handovers are those that their events tell of. -/
theorem handovers_events (h : RanThrough n cmds ts a) :
    handovers (ts.flatMap Handover.events) = ts := by
  induction h with
  | done => rfl
  | silent rest => simp [Handover.events, handovers, Event.replyOf]
  | fails rest wait => simp [Handover.events, handovers, Event.replyOf]
  | goesOn wait shown later ih =>
    rw [List.flatMap_cons]
    simpa [Handover.events, handovers, Event.replyOf] using ih

end RanThrough

section Actions

variable {n : SessionId} {cmds : List Command} {c : Connection} {w w' : World σ}

/-- From one world to the other commands were run on a session until one of them failed. -/
def World.RunsThrough (n : SessionId) (cmds : List Command)
    (a : Option (Except Error (List QueryResult))) (w w' : World σ) : Prop :=
  w.journal <:+ w'.journal ∧
    ∃ ts, w.since w' = ts.flatMap Handover.events ∧ RanThrough n cmds ts a

theorem World.RunsThrough.of_ran {h : Handle} {cmd : Command} {reply : Reply}
    {a : Option (Except Error (List QueryResult))} (hr : Ran h cmd reply w w')
    (hthrough : RanThrough n cmds [⟨h.session, cmd, some reply⟩] a) :
    w.RunsThrough n cmds a w' :=
  ⟨hr.suffix, _, by rw [hr.since, List.flatMap_singleton], hthrough⟩

theorem meets_runAll_through [Cluster σ] {n : SessionId} : ∀ (cmds : List Command) (w : World σ)
    (h : Handle), w.handles.get? n = some h → (runAll n cmds).Meets w
      (fun x w' => w.RunsThrough n cmds (some x) w') (w.RunsThrough n cmds none)
  | [], w, h, hh => meets_pure ⟨List.suffix_rfl, [], since_self, .done⟩
  | cmd :: rest, w, h, hh => by
    unfold runAll
    refine meets_bind (m := fun x w' => w' = w ∧ x = some h) (meets_ask ⟨rfl, hh⟩) ?_
    rintro _ w ⟨rfl, rfl⟩
    obtain rfl := session_of_get? hh
    refine meets_bind (meets_run.mono (fun _ _ h => h)
      fun _ hr => .of_ran hr (.silent rest)) ?_
    rintro _ w₁ ⟨wait, result, rfl, hr⟩
    cases result with
    | error e =>
      rw [cmd.shown_error]
      exact meets_pure (.of_ran hr (.fails rest wait))
    | ok r =>
      obtain ⟨r', hshown⟩ := cmd.shown_ok r
      rw [hshown]
      have hk : Work h.session (cmd :: rest) w w₁ := hr.work hh List.mem_cons_self
      obtain ⟨b, hb⟩ := hk.own
      rw [hh] at hb
      have later {a : Option (Except Error (List QueryResult))} {w₂ : World σ}
          (h₂ : w₁.RunsThrough h.session rest a w₂) :
          w.RunsThrough h.session (cmd :: rest) (a.map (Except.map (r' :: ·))) w₂ := by
        obtain ⟨hsuffix, ts, hts, hthrough⟩ := h₂
        refine ⟨hr.suffix.trans hsuffix, _, ?_, .goesOn wait hshown hthrough⟩
        rw [since_append hr.suffix hsuffix, hr.since, hts, List.flatMap_cons]
      refine meets_bind ((meets_runAll_through rest w₁ _ hb).mono (fun _ _ h => h)
        fun _ h₂ => later h₂) ?_
      exact fun results w₂ h₂ => meets_pure (later h₂)

/-- What sending a batch to the session routed to comes to. -/
inductive SentThrough [Cluster σ] (c : Connection) (cmds : List Command) (w : World σ) :
    Except Error (SessionId × Except Error (List QueryResult)) → World σ → Prop
  | unsent {w' : World σ} (e : Error) (still : w.Still w') : SentThrough c cmds w (.error e) w'
  | sent {w' : World σ} (h : Handle) (results : Except Error (List QueryResult))
      (routed : Routed c cmds w h) (through : w.RunsThrough h.session cmds (some results) w') :
      SentThrough c cmds w (.ok (h.session, results)) w'

theorem meets_dispatchAll_through [Cluster σ] :
    (dispatchAll cmds c).Meets w (SentThrough c cmds w)
      fun w' => ∃ h, Routed c cmds w h ∧ w.RunsThrough h.session cmds none w' := by
  unfold dispatchAll
  refine meets_bind meets_currentHandle? ?_
  rintro (_ | h) w ⟨rfl, hh⟩
  · exact meets_pure (.unsent _ (Still.refl w))
  refine meets_bind meets_guardWrites ?_
  rintro (e | _) w' ⟨hb, hguard⟩
  · exact meets_pure (.unsent e hb)
  obtain ⟨rfl, hallowed⟩ := hguard rfl
  have routed : Routed c cmds w' h := ⟨Option.bind_eq_some_iff.1 hh.symm, hallowed⟩
  refine meets_bind ((meets_runAll_through cmds w' h routed.known).mono (fun _ _ h => h)
    fun _ hw => ⟨h, routed, hw⟩) ?_
  exact fun results w'' hw => meets_pure (.sent h results routed hw)

end Actions

/-- What is promised of a batch. -/
structure Batched [Cluster σ] (statements : List String) (vs : List (Visit σ))
    (a : Option (Except Error (List QueryResult))) : Prop where
  /-- The statements that are sent are the first ones in order, each of them once. -/
  inOrder : (handedOver vs).map Handover.command <+: statements.map .execute
  /-- If any are sent, then all in one section, to the session that is routed to there. None of
  the batch is a write unless the mode is read-only or this session counts as the master's. -/
  together : handedOver vs ≠ [] → ∃ before v after h, vs = before ++ v :: after ∧
    handedOver before = [] ∧ handedOver after = [] ∧
    v.events = (handedOver vs).flatMap Handover.events ∧
    (∀ t ∈ handedOver vs, t.session = h.session) ∧
    (∃ s, v.connection.currentSlot = some s ∧ v.world.handles.get? s.session = some h) ∧
    (v.connection.readOnly = false → h.role ≠ .master →
      ∀ sql ∈ statements, (Command.execute sql).isWrite = false)
  /-- All of them but the last were answered without error. -/
  answered : ∀ t ∈ (handedOver vs).dropLast, ∃ r, t.Brings (.ok r)
  ok : ∀ rs, a = some (.ok rs) → (handedOver vs).map Handover.command = statements.map .execute ∧
    List.Forall₂ (fun t r => t.Brings (.ok r)) (handedOver vs) rs
  error : ∀ x, a = some (.error x) → handedOver vs ≠ [] → ∃ t e,
    (handedOver vs).getLast? = some t ∧ t.Brings (.error e) ∧
      if e.isConnectionException then ∃ reconnected cause, x = .failover reconnected e cause
      else x = e

section ExecuteAll

variable [Cluster σ] {d : Deployment} {s s' : Scene σ} {statements : List String}
  {before vs : List (Visit σ)} {a : Option (Except Error (List QueryResult))}

theorem Batched.of_none (hv : handedOver vs = [])
    (ha : ∀ rs, a = some (.ok rs) → statements = [] ∧ rs = []) : Batched statements vs a where
  inOrder := by rw [hv]; exact List.nil_prefix
  together h := absurd hv h
  answered t ht := by rw [hv] at ht; cases ht
  ok rs hrs := by
    obtain ⟨rfl, rfl⟩ := ha rs hrs
    rw [hv]
    exact ⟨rfl, .nil⟩
  error _ _ h := absurd hv h

/-- The statements were run as far as that goes, and nothing else was handed over. -/
theorem Batched.of_ranThrough {v : Visit σ} {after : List (Visit σ)} {h : Handle}
    {results : Option (Except Error (List QueryResult))} {ts : List Handover}
    (routed : Routed v.connection (statements.map .execute) v.world h)
    (events : v.events = ts.flatMap Handover.events)
    (through : RanThrough h.session (statements.map .execute) ts results)
    (hbefore : handedOver before = []) (hafter : handedOver after = [])
    (ok : ∀ rs, a = some (.ok rs) → results = some (.ok rs))
    (error : ∀ x, a = some (.error x) → ∃ e, results = some (.error e) ∧
      if e.isConnectionException then ∃ reconnected cause, x = .failover reconnected e cause
      else x = e) : Batched statements (before ++ v :: after) a := by
  have hv : handedOver (before ++ v :: after) = ts := by
    rw [handedOver_append, handedOver_cons, hbefore, hafter, List.nil_append, List.append_nil]
    change handovers v.events ++ [] = ts
    rw [events, through.handovers_events, List.append_nil]
  constructor <;> rw [hv]
  · exact through.inOrder
  · refine fun _ => ⟨before, v, after, h, rfl, hbefore, hafter, events, through.session,
      routed.slot, fun hmode hrole => ?_⟩
    have hreads := routed.allowed.resolve_left (by simp [hmode]) |>.resolve_left hrole
    exact fun sql hsql => hreads _ (List.mem_map_of_mem hsql)
  · exact through.answered
  · refine fun rs hrs => through.of_ok ?_ (ok rs hrs)
    intro cmd hcmd
    obtain ⟨sql, -, rfl⟩ := List.mem_map.1 hcmd
    rfl
  · intro x hx _
    obtain ⟨e, he, hxe⟩ := error x hx
    obtain ⟨t, hlast, ht⟩ := through.of_error he
    exact ⟨t, e, hlast, ht, hxe⟩

/-- A failover after which nothing is to be sent again hands over nothing. -/
theorem all_failOver_none (n : SessionId) : (failOver d n none : Job σ _).All (Calm d) :=
  all_failOver_of (calm_unchanged fun _ w => Beside.refl w) (calm_recover n) nofun

/-- What comes of sending a batch in the course of a call. -/
inductive DeliveredAll (cmds : List Command) (v : Visit σ) :
    Option (Except Error (SessionId × Except Error (List QueryResult))) → Prop
  | unsent (e : Error) (quiet : handovers v.events = []) : DeliveredAll cmds v (some (.error e))
  | sent (h : Handle) (results : Except Error (List QueryResult)) (ts : List Handover)
      (routed : Routed v.connection cmds v.world h) (events : v.events = ts.flatMap Handover.events)
      (through : RanThrough h.session cmds ts (some results)) :
      DeliveredAll cmds v (some (.ok (h.session, results)))
  | silent (h : Handle) (ts : List Handover) (routed : Routed v.connection cmds v.world h)
      (events : v.events = ts.flatMap Handover.events)
      (through : RanThrough h.session cmds ts none) : DeliveredAll cmds v none

theorem Course.deliveredAll {M : Scene σ → Scene σ → Prop} {cmds : List Command}
    {a : Option (Except Error (SessionId × Except Error (List QueryResult)))}
    (h : Course M (.reading (dispatchAll cmds)) s vs a s') :
    ∃ v, vs = [v] ∧ DeliveredAll cmds v a := by
  obtain ⟨m, w, -, rfl, hx, -, -⟩ := h.of_reading
  refine ⟨_, rfl, ?_⟩
  have hevents : Visit.events ⟨Job.unchanged (dispatchAll cmds), m.connection, m.world⟩ =
      m.world.since w := by
    have hworld : (Job.unchanged (dispatchAll cmds) m.connection m.world).2 = w := by
      unfold Job.unchanged
      rw [bind_apply, hx]
      cases a <;> rfl
    exact congrArg m.world.since hworld
  cases a with
  | none =>
    obtain ⟨x, hr, -, ts, hts, hthrough⟩ := meets_dispatchAll_through.stalled hx
    exact .silent x ts hr (hevents.trans hts) hthrough
  | some x =>
    cases meets_dispatchAll_through.value hx with
    | unsent e hw => exact .unsent e (by rw [hevents, hw.beside.quiet.handovers])
    | sent x results hr hthrough =>
      obtain ⟨-, ts, hts, hthrough⟩ := hthrough
      exact .sent x results ts hr (hevents.trans hts) hthrough

/-- What is made of the failure of a statement. Nothing more is handed over. -/
theorem Course.failedBatch {n : SessionId} {e : Error} (hs : s.AtRest d)
    (h : Course (Meanwhile d) (if !e.isConnectionException then return .error e else do
      let report ← failOver d n none
      return .error (.failover report.reconnected e report.cause)) s vs a s') :
    handedOver vs = [] ∧ ∀ x, a = some x → ∃ e', x = .error e' ∧
      if e.isConnectionException then ∃ reconnected cause, e' = .failover reconnected e cause
      else e' = e := by
  split at h
  next hother =>
    obtain ⟨rfl, rfl, -⟩ := h.of_done
    refine ⟨rfl, ?_⟩
    intro x hx
    cases hx
    exact ⟨e, rfl, by rw [if_neg (by simpa using hother)]⟩
  next hbroken =>
    refine ⟨h.calm ((all_failOver_none n).bind fun _ => .done _) hs, ?_⟩
    intro x hx
    rcases h.of_bind with ⟨rfl, -⟩ | ⟨report, vs₁, vs₂, m, -, -, h'⟩
    · cases hx
    obtain ⟨-, rfl, -⟩ := h'.of_done
    cases hx
    exact ⟨_, rfl, by rw [if_pos (by simpa using hbroken)]; exact ⟨_, _, rfl⟩⟩

theorem Course.carriedOutAll (h : Course (Meanwhile d) (carryOutAll d (statements.map .execute))
      s vs a s') (hs : s.AtRest d) (hv : handedOver before = []) :
    Batched statements (before ++ vs) a := by
  unfold carryOutAll at h
  rcases h.of_bind with ⟨rfl, h₁⟩ | ⟨x, vs₁, vs₂, m, rfl, h₁, h₂⟩
  · obtain ⟨v, rfl, hd⟩ := h₁.deliveredAll
    cases hd with
    | silent x ts routed events through =>
      exact .of_ranThrough routed events through hv rfl nofun nofun
  obtain ⟨v, rfl, hd⟩ := h₁.deliveredAll
  have hm := (h₁.atRest (Job.all_atomic (lawful_dispatchAll _)) hs rfl).1
  rw [List.singleton_append]
  cases hd with
  | unsent e quiet =>
    obtain ⟨rfl, rfl, -⟩ := h₂.of_done
    refine .of_none ?_ nofun
    rw [handedOver_append, hv]
    change handovers v.events ++ [] = []
    rw [quiet, List.append_nil]
  | sent x results ts routed events through =>
  cases results with
  | ok rs =>
    obtain ⟨rfl, rfl, -⟩ := h₂.of_done
    exact .of_ranThrough routed events through hv rfl
      (fun rs' h => by cases h; rfl) nofun
  | error e =>
    obtain ⟨hquiet, hfails⟩ := h₂.failedBatch hm
    refine .of_ranThrough routed events through hv hquiet ?_ ?_
    · intro rs hrs
      obtain ⟨_, hx, -⟩ := hfails _ hrs
      cases hx
    · intro x hx
      obtain ⟨e', hx', hcause⟩ := hfails _ hx
      cases hx'
      exact ⟨e, rfl, hcause⟩

theorem batched_of_executeAll (hs : Reachable d s)
    (h : Course (Meanwhile d) (executeAll d statements) s vs a s') : Batched statements vs a := by
  unfold executeAll at h
  dsimp only at h
  split at h
  next first _ =>
    rcases h.of_bind with ⟨rfl, h₁⟩ | ⟨admitted, vs₁, vs₂, m, rfl, h₁, h₂⟩
    · exact .of_none (h₁.calm (all_prepare first) hs.atRest) nofun
    have hv₁ := h₁.calm (all_prepare first) hs.atRest
    have hm := (h₁.atRest (all_prepare first).lawful hs.atRest rfl).1
    cases admitted with
    | error e =>
      obtain ⟨rfl, rfl, -⟩ := h₂.of_done
      exact .of_none (by rw [List.append_nil, hv₁]) nofun
    | ok _ => exact h₂.carriedOutAll hm hv₁
  next hnone =>
    obtain ⟨rfl, rfl, -⟩ := h.of_done
    refine .of_none rfl fun rs hrs => ⟨?_, ?_⟩
    · cases statements with
      | nil => rfl
      | cons sql rest => simp [leadingCommand] at hnone
    · cases hrs
      rfl

end ExecuteAll

theorem batched_of_two : ∃ (s s' : Scene Script) (vs : List (Visit Script))
    (rs : List QueryResult), Reachable pair s ∧
      Course (Meanwhile pair) (executeAll pair ["SELECT 1", "DELETE FROM t"]) s vs
        (some (.ok rs)) s' ∧
      (handedOver vs).length = 2 ∧
        Batched ["SELECT 1", "DELETE FROM t"] vs (some (.ok rs)) := by
  have hx : established.yields { servers := {} } (fun x w =>
      ((executeAll pair ["SELECT 1", "DELETE FROM t"]).run x.2).yields w fun r _ => r.1.isOk &&
        (handedOver ((executeAll pair ["SELECT 1", "DELETE FROM t"]).visits x.2 w)).length == 2)
          = true := by
    decide +kernel
  obtain ⟨⟨b, c⟩, w, hy, hx⟩ := exists_of_yields hx
  have h := reachable_established hy
  obtain ⟨⟨_ | rs, c'⟩, w', hz, hr⟩ := exists_of_yields hx <;>
    obtain ⟨hok, htwo⟩ := Bool.and_eq_true_iff.1 hr
  · cases hok
  · have course := Course.of_run (M := Meanwhile pair) (fun _ => .refl) hz [⟨_, .done b⟩]
    exact ⟨_, _, _, rs, h, course, by simpa using htwo, batched_of_executeAll h course⟩

end Failover
