import Failover.Dispatch
import Failover.Proofs.Election

/-!
# Handing commands to sessions

A command that is run on a handle makes one call, and its journal shows both (`Ran`). A dispatched
command is either not sent at all or run on the session that the connection is routed to, which
has to be pinned as the master's for a write unless the mode is read-only (`Dispatched`). However
many commands are run on one session, no verdict is passed and no other handle is touched
(`Work`).
-/

namespace Failover

open Act World

namespace Command

/-- The request that a command makes of a session. -/
def request : Command → Request
  | query sql => .query sql
  | execute sql => .execute sql
  | ping => .ping
  | setCatalog database => .execute (Sql.useDatabase database)
  | begin => .execute "START TRANSACTION"
  | commit => .execute "COMMIT"
  | rollback => .execute "ROLLBACK"

/-- What a command has to show of the answer to its request. -/
def shown (cmd : Command) (result : Except Error QueryResult) : Except Error QueryResult :=
  match cmd with
  | ping | setCatalog _ => result.map fun _ => {}
  | _ => result

/-- What a reply makes of the transaction flag, if anything: only an answer without error does. -/
def settles (cmd : Command) : Reply → Option Bool
  | .answer _ (.ok _) => cmd.transactionAfter
  | _ => none

theorem not_isWrite {cmd : Command} (h : cmd.isRepeatable = true) : cmd.isWrite = false := by
  rw [← Bool.not_eq_true]
  intro hw
  cases h.symm.trans (not_repeatable_of_isWrite hw)

theorem shown_error (cmd : Command) (e : Error) : cmd.shown (.error e) = .error e := by
  cases cmd <;> rfl

theorem shown_ok (cmd : Command) (r : QueryResult) : ∃ r', cmd.shown (.ok r) = .ok r' := by
  cases cmd <;> exact ⟨_, rfl⟩

theorem eq_error_of_shown {cmd : Command} {result : Except Error QueryResult} {e : Error}
    (h : cmd.shown result = .error e) : result = .error e := by
  cases result with
  | error x => rwa [shown_error] at h
  | ok r => cases cmd <;> cases h

theorem send_eq {σ : Type} [Cluster σ] (n : SessionId) (cmd : Command) :
    (cmd.send n : Act σ _) = cmd.shown <$> call n cmd.request := by
  cases cmd <;> simp only [send, request, shown, selectDatabase, map_eq_pure_bind, bind_pure]

end Command

variable {σ : Type}

/-- The command was run on the handle and brought this reply. -/
structure Ran (h : Handle) (cmd : Command) (reply : Reply) (w w' : World σ) : Prop where
  opened : w'.opened = w.opened
  journal : w'.journal = ⟨w.now, .called h.session cmd.request reply⟩ ::
    ⟨w.now, .ran h.session cmd⟩ :: w.journal
  handles : w'.handles = match cmd.settles reply with
    | some b => w.handles.put { h with inTransaction := b }
    | none => w.handles

/-- One of the commands is handed to the session, or the request of one of them is made. -/
inductive Event.IsWork (n : SessionId) (cmds : List Command) : Event → Prop
  | ran {cmd : Command} (mem : cmd ∈ cmds) : IsWork n cmds (.ran n cmd)
  | called {cmd : Command} (mem : cmd ∈ cmds) (reply : Reply) :
      IsWork n cmds (.called n cmd.request reply)

/-- Only commands among `cmds` were handed over, and to session `n` alone. -/
structure Work (n : SessionId) (cmds : List Command) (w w' : World σ) : Prop where
  opened : w.opened ≤ w'.opened
  adds : w.Adds (Event.IsWork n cmds) w'
  handle : ∀ m, m ≠ n → w'.handles.get? m = w.handles.get? m
  own : ∃ b, w'.handles.get? n =
    (w.handles.get? n).map fun h => { h with inTransaction := b }

/-- The handle that commands go to, and none of these commands is a write unless it may be. -/
structure Routed (c : Connection) (cmds : List Command) (w : World σ) (h : Handle) : Prop where
  slot : ∃ s, c.currentSlot = some s ∧ w.handles.get? s.session = some h
  allowed : c.readOnly = true ∨ h.role = .master ∨ ∀ cmd ∈ cmds, cmd.isWrite = false

/-- What dispatching a command comes to. -/
inductive Dispatched [Cluster σ] (c : Connection) (cmd : Command) (w : World σ) :
    Except Error (SessionId × Except Error QueryResult) → World σ → Prop
  | unsent {w' : World σ} (e : Error) (still : w.Still w') : Dispatched c cmd w (.error e) w'
  | sent {w' : World σ} (h : Handle) (wait : Nat) (result : Except Error QueryResult)
      (routed : Routed c [cmd] w h) (ran : Ran h cmd (.answer wait result) w w') :
      Dispatched c cmd w (.ok (h.session, cmd.shown result)) w'

/-- What dispatching a batch comes to. -/
inductive DispatchedAll [Cluster σ] (c : Connection) (cmds : List Command) (w : World σ) :
    Except Error (SessionId × Except Error (List QueryResult)) → World σ → Prop
  | unsent {w' : World σ} (e : Error) (still : w.Still w') : DispatchedAll c cmds w (.error e) w'
  | sent {w' : World σ} (h : Handle) (results : Except Error (List QueryResult))
      (routed : Routed c cmds w h) (work : Work h.session cmds w w')
      (first : ∀ cmd ∈ cmds.head?, ⟨w.now, .ran h.session cmd⟩ :: w.journal <:+ w'.journal) :
      DispatchedAll c cmds w (.ok (h.session, results)) w'

section Work

variable {n : SessionId} {cmds : List Command} {u v w w' : World σ} {h : Handle}

theorem Event.IsWork.mono {e : Event} {cmds' : List Command} (he : e.IsWork n cmds)
    (hc : cmds ⊆ cmds') : e.IsWork n cmds' := by
  cases he with
  | ran mem => exact .ran (hc mem)
  | called mem reply => exact .called (hc mem) reply

theorem Event.IsWork.verdictOn {e : Event} (he : e.IsWork n cmds) (m : SessionId) :
    e.verdictOn m = none := by
  cases he <;> rfl

theorem Event.IsWork.of_ran {m : SessionId} {cmd : Command}
    (he : (Event.ran m cmd).IsWork n cmds) : m = n ∧ cmd ∈ cmds := by
  cases he with
  | ran mem => exact ⟨rfl, mem⟩

theorem Work.refl (w : World σ) : Work n cmds w w where
  opened := le_rfl
  adds := .refl w
  handle _ _ := rfl
  own := by
    rcases w.handles.get? n with _ | h
    · exact ⟨false, rfl⟩
    · exact ⟨h.inTransaction, rfl⟩

theorem Work.trans (h : Work n cmds u v) (h' : Work n cmds v w) : Work n cmds u w where
  opened := h.opened.trans h'.opened
  adds := h.adds.trans h'.adds
  handle m hm := (h'.handle m hm).trans (h.handle m hm)
  own := by
    obtain ⟨b, hb⟩ := h.own
    obtain ⟨b', hb'⟩ := h'.own
    exact ⟨b', by rw [hb', hb, Option.map_map]; rfl⟩

theorem Routed.known {c : Connection} (hr : Routed c cmds w h) :
    w.handles.get? h.session = some h := by
  obtain ⟨s, -, hs⟩ := hr.slot
  rwa [session_of_get? hs]

theorem Work.mono {cmds' : List Command} (h : Work n cmds v w) (hc : cmds ⊆ cmds') :
    Work n cmds' v w where
  opened := h.opened
  adds := h.adds.mono fun _ he => he.mono hc
  handle := h.handle
  own := h.own

theorem Work.keeps (h : Work n cmds v w) : v.Keeps w := by
  intro m hm
  by_cases hmn : m = n
  · obtain ⟨b, hb⟩ := h.own
    rw [hmn] at hm ⊢
    rwa [hb, Option.isSome_map]
  · rwa [h.handle m hmn]

theorem Ran.work {cmd : Command} {reply : Reply} (hr : Ran h cmd reply w w')
    (hh : w.handles.get? h.session = some h) (hc : cmd ∈ cmds) : Work h.session cmds w w' where
  opened := hr.opened.ge
  adds := by
    refine ⟨[_, _], hr.journal, ?_⟩
    intro e he
    simp only [List.mem_cons, List.not_mem_nil, or_false] at he
    rcases he with rfl | rfl
    · exact .called hc reply
    · exact .ran hc
  handle m hm := by
    rw [hr.handles]
    cases cmd.settles reply with
    | none => rfl
    | some b => rw [Handles.get?_put, if_neg hm]
  own := by
    rw [hr.handles]
    cases cmd.settles reply with
    | none => exact ⟨h.inTransaction, by rw [hh]; rfl⟩
    | some b => exact ⟨b, by rw [Handles.get?_put, if_pos rfl, hh]; rfl⟩

end Work

section Actions

variable [Cluster σ] {w : World σ} {c : Connection}

theorem meets_run {h : Handle} {cmd : Command} :
    (h.run cmd).Meets w (fun x w' => ∃ wait result, x = cmd.shown result ∧
      Ran h cmd (.answer wait result) w w') fun w' => Ran h cmd .silence w w' := by
  unfold Handle.run
  rw [Command.send_eq]
  refine meets_bind (m := fun _ w' => w' = _) (meets_change rfl) fun _ w₁ h₁ => ?_
  subst h₁
  refine meets_bind (m := fun x w' => ∃ wait result, x = cmd.shown result ∧
    w'.opened = w.opened ∧ w'.handles = w.handles ∧ w'.journal =
      ⟨w.now, .called h.session cmd.request (.answer wait result)⟩ ::
        ⟨w.now, .ran h.session cmd⟩ :: w.journal) ?_ ?_
  · refine meets_map ?_
    unfold Meets call
    rcases Cluster.call h.session cmd.request (w.noting (.ran h.session cmd)).servers with
      ⟨⟨wait, result⟩ | _, servers⟩ <;> dsimp only
    · exact ⟨wait, result, rfl, rfl, rfl, rfl⟩
    · exact ⟨rfl, rfl, rfl⟩
  · rintro _ w' ⟨wait, result, rfl, ho, hh, hj⟩
    cases result with
    | error e =>
      rw [cmd.shown_error]
      exact meets_pure ⟨wait, .error e, (cmd.shown_error e).symm, ho, hj, hh⟩
    | ok r =>
      obtain ⟨r', hr'⟩ := cmd.shown_ok r
      rw [hr']
      cases hb : cmd.transactionAfter with
      | none => exact meets_pure ⟨wait, .ok r, hr'.symm, ho, hj, by simpa [Command.settles, hb]⟩
      | some b => exact ⟨wait, .ok r, hr'.symm, ho, hj, by simp [Command.settles, hb, hh]⟩

omit [Cluster σ] in
theorem meets_currentHandle? {stuck : World σ → Prop} :
    (currentHandle? c).Meets w (fun x w' => w' = w ∧
      x = c.currentSlot.bind fun s => w.handles.get? s.session) stuck := by
  unfold currentHandle?
  cases c.currentSlot <;> exact ⟨rfl, rfl⟩

theorem meets_guardWrites {h : Handle} {cmds : List Command} {stuck : World σ → Prop} :
    (guardWrites c h cmds).Meets w (fun x w' => w.Still w' ∧ (x = .ok () → w' = w ∧
      (c.readOnly = true ∨ h.role = .master ∨ ∀ cmd ∈ cmds, cmd.isWrite = false))) stuck := by
  unfold guardWrites
  split
  next hfree =>
    refine meets_pure ⟨Still.refl w, fun _ => ⟨rfl, ?_⟩⟩
    rcases Bool.or_eq_true_iff.1 hfree with h | h
    · exact .inl h
    · exact .inr (.inl (of_decide_eq_true h))
  next =>
    split
    · refine meets_bind_harmless (harmless_log _ _) fun _ w₁ h₁ => ?_
      exact meets_pure ⟨h₁, nofun⟩
    next hnone =>
      refine meets_pure ⟨Still.refl w, fun _ => ⟨rfl, .inr (.inr ?_)⟩⟩
      intro cmd hcmd
      simpa using List.find?_eq_none.1 hnone cmd hcmd

theorem meets_dispatch {cmd : Command} : (dispatch cmd c).Meets w (Dispatched c cmd w)
    fun w' => ∃ h, Routed c [cmd] w h ∧ Ran h cmd .silence w w' := by
  unfold dispatch
  refine meets_bind meets_currentHandle? ?_
  rintro (_ | h) w ⟨rfl, hh⟩
  · exact meets_pure (.unsent _ (Still.refl w))
  refine meets_bind meets_guardWrites ?_
  rintro (e | _) w' ⟨hb, hguard⟩
  · exact meets_pure (.unsent e hb)
  obtain ⟨rfl, hallowed⟩ := hguard rfl
  have routed : Routed c [cmd] w' h := ⟨Option.bind_eq_some_iff.1 hh.symm, hallowed⟩
  refine meets_bind (meets_run.mono (fun _ _ h => h) fun _ hr => ⟨h, routed, hr⟩) ?_
  rintro _ w'' ⟨wait, result, rfl, hr⟩
  exact meets_pure (.sent h wait result routed hr)

/-- A read goes to the session that is routed to. -/
theorem meets_dispatch_of {cmd : Command} {q : Slot} {x : Handle}
    {post : Except Error (SessionId × Except Error QueryResult) → World σ → Prop}
    {stuck : World σ → Prop} (hq : c.currentSlot = some q)
    (hx : w.handles.get? q.session = some x) (hread : cmd.isWrite = false)
    (hrun : (x.run cmd).Meets w (fun r w' => post (.ok (x.session, r)) w') stuck) :
    (dispatch cmd c).Meets w post stuck := by
  unfold dispatch
  refine meets_bind meets_currentHandle? ?_
  rintro _ w ⟨rfl, rfl⟩
  rw [hq, Option.bind_some, hx]
  have hreads : guardWrites c x [cmd] = (pure (.ok ()) : Act σ _) := by
    simp [guardWrites, hread]
  dsimp only
  rw [hreads, pure_bind]
  exact meets_bind hrun fun _ _ h => meets_pure h

theorem meets_runAll {n : SessionId} : ∀ (cmds : List Command) (w : World σ) (h : Handle),
    w.handles.get? n = some h → (runAll n cmds).Meets w
      (fun _ w' => Work n cmds w w' ∧
        ∀ cmd ∈ cmds.head?, ⟨w.now, .ran n cmd⟩ :: w.journal <:+ w'.journal) (Work n cmds w)
  | [], w, h, hh => meets_pure ⟨Work.refl w, nofun⟩
  | cmd :: rest, w, h, hh => by
    unfold runAll
    refine meets_bind (m := fun x w' => w' = w ∧ x = some h) (meets_ask ⟨rfl, hh⟩) ?_
    rintro _ w ⟨rfl, rfl⟩
    obtain rfl := session_of_get? hh
    have work {reply : Reply} {w' : World σ} (hr : Ran h cmd reply w w') :
        Work h.session (cmd :: rest) w w' := hr.work hh List.mem_cons_self
    refine meets_bind (meets_run.mono (fun _ _ h => h) fun _ hr => work hr) ?_
    rintro _ w₁ ⟨wait, result, rfl, hr⟩
    have first : ⟨w.now, .ran h.session cmd⟩ :: w.journal <:+ w₁.journal :=
      ⟨[_], hr.journal.symm⟩
    split
    · refine meets_pure ⟨work hr, fun _ hc => ?_⟩
      obtain rfl := Option.some.inj hc
      exact first
    · obtain ⟨b, hb⟩ := (work hr).own
      rw [hh] at hb
      have later (w₂ : World σ) (h₂ : Work h.session rest w₁ w₂) :
          Work h.session (cmd :: rest) w w₂ :=
        (work hr).trans (h₂.mono (List.subset_cons_self cmd rest))
      refine meets_bind (m := fun _ w₂ => Work h.session rest w₁ w₂)
        ((meets_runAll rest w₁ _ hb).mono (fun _ _ h => h.1) fun w₂ h₂ => later w₂ h₂) ?_
      intro results w₂ h₂
      refine meets_pure ⟨later w₂ h₂, fun _ hc => ?_⟩
      obtain rfl := Option.some.inj hc
      exact first.trans h₂.adds.suffix

theorem meets_dispatchAll {cmds : List Command} :
    (dispatchAll cmds c).Meets w (DispatchedAll c cmds w)
      fun w' => ∃ h, Routed c cmds w h ∧ Work h.session cmds w w' := by
  unfold dispatchAll
  refine meets_bind meets_currentHandle? ?_
  rintro (_ | h) w ⟨rfl, hh⟩
  · exact meets_pure (.unsent _ (Still.refl w))
  refine meets_bind meets_guardWrites ?_
  rintro (e | _) w' ⟨hb, hguard⟩
  · exact meets_pure (.unsent e hb)
  obtain ⟨rfl, hallowed⟩ := hguard rfl
  have routed : Routed c cmds w' h := ⟨Option.bind_eq_some_iff.1 hh.symm, hallowed⟩
  refine meets_bind ((meets_runAll cmds w' h routed.known).mono (fun _ _ h => h)
    fun _ hw => ⟨h, routed, hw⟩) ?_
  rintro results w'' ⟨hw, hfirst⟩
  exact meets_pure (.sent h results routed hw hfirst)

end Actions

end Failover
