import Failover.Proofs.Comments
import Failover.Proofs.Transaction

/-!
# The selected database

A session is on the database of the last selection it accepted. After a database was selected
through the connection, every session that is opened later is asked for that database once, before
anything else is run on it, and the session that answered is on it. No other session that was there
already is asked for anything: a command that goes there finds it where it was left
(`database_follows_iff`).
-/

namespace Failover

open Act World

namespace Sql

/-- Whether a statement selects a database. -/
def selects (sql : String) : Bool := keyword (body sql.toList) = ['U', 'S', 'E']

theorem selects_useDatabase (database : String) : selects (useDatabase database) = true := by
  obtain ⟨name, hname⟩ : ∃ name, (useDatabase database).toList =
      'U' :: 'S' :: 'E' :: ' ' :: backtick :: name ++ [backtick] :=
    ⟨doubleBackticks database.toList, by simp [useDatabase, quoteIdentifier]⟩
  have hskip : Text.skipBlank (useDatabase database).toList = (useDatabase database).toList := by
    rw [hname]
    rfl
  have hcomment : afterComment (useDatabase database).toList = none := by
    rw [hname]
    simp [afterComment, blockOpen]
  have hend {p : Char → Bool} (hp : p backtick = false) :
      Text.dropEndWhile p (useDatabase database).toList = (useDatabase database).toList := by
    rw [hname]
    exact Text.dropEndWhile_concat hp _
  have hbody : body (useDatabase database).toList = (useDatabase database).toList := by
    unfold body Text.trim Text.dropBlankEnd
    rw [hskip, hend (by decide), skipComments_of_none hcomment, hend (by decide), hend (by decide)]
  unfold selects
  rw [hbody, hname]
  rfl

end Sql

/-- The statement of a request that selects a database. -/
def Request.selection : Request → Option String
  | .query sql | .execute sql => if Sql.selects sql then some sql else none
  | .ping => none

/-- Whether a command selects a database. -/
def Command.selects (cmd : Command) : Bool := cmd.request.selection.isSome

/-- What a session was asked to select, and its reply. -/
def Event.selectionOn (n : SessionId) : Event → Option (String × Reply)
  | .called m request reply => if m = n then request.selection.map (·, reply) else none
  | _ => none

/-- All selections that a session was asked for since it was opened, newest first. -/
def selections (n : SessionId) (journal : List Entry) : List (String × Reply) :=
  (journal.takeWhile (!·.event.opens n)).filterMap (·.event.selectionOn n)

def Reply.isAccepted : Reply → Bool
  | .answer _ (.ok _) => true
  | _ => false

/-- The last selection that a session accepted. -/
def lastSelection (n : SessionId) (journal : List Entry) : Option String :=
  ((selections n journal).find? (·.2.isAccepted)).map Prod.fst

/-- The event neither opens the session nor asks it to select a database. -/
def Event.Spares (n : SessionId) (e : Event) : Prop := e.opens n = false ∧ e.selectionOn n = none

/-- An event by which no command is handed over, no session opened and no database selected. -/
def Event.IsIdle (e : Event) : Prop := e.isRun = false ∧ ∀ n, e.Spares n

variable {σ α β : Type}

/-- No command was handed over, no session was opened, and none was asked to select a database. -/
structure World.Idles (w w' : World σ) : Prop where
  opened : w.opened ≤ w'.opened
  adds : w.Adds Event.IsIdle w'

section Events

variable {n : SessionId} {u v w : World σ}

theorem selection_useDatabase (database : String) :
    (Request.execute (Sql.useDatabase database)).selection = some (Sql.useDatabase database) :=
  if_pos (Sql.selects_useDatabase database)

theorem Command.selects_setCatalog (database : String) : (setCatalog database).selects = true :=
  (congrArg Option.isSome (selection_useDatabase database)).trans rfl

theorem selections_append {new journal : List Entry} (h : ∀ e ∈ new, e.event.Spares n) :
    selections n (new ++ journal) = selections n journal := by
  unfold selections
  rw [List.takeWhile_append_of_pos fun e he => by simp [(h e he).1], List.filterMap_append,
    List.filterMap_eq_nil_iff.2 fun e he => (h e he).2, List.nil_append]

theorem selections_opened (t : Nat) (host : Host) (past : List Entry) :
    selections n (⟨t, .opened host n⟩ :: past) = [] := by
  simp [selections, Event.opens]

theorem selections_called {t : Nat} {request : Request} {reply : Reply} {sql : String}
    {past : List Entry} (h : request.selection = some sql) :
    selections n (⟨t, .called n request reply⟩ :: past) = (sql, reply) :: selections n past := by
  simp [selections, Event.opens, Event.selectionOn, h]

theorem World.Adds.selections (h : u.Adds (·.Spares n) v) :
    selections n v.journal = selections n u.journal := by
  obtain ⟨new, hj, hn⟩ := h
  rw [hj, selections_append hn]

theorem World.Idles.selections (h : u.Idles v) (n : SessionId) :
    selections n v.journal = selections n u.journal :=
  (h.adds.mono fun _ he => he.2 n).selections

theorem World.Idles.trans (h : u.Idles v) (h' : v.Idles w) : u.Idles w :=
  ⟨h.opened.trans h'.opened, h.adds.trans h'.adds⟩

theorem World.Still.idles [Cluster σ] (h : u.Still v) : u.Idles v :=
  ⟨h.opened.ge, adds_of_eq h.journal⟩

theorem spares_called {m : SessionId} {request : Request} (reply : Reply)
    (h : m ≠ n ∨ request.selection = none) : (Event.called m request reply).Spares n := by
  refine ⟨rfl, ?_⟩
  rcases h with h | h <;> simp [Event.selectionOn, h]

theorem Event.IsWork.spares {m : SessionId} {cmds : List Command} {e : Event}
    (he : e.IsWork m cmds) (hsel : ∀ cmd ∈ cmds, cmd.selects = false) : e.Spares n := by
  cases he with
  | ran mem => exact ⟨rfl, rfl⟩
  | called mem reply =>
    exact spares_called reply (.inr (by simpa [Command.selects] using hsel _ mem))

end Events

section Actions

/-! ## Actions that select no database -/

variable [Cluster σ]

theorem framing_idles : Framing (Idles (σ := σ)) :=
  framing_of_still Still.idles Idles.trans fun h => ⟨h.opened, h.adds⟩

theorem idles_call {n : SessionId} {r : Request} (hr : r.selection = none) :
    (call n r : Act σ _).Always Idles := by
  have idle (reply : Reply) : (Event.called n r reply).IsIdle :=
    ⟨rfl, fun _ => spares_called reply (.inr hr)⟩
  apply always_call
  intro w reply servers now
  exact ⟨le_rfl, adds_cons rfl (idle reply)⟩

theorem idles_hangUp (n : SessionId) : (hangUp n : Act σ _).Always Idles := by
  have idle : (Event.closed n).IsIdle := ⟨rfl, fun _ => ⟨rfl, rfl⟩⟩
  apply always_hangUp
  intro w servers now
  exact ⟨le_rfl, adds_cons rfl idle⟩

omit [Cluster σ] in
theorem idles_keep (h : Handle) : (keep h : Act σ Unit).Always Idles :=
  always_change fun _ => ⟨le_rfl, adds_of_eq rfl⟩

theorem idles_closeSession (n : SessionId) : (closeSession n : Act σ Unit).Always Idles :=
  framing_idles.closeSession idles_keep idles_hangUp n

theorem idles_closeSlot (slot : Option Slot) : (closeSlot slot : Act σ Unit).Always Idles :=
  framing_idles.closeSlot idles_keep idles_hangUp slot

theorem idles_judge (t : Topology) (limit : Nat) (h : Host) (n : SessionId) :
    (t.judge limit h n : Act σ Verdict).Always Idles := by
  have idle (v : Verdict) : (Event.judged n v).IsIdle := ⟨rfl, fun _ => ⟨rfl, rfl⟩⟩
  refine framing_idles.judge (idles_call (by decide +kernel)) fun v => always_change ?_
  intro w
  exact ⟨le_rfl, adds_cons rfl (idle v)⟩

theorem idles_namedMaster (d : Deployment) (h : Host) (n : SessionId) (waiting : List Host) :
    (namedMaster d h n waiting : Act σ _).Always Idles :=
  framing_idles.namedMaster (idles_call (by decide +kernel))

end Actions

/-! ## What is kept since a database was selected -/

/-- What a session was asked to select since `u`: nothing if it was there already, and otherwise
the database alone. -/
structure AskedFor (database : String) (u : World σ) (n : SessionId) (journal : List Entry) :
    Prop where
  old : n ≤ u.opened → selections n journal = selections n u.journal
  new : u.opened < n → ∃ reply, selections n journal = [(Sql.useDatabase database, reply)]

/-- Since `u` the sessions follow the database: those in the slots, and those that ran a command
when they did. -/
structure Follows (database : String) (u : World σ) (c : Connection) (w : World σ) : Prop where
  catalog : c.catalog = some database
  opened : u.opened ≤ w.opened
  journal : u.journal <:+ w.journal
  slots : ∀ r s, c.slot? r = some s → AskedFor database u s.session w.journal
  runs : ∀ t n cmd past, ⟨t, .ran n cmd⟩ :: past <:+ w.journal → u.journal <:+ past →
    AskedFor database u n past

section Follows

variable {database : String} {u w w' : World σ} {c c' : Connection} {n : SessionId}

theorem AskedFor.of_eq {journal journal' : List Entry} (h : AskedFor database u n journal)
    (hj : selections n journal' = selections n journal) : AskedFor database u n journal' where
  old hn := hj.trans (h.old hn)
  new hn := by
    rw [hj]
    exact h.new hn

/-- No command is handed over, and no session in a slot is asked to select a database. -/
theorem Follows.grows (h : Follows database u c w) (ho : w.opened ≤ w'.opened)
    (hq : w.Adds (fun e => e.isRun = false) w')
    (slots : ∀ r s, c.slot? r = some s →
      selections s.session w'.journal = selections s.session w.journal) :
    Follows database u c w' where
  catalog := h.catalog
  opened := h.opened.trans ho
  journal := h.journal.trans hq.suffix
  slots r s hs := (h.slots r s hs).of_eq (slots r s hs)
  runs t n cmd past hrun hpast := by
    rcases hq.entry_cases hrun with hold | ⟨hnew, -⟩
    · exact h.runs t n cmd past hold hpast
    · cases hnew

theorem Follows.idles (h : Follows database u c w) (hw : w.Idles w') : Follows database u c w' :=
  h.grows hw.opened (hw.adds.mono fun _ he => he.1) fun _ s _ => hw.selections s.session

theorem Follows.fewer (h : Follows database u c w) (hc : c.Fewer w c') :
    Follows database u c' w :=
  ⟨hc.catalog.trans h.catalog, h.opened, h.journal, fun r s hs => h.slots r s (hc.slot r s hs),
    h.runs⟩

theorem Follows.fill (h : Follows database u c w) {r : Role} {s : Slot}
    (hs : AskedFor database u s.session w.journal) : Follows database u (c.fill r s) w where
  catalog := (c.catalog_fill s r).trans h.catalog
  opened := h.opened
  journal := h.journal
  slots q t ht := by
    rcases Connection.cases_slot_fill ht with ⟨-, rfl⟩ | ⟨-, ht⟩
    · exact hs
    · exact h.slots q t ht
  runs := h.runs

theorem Follows.promote (h : Follows database u c w) {s : Slot} (hs : c.replica = some s) :
    Follows database u (c.promote s) w where
  catalog := (c.catalog_promote s).trans h.catalog
  opened := h.opened
  journal := h.journal
  slots r t ht := by
    obtain ⟨-, rfl⟩ := Connection.eq_of_slot_promote ht
    exact h.slots .replica t hs
  runs := h.runs

theorem Follows.work {x : Handle} {cmds : List Command}
    (h : Follows database u c w) (hr : Routed c cmds w x)
    (hsel : ∀ cmd ∈ cmds, cmd.selects = false) (hk : Work x.session cmds w w') :
    Follows database u c w' where
  catalog := h.catalog
  opened := h.opened.trans hk.opened
  journal := h.journal.trans hk.adds.suffix
  slots r s hslot :=
    (h.slots r s hslot).of_eq (hk.adds.mono fun _ he => he.spares hsel).selections
  runs t n cmd past hrun hpast := by
    rcases hk.adds.entry_cases hrun with hold | ⟨hwork, hbefore⟩
    · exact h.runs t n cmd past hold hpast
    obtain ⟨rfl, -⟩ := hwork.of_ran
    obtain ⟨s, hslot, hx⟩ := hr.slot
    obtain ⟨r, -, hslot⟩ := Option.bind_eq_some_iff.1 hslot
    obtain ⟨-, new, rfl, hnew⟩ := hk.adds.entry hrun hbefore
    rw [session_of_get? hx]
    exact (h.slots r s hslot).of_eq (selections_append fun e he => (hnew e he).spares hsel)

end Follows

section Upkeep

variable [Cluster σ] {d : Deployment} {database : String} {u w : World σ} {c : Connection}

/-- The session that was opened last in `w` has not been asked for anything yet. -/
structure Awaiting (database : String) (u w : World σ) (c : Connection) (n : SessionId)
    (w' : World σ) : Prop where
  follows : Follows database u c w'
  session : n = w.opened + 1
  unasked : selections n w'.journal = []

omit [Cluster σ] in
theorem Awaiting.idles {n : SessionId} {v w' : World σ} (h : Awaiting database u w c n v)
    (hw : v.Idles w') : Awaiting database u w c n w' :=
  ⟨h.follows.idles hw, h.session, (hw.selections n).trans h.unasked⟩

/-- A session that is in no slot yet is asked for the database. -/
theorem meets_followCatalog {h : Handle} (hf : Follows database u c w)
    (hslots : ∀ r s, c.slot? r = some s → s.session ≠ h.session)
    (hfresh : selections h.session w.journal = []) (hnew : u.opened < h.session) :
    (followCatalog c h).Meets w (fun _ w' => Follows database u c w' ∧
      AskedFor database u h.session w'.journal) fun _ => True := by
  have chosen {w' : World σ} {t : Nat} {reply : Reply} (ho : w'.opened = w.opened)
      (hj : w'.journal =
        ⟨t, .called h.session (.execute (Sql.useDatabase database)) reply⟩ :: w.journal) :
      Follows database u c w' ∧ AskedFor database u h.session w'.journal := by
    constructor
    · refine hf.grows ho.ge (adds_cons hj rfl) ?_
      intro r s hs
      have hne : h.session ≠ s.session := (hslots r s hs).symm
      have hadds : w.Adds (·.Spares s.session) w' := adds_cons hj (spares_called reply (.inl hne))
      exact hadds.selections
    · constructor
      · intro hle
        exact absurd hnew (Nat.not_lt.2 hle)
      · intro _
        refine ⟨reply, ?_⟩
        rw [hj, selections_called (selection_useDatabase database), hfresh]
  unfold followCatalog
  rw [hf.catalog]
  dsimp only
  refine meets_bind (m := fun _ w' => Follows database u c w' ∧
    AskedFor database u h.session w'.journal) (meets_call (fun _ _ _ _ => chosen rfl rfl)
      fun _ _ => trivial) fun result w₁ ⟨h₁, ha⟩ => ?_
  have kept (w₂ : World σ) (hw : w₁.Still w₂) : Follows database u c w₂ ∧
      AskedFor database u h.session w₂.journal :=
    ⟨h₁.idles hw.idles, by rwa [hw.journal]⟩
  split
  · exact (harmless_log _ _).meets fun _ w₂ h₂ => kept w₂ h₂
  · exact meets_pure (kept w₁ (Still.refl w₁))

/-- While a host is tried, only the new session is asked for the database. -/
theorem trial_follows {h : Host} {e : Election} (hs : Sound d e.connection w)
    (hu : Follows database u e.connection w) : Trial d h e (Awaiting database u w e.connection)
    (fun n _ w' => Awaiting database u w e.connection n w')
    (fun w' => Follows database u e.connection w')
    (fun n r w' => Follows database u (e.connection.fill r ⟨h, n⟩) w') fun _ => True where
  judges ha := ((idles_judge _ _ _ _).meets _).mono (fun _ _ hw => ha.idles hw) fun _ _ => trivial
  looksUp ha := ((idles_namedMaster _ _ _ _).meets _).mono (fun _ _ hw => ha.idles hw)
    fun _ _ => trivial
  hangsUp ha _ := ((idles_hangUp _).meets _).mono (fun _ _ hw => ha.follows.idles hw)
    fun _ _ => trivial
  binds := by
    rintro n r text v ⟨hf, rfl, hsel⟩ -
    have hslots (q : Role) (s : Slot) (hq : e.connection.slot? q = some s) :
        s.session ≠ w.opened + 1 := (Nat.lt_succ_of_le (hs.session_le hq)).ne
    refine meets_bind (meets_followCatalog hf hslots hsel (Nat.lt_succ_of_le hu.opened))
      fun _ w₁ ⟨h₁, ha⟩ => ?_
    have rest : (do
        closeSlot (e.connection.slot? r)
        log .info text
        keep { session := w.opened + 1, host := h, role := r } : Act σ Unit).Always Idles :=
      framing_idles.bind (idles_closeSlot _) fun _ =>
        framing_idles.bind (framing_idles.log _ _) fun _ => idles_keep _
    exact (rest.meets w₁).mono (fun _ w₂ hw => (h₁.idles hw).fill (ha.of_eq (hw.selections _)))
      fun _ _ => trivial
  freshStill ha hw := ha.idles hw.idles
  judgedStill ha hw := ha.idles hw.idles
  spentStill hf hw := hf.idles hw.idles

theorem lasting_follows :
    Lasting d (fun cmd => cmd.selects = false) (Follows database u) fun _ => True where
  tries := by
    intro h waiting e w _ hs hopen hf
    refine ((trial_follows hs hf).tryHost hopen (meets_connect_of ?_ ?_)).mono ?_ fun _ h => h
    · intro wait x servers _
      have idle : (Event.refused h x).IsIdle := ⟨rfl, fun _ => ⟨rfl, rfl⟩⟩
      exact hf.idles ⟨le_rfl, adds_cons rfl idle⟩
    · intro wait servers _
      refine ⟨hf.grows (Nat.le_succ _) (adds_cons rfl rfl) ?_, rfl, selections_opened _ h _⟩
      intro r s hslot
      have hne : w.opened + 1 ≠ s.session := (Nat.lt_succ_of_le (hs.session_le hslot)).ne'
      have hspares : (Event.opened h (w.opened + 1)).Spares s.session := by
        simpa [Event.Spares, Event.opens] using ⟨hne, rfl⟩
      exact (adds_cons rfl hspares : w.Adds _ _).selections
    · intro x w' hx
      cases hx with
      | unbound hc _ hf' => rwa [hc]
      | bound n r _ hc _ hf' => rwa [hc]
  rechecks hs hf := by
    refine meets_recheck_of hs (fun _ => hf) fun s h _ hrep _ _ _ => ?_
    refine ((idles_judge _ _ _ _).meets _).mono ?_ fun _ _ => trivial
    intro v w' hw
    refine ⟨?_, fun _ w'' hw' => (hf.idles hw).idles hw'.idles⟩
    intro _ w'' hw'
    exact ((hf.idles hw).idles ⟨hw'.idles.opened, hw'.idles.adds⟩).promote hrep
  closes _ hf := ((idles_closeSession _).meets _).mono (fun _ _ hw => hf.idles hw)
    fun _ _ => trivial
  still hf hw := hf.idles hw.idles
  fewer hf hc := hf.fewer hc
  works _ hf hr hsel hk := hf.work hr hsel hk
  remembers hother _ := nomatch (Command.selects_setCatalog _).symm.trans hother
  stays _ := trivial

end Upkeep

/-! ## Calls after a database was selected -/

/-- Commands go to a session that accepted the database last. -/
def IsSelected (database : String) (s : Scene σ) : Prop :=
  ∃ slot, s.connection.currentSlot = some slot ∧
    lastSelection slot.session s.world.journal = some (Sql.useDatabase database)

/-- The database is remembered, and the session routed to is on it. -/
structure Selected (database : String) (s : Scene σ) : Prop where
  catalog : s.connection.catalog = some database
  routed : IsSelected database s

section Selecting

variable [Cluster σ] {d : Deployment} {database : String} {s m : Scene σ}

omit [Cluster σ] in
theorem Drift.isSelected (h : Drift s m) (hs : IsSelected database s) : IsSelected database m := by
  obtain ⟨servers, now, blacklist, rfl⟩ := h
  exact hs

theorem meets_selecting
    {act : Connection → Act σ (Except Error (SessionId × Except Error QueryResult))}
    (hact : Dispatches (.setCatalog database) act) :
    (Job.reading act).Meets Drift s (fun x s' => ∀ n r, x = .ok (n, .ok r) →
      IsSelected database s') fun _ => True := by
  refine Job.meets_reading fun m _ => (hact m.connection m.world).mono ?_ fun _ _ => trivial
  intro x w h
  cases h with
  | unsent e still => exact fun n r hx => nomatch hx
  | sent x wait result routed ran =>
    intro n r hx
    obtain ⟨slot, hslot, hget⟩ := routed.slot
    refine ⟨slot, hslot, ?_⟩
    cases result with
    | error e =>
      rw [Command.shown_error] at hx
      cases hx
    | ok r' =>
      have hsel : (Command.setCatalog database).request.selection =
          some (Sql.useDatabase database) := selection_useDatabase database
      rw [← session_of_get? hget, ran.journal]
      unfold lastSelection
      rw [selections_called hsel]
      rfl

omit [Cluster σ] in
theorem meets_rememberSelected {α : Type} {a : α} (hs : IsSelected database s) :
    (do rememberDatabase (.setCatalog database); return a : Job σ α).Meets Drift s
      (fun _ s' => Selected database s') fun _ => True := by
  refine Job.meets_bind (Job.meets_atomic fun m hm => ?_) fun _ _ h => Job.meets_pure h
  exact Act.meets_pure ⟨rfl, hm.isSelected hs⟩

theorem meets_failOver_setCatalog {n : SessionId} :
    (failOver d n (some (.setCatalog database))).Meets Drift s
      (fun report s' => report.mustRaise = false → IsSelected database s') fun _ => True := by
  have again (inTransaction : Bool) (cause : Option Error) (s : Scene σ) :
      (sendAgain (some (.setCatalog database)) inTransaction cause).Meets Drift s
        (fun report s' => report.mustRaise = false → IsSelected database s') fun _ => True := by
    unfold sendAgain
    split
    · exact Job.meets_pure nofun
    next cmd hcmd =>
      obtain rfl := Option.some.inj (Option.filter_eq_some_iff.1 hcmd).1
      refine Job.meets_bind (meets_selecting (dispatches_redispatch _)) fun x s₁ h₁ => ?_
      split
      · exact Job.meets_pure fun _ => h₁ _ _ rfl
      · exact Job.meets_pure nofun
      · exact Job.meets_pure nofun
  unfold failOver
  refine Job.meets_bind Job.meets_true fun inTransaction s₁ _ => ?_
  refine Job.meets_bind Job.meets_true fun recovery s₂ _ => ?_
  cases recovery with
  | restored => exact again _ _ _
  | standIn e => exact again _ _ _
  | failed e => exact Job.meets_pure nofun

theorem meets_setCatalog : (execute d (.setCatalog database)).Meets Drift s
    (fun answer s' => answer.isOk = true → Selected database s') fun _ => True := by
  have refused {e : Error} {s : Scene σ} :
      (pure (.error e) : Job σ (Except Error QueryResult)).Meets Drift s
        (fun answer s' => answer.isOk = true → Selected database s') fun _ => True :=
    Job.meets_pure nofun
  have remembered {r : QueryResult} {s : Scene σ} (hs : IsSelected database s) :
      (do
        rememberDatabase (.setCatalog database)
        return .ok r : Job σ (Except Error QueryResult)).Meets Drift s
        (fun answer s' => answer.isOk = true → Selected database s') fun _ => True :=
    (meets_rememberSelected hs).mono fun _ _ h _ => h
  unfold execute
  refine Job.meets_bind Job.meets_true fun admitted s₁ _ => ?_
  split
  · exact refused
  unfold carryOut
  refine Job.meets_bind (meets_selecting (dispatches_dispatch _)) fun x s₂ h₂ => ?_
  split
  · exact refused
  · exact remembered (h₂ _ _ rfl)
  · split
    · exact refused
    unfold resume
    refine Job.meets_bind Job.meets_true fun _ s₃ _ => ?_
    refine Job.meets_bind meets_failOver_setCatalog fun report s₄ h₄ => ?_
    split
    · exact refused
    next hquiet => exact remembered (h₄ (by simpa using hquiet))

end Selecting

section Calls

variable [Cluster σ] {d : Deployment} {database : String} {s m s₁ s₂ : Scene σ}

/-- The calls of one caller, one after another. -/
def callEach (d : Deployment) : List Call → Job σ Unit
  | [] => pure ()
  | k :: rest => do
    let _ ← (k.task d).2
    callEach d rest

theorem part_callEach {may : Command → Prop} : ∀ {calls : List Call},
    (∀ k ∈ calls, ∀ cmd ∈ k.commands, may cmd) → (callEach d calls : Job σ _).All (Part d may)
  | [], _ => .done ()
  | k :: _, h => (part_task (h k List.mem_cons_self)).bind fun _ =>
    part_callEach fun x hx => h x (List.mem_cons_of_mem k hx)

omit [Cluster σ] in
theorem Drift.follows {u : World σ} (h : Drift s m)
    (hf : Follows database u s.connection s.world) :
    Follows database u m.connection m.world := by
  obtain ⟨servers, now, blacklist, rfl⟩ := h
  exact ⟨hf.catalog, hf.opened, hf.journal, hf.slots, hf.runs⟩

omit [Cluster σ] in
/-- When a database is selected, no session has been opened since. -/
theorem Follows.start (hs : Settled d s.connection s.world)
    (hc : s.connection.catalog = some database) :
    Follows database s.world s.connection s.world where
  catalog := hc
  opened := le_rfl
  journal := List.suffix_rfl
  slots := by
    intro r t ht
    have hle : t.session ≤ s.world.opened := hs.toSound.session_le ht
    exact ⟨fun _ => rfl, fun hn => absurd hle (Nat.not_le.2 hn)⟩
  runs t n cmd past hrun hpast := by
    have hlen := (hrun.trans hpast).length_le
    exact absurd hlen (by simp)

theorem meets_callEach {u : World σ} {calls : List Call}
    (hcalls : ∀ k ∈ calls, ∀ cmd ∈ k.commands, cmd.selects = false)
    (hs : Settled d s.connection s.world) (hf : Follows database u s.connection s.world) :
    (callEach d calls).Meets Drift s (fun _ s' => Follows database u s'.connection s'.world)
      fun _ => True := by
  refine (Job.All.meets (I := fun s : Scene σ => Settled d s.connection s.world ∧
    Follows database u s.connection s.world) (part_callEach hcalls)
    (fun _ _ hm hi => ⟨hm.settled hi.1, hm.follows hi.2⟩) ?_ ⟨hs, hf⟩).mono fun _ _ h => h.2
  intro β act hpart s hi
  exact lasting_follows.part hpart _ _ hi.1 hi.2

omit [Cluster σ] in
theorem AskedFor.lastSelection_iff {u : World σ} {n : SessionId} {past : List Entry}
    (h : AskedFor database u n past) :
    lastSelection n past = some (Sql.useDatabase database) ↔
      n ≤ u.opened ∧ lastSelection n u.journal = some (Sql.useDatabase database) ∨
        u.opened < n ∧ ∃ wait r,
          selections n past = [(Sql.useDatabase database, .answer wait (.ok r))] := by
  rcases Nat.lt_or_ge u.opened n with hnew | hold
  · obtain ⟨reply, hreply⟩ := h.new hnew
    have hlast : lastSelection n past =
        if reply.isAccepted then some (Sql.useDatabase database) else none := by
      unfold lastSelection
      rw [hreply]
      cases hacc : reply.isAccepted <;> simp [hacc]
    rw [hlast, hreply]
    rcases reply with ⟨wait, _ | r⟩ | _ <;> simp [Reply.isAccepted, hnew]
  · have hlast : lastSelection n past = lastSelection n u.journal := by
      unfold lastSelection
      rw [h.old hold]
    simp [hlast, hold, Nat.not_lt.2 hold]

theorem follows_callEach {calls : List Call} {r : QueryResult} {vs₁ vs₂ : List (Visit σ)}
    (reachable : Reachable d s)
    (selected : Course Drift (execute d (.setCatalog database)) s vs₁ (some (.ok r)) s₁)
    (others : ∀ k ∈ calls, ∀ cmd ∈ k.commands, cmd.selects = false)
    (later : Course Drift (callEach d calls) s₁ vs₂ (some ()) s₂) :
    IsSelected database s₁ ∧ Follows database s₁.world s₂.connection s₂.world := by
  have hs₁ : Settled d s₁.connection s₁.world := by
    have hcourse : Course (Meanwhile d) (execute d (.setCatalog database)) s vs₁ _ s₁ :=
      selected.mono fun _ _ h => h.meanwhile
    have lawful : (execute d (.setCatalog database) : Job σ _).All (Lawful d) :=
      all_task (.execute (.setCatalog database))
    exact (hcourse.atRest lawful reachable.atRest rfl).1.settled
  have hsel : Selected database s₁ := meets_setCatalog _ _ _ selected rfl
  exact ⟨hsel.routed, meets_callEach others hs₁ (.start hs₁ hsel.catalog) _ _ _ later⟩

/-- The session routed to when the selection is answered is on the database. A session that runs a
command later on, while no other database is selected, was asked for the database alone if it was
opened since, and for none if it was there already: it is on the database if it accepted that, or
was on it before. -/
theorem database_follows_iff {calls : List Call} {r : QueryResult} {vs₁ vs₂ : List (Visit σ)}
    {t : Nat} {n : SessionId} {cmd : Command} {past : List Entry} (reachable : Reachable d s)
    (selected : Course Drift (execute d (.setCatalog database)) s vs₁ (some (.ok r)) s₁)
    (others : ∀ k ∈ calls, ∀ cmd ∈ k.commands, cmd.selects = false)
    (later : Course Drift (callEach d calls) s₁ vs₂ (some ()) s₂)
    (ran : ⟨t, .ran n cmd⟩ :: past <:+ s₂.world.journal) (since : s₁.world.journal <:+ past) :
    (∃ slot, s₁.connection.currentSlot = some slot ∧
        lastSelection slot.session s₁.world.journal = some (Sql.useDatabase database)) ∧
      (s₁.world.opened < n →
        ∃ reply, selections n past = [(Sql.useDatabase database, reply)]) ∧
      (lastSelection n past = some (Sql.useDatabase database) ↔
        n ≤ s₁.world.opened ∧
            lastSelection n s₁.world.journal = some (Sql.useDatabase database) ∨
          s₁.world.opened < n ∧ ∃ wait r,
            selections n past = [(Sql.useDatabase database, .answer wait (.ok r))]) := by
  obtain ⟨routed, hfollows⟩ := follows_callEach reachable selected others later
  have asked := hfollows.runs t n cmd past ran since
  exact ⟨routed, asked.new, asked.lastSelection_iff⟩

end Calls

section Modes

/-! ## A database and two sessions -/

/-- A row is read after a call. -/
def readAfter (k : Call) : List Call := [k, .execute (.query "SELECT 1")]

/-- The journal ends with a row that was read on a session, for which `p` holds before. -/
def endsWithRead (p : SessionId → List Entry → Bool) : List Entry → Bool
  | ⟨_, .called m request (.answer _ (.ok _))⟩ :: ⟨_, .ran n cmd⟩ :: past =>
    m = n && request = .query "SELECT 1" && cmd = .query "SELECT 1" && p n past
  | _ => false

/-- On the pair a database is selected, a call is made, and a row is read on a session. -/
structure ReadAfter (k : Call) (s s₁ s₂ : Scene Script) (n : SessionId) (past : List Entry) :
    Prop where
  reachable : Reachable pair s
  selected : ∃ vs r, Course Drift (execute pair (.setCatalog "shop")) s vs (some (.ok r)) s₁
  others : ∀ k' ∈ readAfter k, ∀ cmd ∈ k'.commands, cmd.selects = false
  later : ∃ vs, Course Drift (callEach pair (readAfter k)) s₁ vs (some ()) s₂
  answered : ∃ t t' wait r, ⟨t', .called n (.query "SELECT 1") (.answer wait (.ok r))⟩ ::
    ⟨t, .ran n (.query "SELECT 1")⟩ :: past <:+ s₂.world.journal
  since : s₁.world.journal <:+ past

theorem ReadAfter.ran {k : Call} {s s₁ s₂ : Scene Script} {n : SessionId} {past : List Entry}
    (h : ReadAfter k s s₁ s₂ n past) :
    ∃ t, ⟨t, .ran n (.query "SELECT 1")⟩ :: past <:+ s₂.world.journal := by
  obtain ⟨t, t', wait, r, h⟩ := h.answered
  exact ⟨t, (List.suffix_cons _ _).trans h⟩

theorem exists_readAfter {k : Call} {p : World Script → SessionId → List Entry → Bool}
    (hk : ∀ cmd ∈ k.commands, cmd.selects = false)
    (h : established.yields { servers := {} } (fun x w =>
      ((execute pair (.setCatalog "shop")).run x.2).yields w fun y w₁ => y.1.isOk &&
        ((callEach pair (readAfter k)).run y.2).yields w₁ fun _ w₂ =>
          endsWithRead (fun n past => w₁.journal.length ≤ past.length && p w₁ n past) w₂.journal) =
      true) :
    ∃ s s₁ s₂ n past, ReadAfter k s s₁ s₂ n past ∧ p s₁.world n past = true := by
  obtain ⟨⟨b, c⟩, w, hy, h⟩ := exists_of_yields h
  obtain ⟨⟨_ | r, c₁⟩, w₁, hz, h⟩ := exists_of_yields h <;>
    obtain ⟨hok, h⟩ := Bool.and_eq_true_iff.1 h
  · cases hok
  obtain ⟨⟨_, c₂⟩, w₂, hu, h⟩ := exists_of_yields h
  have reachable := reachable_established hy
  have selected := Course.of_run (M := Drift) Drift.refl hz [⟨_, .done b⟩]
  have later := Course.of_run (M := Drift) Drift.refl hu [⟨_, .done b⟩]
  have others : ∀ k' ∈ readAfter k, ∀ cmd ∈ k'.commands, cmd.selects = false := by
    have hread : (Command.query "SELECT 1").selects = false := by decide +kernel
    simpa [readAfter, Call.commands] using ⟨hk, hread⟩
  have hjournal := (follows_callEach reachable selected others later).2.journal
  unfold endsWithRead at h
  split at h
  next t' m request wait r' t n cmd past hends =>
    simp only [Bool.and_eq_true, decide_eq_true_eq] at h
    obtain ⟨⟨⟨rfl, rfl⟩, rfl⟩, hlen, hp⟩ := h
    refine ⟨_, _, _, m, past, ⟨reachable, ⟨_, r, selected⟩, others, ⟨_, later⟩,
      ⟨t, t', wait, r', hends ▸ List.suffix_rfl⟩, ?_⟩, hp⟩
    have hpast : past <:+ w₂.journal := hends ▸ ⟨[_, _], rfl⟩
    exact List.suffix_of_suffix_length_le hjournal hpast hlen
  · cases h

/-- After a reconnect the row is read on a session that was opened since. -/
theorem database_follows_to_new_session : ∃ (s s₁ s₂ : Scene Script) (t : Nat) (n : SessionId)
    (past : List Entry), ReadAfter .reconnect s s₁ s₂ n past ∧
      ⟨t, .ran n (.query "SELECT 1")⟩ :: past <:+ s₂.world.journal ∧ s₁.world.opened < n ∧
      lastSelection n past = some (Sql.useDatabase "shop") := by
  have hx : established.yields { servers := {} } (fun x w =>
      ((execute pair (.setCatalog "shop")).run x.2).yields w fun y w₁ => y.1.isOk &&
        ((callEach pair (readAfter .reconnect)).run y.2).yields w₁ fun _ w₂ =>
          endsWithRead (fun n past => w₁.journal.length ≤ past.length && (w₁.opened < n &&
            (selections n past).any (·.2.isAccepted))) w₂.journal) = true := by
    decide +kernel
  obtain ⟨s, s₁, s₂, n, past, h, hnew⟩ := exists_readAfter (k := .reconnect)
    (p := fun w₁ n past => w₁.opened < n && (selections n past).any (·.2.isAccepted))
    (by simp [Call.commands]) hx
  obtain ⟨hnew, hacc⟩ := Bool.and_eq_true_iff.1 hnew
  have hnew : s₁.world.opened < n := of_decide_eq_true hnew
  obtain ⟨_, r, selected⟩ := h.selected
  obtain ⟨_, later⟩ := h.later
  obtain ⟨t, ran⟩ := h.ran
  obtain ⟨-, asked, hiff⟩ :=
    database_follows_iff h.reachable selected h.others later ran h.since
  refine ⟨s, s₁, s₂, t, n, past, h, ran, hnew, hiff.2 (.inr ⟨hnew, ?_⟩)⟩
  obtain ⟨⟨wait, _ | r⟩ | _, hreply⟩ := asked hnew <;> rw [hreply] at hacc
  · cases hacc
  · exact ⟨wait, r, hreply⟩
  · cases hacc

/-- The replica's session is left where it was, and a read goes there when the mode asks for it. -/
theorem database_left_behind_on_replica :
    ¬∀ (d : Deployment) (s s₁ s₂ : Scene Script) (database : String) (calls : List Call)
      (r r' : QueryResult) (vs₁ vs₂ : List (Visit Script)) (t t' wait : Nat) (n : SessionId)
      (cmd : Command) (past : List Entry), Reachable d s →
        Course Drift (execute d (.setCatalog database)) s vs₁ (some (.ok r)) s₁ →
        (∀ k ∈ calls, ∀ cmd ∈ k.commands, cmd.selects = false) →
        Course Drift (callEach d calls) s₁ vs₂ (some ()) s₂ →
        ⟨t', .called n cmd.request (.answer wait (.ok r'))⟩ :: ⟨t, .ran n cmd⟩ :: past <:+
          s₂.world.journal → s₁.world.journal <:+ past →
        lastSelection n past = some (Sql.useDatabase database) := by
  intro claim
  have hx : established.yields { servers := {} } (fun x w =>
      ((execute pair (.setCatalog "shop")).run x.2).yields w fun y w₁ => y.1.isOk &&
        ((callEach pair (readAfter (.operation (.setReadOnly true)))).run y.2).yields w₁ fun _ w₂ =>
          endsWithRead (fun n past => w₁.journal.length ≤ past.length &&
            (lastSelection n past).isNone) w₂.journal) = true := by
    decide +kernel
  obtain ⟨s, s₁, s₂, n, past, h, hnone⟩ := exists_readAfter
    (p := fun _ n past => (lastSelection n past).isNone) (by simp [Call.commands]) hx
  obtain ⟨vs₁, r, selected⟩ := h.selected
  obtain ⟨vs₂, later⟩ := h.later
  obtain ⟨t, t', wait, r', answered⟩ := h.answered
  have hsome := claim pair s s₁ s₂ "shop" _ r r' vs₁ vs₂ t t' wait n (.query "SELECT 1") past
    h.reachable selected h.others later answered h.since
  rw [Option.isNone_iff_eq_none.1 hnone] at hsome
  cases hsome

end Modes

end Failover
