import Failover.Proofs.Transaction

/-!
# Failures that tasks share

When a session breaks, every task that was using it asks for a failover. The first that recovers
gives the session up for good (`Gone`). If that leaves a session to go to, the others find the
connection recovered: they change nothing, and send at most their own commands (`SendsOnly`).
-/

namespace Failover

open Act World

variable {σ : Type}

/-- The session is in no slot, and the application's settings are the same as in `c₀`. -/
structure Gone (n : SessionId) (c₀ c : Connection) (w : World σ) : Prop where
  opened : n ≤ w.opened
  slots : ∀ r, n ∉ sessionIn (c.slot? r)
  readOnly : c.readOnly = c₀.readOnly
  closed : c.closed = c₀.closed

/-- The session was given up in a failover, which was counted. -/
structure Renounced (n : SessionId) (c₀ c : Connection) (w : World σ) : Prop
    extends Gone n c₀ c w where
  failovers : c.failovers = c₀.failovers + 1

section Renounced

variable {d : Deployment} {n : SessionId} {c₀ c c' : Connection} {w w' : World σ}

theorem Connection.roleOf_eq_none : c.roleOf n = none ↔ ∀ r, n ∉ sessionIn (c.slot? r) := by
  refine ⟨?_, ?_⟩
  · intro h r hr
    obtain ⟨s, hs, rfl⟩ := mem_sessionIn.1 hr
    unfold roleOf at h
    split_ifs at h with hm hrep
    cases r with
    | master => simp [show c.master = some s from hs] at hm
    | replica => simp [show c.replica = some s from hs] at hrep
  · intro h
    rcases hr : c.roleOf n with _ | r
    · rfl
    · obtain ⟨s, hs, hn⟩ := Connection.slot_of_roleOf hr
      exact absurd (mem_sessionIn.2 ⟨s, hs, hn⟩) (h r)

theorem Gone.roleOf (h : Gone n c₀ c w) : c.roleOf n = none :=
  Connection.roleOf_eq_none.2 h.slots

theorem Gone.grows (h : Gone n c₀ c w) (hw : w.opened ≤ w'.opened) : Gone n c₀ c w' :=
  ⟨h.opened.trans hw, h.slots, h.readOnly, h.closed⟩

theorem Gone.since {c₁ : Connection} (h : Gone n c₁ c w) (hro : c₁.readOnly = c₀.readOnly)
    (hx : c₁.closed = c₀.closed) : Gone n c₀ c w :=
  ⟨h.opened, h.slots, h.readOnly.trans hro, h.closed.trans hx⟩

theorem Renounced.grows (h : Renounced n c₀ c w) (hw : w.opened ≤ w'.opened) :
    Renounced n c₀ c w' :=
  ⟨h.toGone.grows hw, h.failovers⟩

theorem Renounced.fill (h : Renounced n c₀ c w) {r : Role} {s : Slot} (hs : w.opened < s.session) :
    Renounced n c₀ (c.fill r s) w := by
  have slots (q : Role) : n ∉ sessionIn ((c.fill r s).slot? q) := by
    intro hq
    obtain ⟨t, ht, rfl⟩ := mem_sessionIn.1 hq
    rcases Connection.cases_slot_fill ht with ⟨-, rfl⟩ | ⟨-, ht⟩
    · exact absurd h.opened (Nat.not_le.2 hs)
    · exact h.slots q (mem_sessionIn.2 ⟨t, ht, rfl⟩)
  exact {
    opened := h.opened
    slots := slots
    readOnly := (c.readOnly_fill s r).trans h.readOnly
    closed := (c.closed_fill s r).trans h.closed
    failovers := (c.failovers_fill s r).trans h.failovers }

theorem Renounced.promote (h : Renounced n c₀ c w) {s : Slot} (hs : c.replica = some s) :
    Renounced n c₀ (c.promote s) w := by
  have slots (q : Role) : n ∉ sessionIn ((c.promote s).slot? q) := by
    intro hq
    obtain ⟨t, ht, rfl⟩ := mem_sessionIn.1 hq
    obtain ⟨-, rfl⟩ := Connection.eq_of_slot_promote ht
    exact h.slots .replica (mem_sessionIn.2 ⟨t, hs, rfl⟩)
  exact {
    opened := h.opened
    slots := slots
    readOnly := (c.readOnly_promote s).trans h.readOnly
    closed := (c.closed_promote s).trans h.closed
    failovers := (c.failovers_promote s).trans h.failovers }

theorem Renounced.route (h : Renounced n c₀ c w) : Renounced n c₀ c.route w := by
  have slots (q : Role) : n ∉ sessionIn (c.route.slot? q) := by
    rw [Connection.slot_route]
    exact h.slots q
  exact {
    opened := h.opened
    slots := slots
    readOnly := c.readOnly_route.trans h.readOnly
    closed := c.closed_route.trans h.closed
    failovers := c.failovers_route.trans h.failovers }

theorem kept_renounced : Kept d fun c _ (w : World σ) => Renounced n c₀ c w where
  attempt := by
    intro e e' w w' _ h ha
    cases ha with
    | unbound hc _ ho =>
      rw [hc]
      exact h.grows ho.opened
    | bound r s _ hf hc _ _ ho =>
      rw [hc]
      exact (h.fill hf).grows ho.opened
  beside h hw := h.grows hw.opened.ge

theorem keptByRecheck_renounced :
    KeptByRecheck d fun c _ (w : World σ) => Renounced n c₀ c w := by
  intro c c' g g' w w' _ h hr
  cases hr with
  | same _ ho => exact h.grows ho.opened
  | promoted s x _ hrep _ _ ho => exact (h.promote hrep).grows ho.opened

variable [Cluster σ]

theorem Renounced.elected {g : Goal} (h : Renounced n c₀ c w) (hs : Sound d c w)
    (hg : g.isEnough = false) (hrep : g.wantsReplica = true → c.hasReplicas = true) :
    (electAndRoute d c g).Meets w (fun x w' => Settled d x.2 w' ∧ Elected c g x.1 x.2 ∧
      Renounced n c₀ x.2 w') fun _ => True := by
  refine (meets_election kept_renounced.upheld (.inr keptByRecheck_renounced.upheld) hs h hg
    hrep).mono ?_ fun _ h => h
  rintro ⟨outcome, _⟩ w' ⟨hs', he, c', g', rfl, h'⟩
  exact ⟨hs', he, h'.route⟩

/-- A session that may be in the slot of the master is given up with it. -/
theorem renounced_recoverMaster {inTransaction : Bool} (hs : Settled d c w) (hn : n ≤ w.opened)
    (hrep : n ∉ sessionIn c.replica) : (recoverMaster d inTransaction c).Meets w
      (fun x w' => Settled d x.2 w' ∧ Renounced n c x.2 w') fun _ => True := by
  have gone (now : Nat) {w' : World σ} (hw : n ≤ w'.opened) :
      Renounced n c (c.masterLost now) w' := by
    refine ⟨⟨hw, ?_, rfl, rfl⟩, rfl⟩
    intro r
    cases r with
    | master => exact sessionIn_none ▸ Set.notMem_empty n
    | replica => exact hrep
  refine meets_recoverMaster_keeps (A := fun w' => n ≤ w'.opened)
    (B := fun _ x w' => Renounced n c x.1 w') hs.toSound
    (fun h hw => h.grows hw.opened.ge)
    (meets_abandon_known hs.orderly fun _ onward => hn.trans onward.opened)
    (fun now w₁ h₁ hs₁ => keptByRecheck_renounced.upheld hs₁ (gone now h₁)) (fun _ _ _ h => h)
    fun now w₂ h₂ hs₂ => h₂.elected hs₂ rfl fun h => by cases h

theorem renounced_recoverReplica (hs : Settled d c w) (hrep : c.replica.isSome = true)
    (hn : n ≤ w.opened) (hm : n ∉ sessionIn c.master) : (recoverReplica d c).Meets w
      (fun x w' => Settled d x.2 w' ∧ Renounced n c x.2 w') fun _ => True := by
  have gone {w' : World σ} (hw : n ≤ w'.opened) : Renounced n c c.replicaLost w' := by
    refine ⟨⟨hw, ?_, rfl, rfl⟩, rfl⟩
    intro r
    cases r with
    | master => exact hm
    | replica => exact sessionIn_none ▸ Set.notMem_empty n
  have hwanted : c.hasReplicas = true := hs.coherent.replica hrep
  exact meets_recoverReplica_keeps (A := fun w' => n ≤ w'.opened) hs.toSound
    (fun h hw => h.grows hw.opened.ge) hrep
    (meets_abandon_known hs.orderly fun _ onward => hn.trans onward.opened)
    (fun w₁ h₁ hs₁ => (gone h₁).elected hs₁ rfl fun _ => hwanted)
    fun w₁ h₁ hs₁ _ => (gone h₁).elected hs₁ rfl fun _ => hwanted

theorem renounced_recover {inTransaction : Bool} (hs : Settled d c w) (hopen : c.closed = false)
    (hn : (c.roleOf n).isSome = true) : (recover d n inTransaction c).Meets w
      (fun x w' => Settled d x.2 w' ∧ Renounced n c x.2 w') fun _ => True := by
  obtain ⟨r, hr⟩ := Option.isSome_iff_exists.1 hn
  obtain ⟨s, hslot, rfl⟩ := Connection.slot_of_roleOf hr
  have hknown := hs.session_le hslot
  have other {q : Role} (hq : r ≠ q) : s.session ∉ sessionIn (c.slot? q) := by
    intro hm
    obtain ⟨t, ht, hts⟩ := mem_sessionIn.1 hm
    exact hs.session_ne hslot ht hq hts.symm
  unfold recover
  rw [hopen, hr]
  cases r with
  | master => exact renounced_recoverMaster hs hknown (other (q := .replica) (by decide))
  | replica =>
    exact renounced_recoverReplica hs (Option.isSome_iff_exists.2 ⟨s, hslot⟩) hknown
      (other (q := .master) (by decide))

end Renounced

section Sections

/-! ## The sections of a failover -/

variable [Cluster σ] {d : Deployment} {n : SessionId} {c₀ c : Connection} {u w w' : World σ}
  {s m m' : Scene σ} {β : Type} {act : Section σ β}

/-- The sections of a failover from the session `n`. -/
inductive Recovering (d : Deployment) (n : SessionId) : (β : Type) → Section σ β → Prop
  | reads : Recovering d n _ (Job.unchanged (readFlag n))
  | recovers (inTransaction : Bool) : Recovering d n _ (recover d n inTransaction)
  | sends (cmd : Command) : Recovering d n _ (Job.unchanged (redispatch cmd))

theorem recovering_failOver (n : SessionId) (cmd : Option Command) :
    (failOver d n cmd : Job σ _).All (Recovering d n) :=
  all_failOver_of .reads .recovers fun x _ => .sends x

/-- A step by which no task joins but with a failover from the session `n`. -/
def Scene.Joins (d : Deployment) (n : SessionId) (m m' : Scene σ) : Prop :=
  m.Step d m' ∧ ∀ t ∈ m'.tasks.drop m.tasks.length, ∃ cmd, t = (Call.failOver n cmd).task d

theorem Scene.joins_call (m : Scene σ) (cmd : Option Command) :
    m.Joins d n { m with tasks := m.tasks ++ [(Call.failOver n cmd).task d] } :=
  ⟨.call m (.failOver n cmd), fun t ht => ⟨cmd, by simpa using ht⟩⟩

theorem Scene.joins_advance (before : List (Task σ)) {after : List (Task σ)} {α : Type}
    {next : β → Job σ α} {b : β} (turn : m.tasks = before ++ ⟨α, .step act next⟩ :: after)
    (comes : act m.connection m.world = (some (b, c), w)) :
    m.Joins d n ⟨c, w, before ++ ⟨α, next b⟩ :: after⟩ :=
  ⟨.advance turn comes, fun t ht => by simp [turn] at ht⟩

theorem Scene.joins_run (before : List (Task σ)) {α : Type} {t : Job σ α} {a : α} {c' : Connection}
    (h : t.run c w = (some (a, c'), w')) : Relation.ReflTransGen (Scene.Joins d n)
      ⟨c, w, before ++ [⟨α, t⟩]⟩ ⟨c', w', before ++ [⟨α, .done a⟩]⟩ := by
  induction t generalizing c w with
  | done b =>
    cases h
    exact .refl
  | step act next ih =>
    obtain ⟨⟨b, c₁⟩, w₁, hx, h⟩ := bind_eq_some.1 h
    exact .head (Scene.joins_advance before rfl hx) (ih b h)

theorem Scene.Joins.tasks (h : m.Joins d n m') (ht : ∀ t ∈ m.tasks, t.2.All (Recovering d n)) :
    ∀ t ∈ m'.tasks, t.2.All (Recovering d n) := by
  refine h.1.tasks ?_ ht
  intro k hk
  obtain ⟨cmd, hcmd⟩ := h.2 _ hk
  rw [hcmd]
  exact recovering_failOver n cmd

/-- A session that is gone already was recovered from, if there is a session to go to. -/
theorem recover_of_gone {inTransaction : Bool} (hopen : c.closed = false)
    (hn : c.roleOf n = none) : (recover d n inTransaction c : Act σ _) =
      if c.currentSlot.isSome then do
        log .debug "Connection already recovered by a concurrent failover"
        return (.restored, c)
      else recoverMaster d inTransaction c := by
  unfold recover
  rw [hopen, hn]
  rfl

/-- The failover from the session `n` is still to come, or the session is gone. -/
def Fate (n : SessionId) (c₀ c : Connection) (w : World σ) : Prop := c = c₀ ∨ Gone n c₀ c w

omit [Cluster σ] in
theorem Fate.grows (h : Fate n c₀ c w) (hw : w.opened ≤ w'.opened) : Fate n c₀ c w' :=
  h.imp id fun h => h.grows hw

omit [Cluster σ] in
theorem Fate.settings (h : Fate n c₀ c w) : c.closed = c₀.closed ∧ c.readOnly = c₀.readOnly := by
  rcases h with rfl | hg
  · exact ⟨rfl, rfl⟩
  · exact ⟨hg.closed, hg.readOnly⟩

theorem dispatching_fate :
    Dispatching d (fun _ => True) (Fate (σ := σ) n c₀) fun _ => True where
  works _ hf _ _ hk := hf.grows hk.opened
  still hf hw := hf.grows hw.opened.ge
  stays _ := trivial

/-- Whether it was given up already or not, the session is gone after a recovery from it. -/
theorem gone_recover {inTransaction : Bool} (hs : Settled d c w) (hf : Fate n c₀ c w)
    (hopen : c₀.closed = false) (hn : (c₀.roleOf n).isSome = true) :
    (recover d n inTransaction c).Meets w (fun x w' => Settled d x.2 w' ∧ Gone n c₀ x.2 w')
      fun _ => True := by
  rcases hf with rfl | hg
  · refine (renounced_recover hs hopen hn).mono ?_ fun _ h => h
    rintro x w' ⟨hs', renounced⟩
    exact ⟨hs', renounced.toGone⟩
  rw [recover_of_gone (hg.closed.trans hopen) hg.roleOf]
  split
  · refine meets_bind_harmless (harmless_log _ _) fun _ w₁ h₁ => ?_
    exact meets_pure ⟨hs.beside h₁.beside, hg.grows h₁.opened.ge⟩
  · refine (renounced_recoverMaster hs hg.opened (hg.slots .replica)).mono ?_ fun _ h => h
    rintro x w' ⟨hs', renounced⟩
    exact ⟨hs', renounced.since hg.readOnly hg.closed⟩

theorem Recovering.maintains (ha : Recovering d n β act) (hopen : c₀.closed = false)
    (hn : (c₀.roleOf n).isSome = true) : Maintains d (Fate n c₀) (fun _ => True) β act := by
  cases ha with
  | reads => exact maintains_reads (harmless_readFlag n) fun hf hw => hf.grows hw.opened.ge
  | sends cmd => exact dispatching_fate.dispatch (dispatches_redispatch cmd) trivial
  | recovers b =>
    intro c w hs hf
    refine (gone_recover hs hf hopen hn).mono ?_ fun _ h => h
    rintro x w' ⟨hs', hgone⟩
    exact ⟨hs', .inr hgone⟩

/-- Only failovers from the session `n` have gone on since the connection was `c₀`. -/
structure Sharing (d : Deployment) (n : SessionId) (c₀ : Connection) (m : Scene σ) : Prop where
  settled : Settled d m.connection m.world
  tasks : ∀ t ∈ m.tasks, t.2.All (Recovering d n)
  fate : Fate n c₀ m.connection m.world

theorem Sharing.step (h : Sharing d n c₀ m) (hopen : c₀.closed = false)
    (hn : (c₀.roleOf n).isSome = true) (hj : m.Joins d n m') : Sharing d n c₀ m' := by
  have htasks := hj.tasks h.tasks
  obtain ⟨hstep, -⟩ := hj
  cases hstep with
  | call k => exact ⟨h.settled, htasks, h.fate⟩
  | @advance before after α β act next b c w turn comes =>
    have hact := Scene.head_of_turn h.tasks turn
    obtain ⟨hs, hf⟩ := (hact.maintains hopen hn _ _ h.settled h.fate).value comes
    exact ⟨hs, htasks, hf⟩
  | leave gone => exact ⟨h.settled, htasks, h.fate⟩
  | drift servers now blacklist =>
    exact ⟨h.settled.drift servers now blacklist, htasks, h.fate.grows le_rfl⟩

theorem Sharing.run (h : Sharing d n c₀ m) (hopen : c₀.closed = false)
    (hn : (c₀.roleOf n).isSome = true) (hj : Relation.ReflTransGen (Scene.Joins d n) m m') :
    Sharing d n c₀ m' := by
  induction hj with
  | refl => exact h
  | tail _ hstep ih => exact ih.step hopen hn hstep

end Sections

section Recovered

/-! ## Once the connection has recovered -/

/-- The session is gone and there is one to go to: nothing is left to be done about it. -/
structure Recovered (n : SessionId) (c : Connection) : Prop where
  isOpen : c.closed = false
  gone : c.roleOf n = none
  routed : c.currentSlot.isSome = true

/-- A command is handed to the session that is routed to, or its request is made. -/
def Event.IsSent (c : Connection) (e : Event) : Prop :=
  ∃ slot cmd, c.currentSlot = some slot ∧ e.IsWork slot.session [cmd]

/-- Nothing is done but that commands are sent to the session that is routed to. -/
structure SendsOnly (c : Connection) (w w' : World σ) : Prop where
  opened : w'.opened = w.opened
  blacklist : w'.blacklist = w.blacklist
  adds : w.Adds (Event.IsSent c) w'

def World.SameBlacklist (w w' : World σ) : Prop := w'.blacklist = w.blacklist

variable {d : Deployment} {n : SessionId} {c : Connection} {u w w' : World σ}
  {s m m' : Scene σ} {α β γ : Type} {act : Section σ β}

theorem sameBlacklist_pure (a : α) : (pure a : Act σ α).Always World.SameBlacklist := fun _ => rfl

theorem sameBlacklist_bind {x : Act σ α} {f : α → Act σ γ} (hx : x.Always World.SameBlacklist)
    (hf : ∀ a, (f a).Always World.SameBlacklist) : (x >>= f).Always World.SameBlacklist :=
  always_bind (fun _ _ _ h h' => h'.trans h) hx hf

variable [Cluster σ]

theorem sameBlacklist_run (x : Handle) (cmd : Command) :
    (x.run cmd : Act σ _).Always World.SameBlacklist := by
  have hcall : (call x.session cmd.request : Act σ _).Always World.SameBlacklist :=
    always_call fun _ _ _ _ => rfl
  unfold Handle.run
  rw [Command.send_eq, map_eq_pure_bind]
  refine sameBlacklist_bind (always_change fun _ => rfl) fun _ => ?_
  refine sameBlacklist_bind (sameBlacklist_bind hcall fun _ => sameBlacklist_pure _)
    fun result => ?_
  split
  · split
    · exact sameBlacklist_bind (always_change fun _ => rfl) fun _ => sameBlacklist_pure _
    · exact sameBlacklist_pure _
  · exact sameBlacklist_pure _

theorem sameBlacklist_redispatch (cmd : Command) (c : Connection) :
    (redispatch cmd c : Act σ _).Always World.SameBlacklist := by
  have hguard (x : Handle) : (guardWrites c x [cmd] : Act σ _).Always World.SameBlacklist := by
    unfold guardWrites
    split
    · exact sameBlacklist_pure _
    · split
      · exact sameBlacklist_bind (always_change fun _ => rfl) fun _ => sameBlacklist_pure _
      · exact sameBlacklist_pure _
  unfold redispatch dispatch
  refine sameBlacklist_bind (always_change fun _ => rfl) fun _ => ?_
  refine sameBlacklist_bind ?_ fun handle => ?_
  · unfold currentHandle?
    split
    · exact fun _ => rfl
    · exact sameBlacklist_pure _
  · split
    · refine sameBlacklist_bind (hguard _) fun guarded => ?_
      split
      · exact sameBlacklist_pure _
      · exact sameBlacklist_bind (sameBlacklist_run _ cmd) fun _ => sameBlacklist_pure _
    · exact sameBlacklist_pure _

theorem Recovered.recover_eq (h : Recovered n c) (inTransaction : Bool) :
    (recover d n inTransaction c : Act σ _) = do
      log .debug "Connection already recovered by a concurrent failover"
      return (.restored, c) := by
  rw [recover_of_gone h.isOpen h.gone, if_pos h.routed]

omit [Cluster σ] in
theorem SendsOnly.refl (c : Connection) (w : World σ) : SendsOnly c w w :=
  ⟨rfl, rfl, .refl w⟩

theorem Recovering.sendsOnly (ha : Recovering d n β act) (h : Recovered n c) :
    (act c).Meets w (fun x w' => x.2 = c ∧ SendsOnly c w w') (SendsOnly c w) := by
  cases ha with
  | reads =>
    exact meets_bind (m := fun _ w' => SendsOnly c w w') (SendsOnly.refl c w)
      fun _ _ hw => meets_pure ⟨rfl, hw⟩
  | recovers b =>
    rw [h.recover_eq b]
    exact meets_bind (meets_change ⟨rfl, rfl, adds_of_eq rfl⟩) fun _ w₁ h₁ => meets_pure ⟨rfl, h₁⟩
  | sends cmd =>
    have sent {x : Handle} {reply : Reply} {w' : World σ} (hr : Routed c [cmd] w x)
        (hran : Ran x cmd reply w w') (hb : w.SameBlacklist w') : SendsOnly c w w' := by
      obtain ⟨slot, hslot, hx⟩ := hr.slot
      refine ⟨hran.opened, hb, (hran.work hr.known (List.mem_singleton_self cmd)).adds.mono ?_⟩
      rw [session_of_get? hx]
      exact fun e he => ⟨slot, cmd, hslot, he⟩
    refine meets_bind ((((dispatches_redispatch cmd) c w).and
      ((sameBlacklist_redispatch cmd c).meets w)).mono (fun _ _ h => h) ?_) fun x w' ⟨hx, hb⟩ => ?_
    · rintro w' ⟨⟨x, hr, hran⟩, hb⟩
      exact sent hr hran hb
    · cases hx with
      | unsent e hw => exact meets_pure ⟨rfl, hw.opened, hb, adds_of_eq hw.journal⟩
      | sent x wait result hr hran => exact meets_pure ⟨rfl, sent hr hran hb⟩

/-- Failovers from a session that is gone, one after the other and among each other. -/
structure Settling (d : Deployment) (n : SessionId) (s m : Scene σ) : Prop where
  connection : m.connection = s.connection
  opened : m.world.opened = s.world.opened
  adds : s.world.Adds (Event.IsSent s.connection) m.world
  tasks : ∀ t ∈ m.tasks, t.2.All (Recovering d n)

theorem Settling.step (h : Settling d n s m) (hr : Recovered n s.connection)
    (hj : m.Joins d n m') : Settling d n s m' := by
  have htasks := hj.tasks h.tasks
  obtain ⟨hstep, -⟩ := hj
  cases hstep with
  | call k => exact ⟨h.connection, h.opened, h.adds, htasks⟩
  | @advance before after α β act next b c w turn comes =>
    have hact := Scene.head_of_turn h.tasks turn
    obtain ⟨hc, hw⟩ := (hact.sendsOnly (h.connection ▸ hr)).value comes
    exact ⟨hc.trans h.connection, hw.opened.trans h.opened,
      h.adds.trans (h.connection ▸ hw.adds), htasks⟩
  | leave gone => exact ⟨h.connection, h.opened, h.adds, htasks⟩
  | drift servers now blacklist => exact ⟨h.connection, h.opened, h.adds, htasks⟩

theorem Settling.run (hs : ∀ t ∈ s.tasks, t.2.All (Recovering d n))
    (hr : Recovered n s.connection) (hj : Relation.ReflTransGen (Scene.Joins d n) s m) :
    Settling d n s m := by
  induction hj with
  | refl => exact ⟨rfl, rfl, .refl _, hs⟩
  | tail _ hstep ih => exact ih.step hr hstep

end Recovered

section Failovers

variable [Cluster σ] {d : Deployment} {n : SessionId} {s m m' : Scene σ}

/-- A connection that was closed for good has no sessions. -/
def Connection.Vacated (c : Connection) : Prop := c.closed = true → ∀ r, c.slot? r = none

omit [Cluster σ] in
theorem keptByRecheck_vacated : KeptByRecheck d fun c _ (_ : World σ) => c.Vacated := by
  intro c c' g g' w w' _ hv hr
  cases hr with
  | same _ _ => exact hv
  | promoted s x _ hrep _ _ _ =>
    intro hclosed
    rw [Connection.closed_promote] at hclosed
    cases hrep.symm.trans (hv hclosed .replica)

theorem lasting_vacated :
    Lasting d (fun _ => True) (fun c (_ : World σ) => c.Vacated) fun _ => True where
  tries _ hs ho hv := (meets_tryHost hs ho).mono (fun x w' ha hclosed => by
    cases ha with
    | unbound hc _ _ =>
      rw [hc] at hclosed ⊢
      exact hv hclosed
    | bound r s _ _ hc _ _ _ =>
      rw [hc, Connection.closed_fill, ho] at hclosed
      cases hclosed) fun _ _ => trivial
  rechecks hs hv := keptByRecheck_vacated.upheld hs hv
  closes _ hv := meets_of_forall (fun _ _ => hv) fun _ => trivial
  still hv _ := hv
  fewer hv hf hclosed r := by
    rcases hf.closed with hc | hnone
    · rw [Option.eq_none_iff_forall_ne_some]
      intro s hs
      cases (hf.slot r s hs).symm.trans (hv (hc.symm.trans hclosed) r)
    · exact hnone r
  works _ hv _ _ _ := hv
  stays _ := trivial
  remembers _ hv hclosed r := by
    have hnone := hv hclosed r
    cases r <;> exact hnone

theorem Reachable.vacated (h : Reachable d s) : s.connection.Vacated :=
  h.maintains lasting_vacated nofun fun hv => hv

theorem Reachable.isOpen (h : Reachable d s) {r : Role} {slot : Slot}
    (hslot : s.connection.slot? r = some slot) : s.connection.closed = false := by
  cases hclosed : s.connection.closed with
  | false => rfl
  | true => cases hslot.symm.trans (h.vacated hclosed r)

theorem Reachable.deserted {c : Connection} {w : World σ} {tasks : List (Task σ)}
    (h : Reachable d ⟨c, w, tasks⟩) : Reachable d ⟨c, w, []⟩ := by
  induction tasks with
  | nil => exact h
  | cons t rest ih =>
    have hleave : Scene.Step d ⟨c, w, t :: rest⟩ ⟨c, w, [] ++ rest⟩ :=
      .leave (rfl : _ = [] ++ t :: rest)
    exact ih (h.step hleave)

theorem Reachable.sharing (h : Reachable d s) (alone : s.tasks = []) :
    Sharing d n s.connection s where
  settled := h.atRest.settled
  tasks _ ht := nomatch alone ▸ ht
  fate := .inl rfl

/-- Where tasks share a session that broke, the first to recover from that elects anew, and is
counted. If it leaves a session in a slot, the failovers that come after it find the connection
recovered, in whatever order they go on: they leave it as it is, and each of their sections does
nothing to the servers but send the task's own command. -/
theorem one_election_per_failure (h : Reachable d s) (alone : s.tasks = [])
    (broken : (s.connection.roleOf n).isSome = true)
    (before : Relation.ReflTransGen (Scene.Joins d n) s m)
    (installed : (m.connection.roleOf n).isSome = true) {front rest : List (Task σ)} {α : Type}
    {inTransaction : Bool} {next : Recovery → Job σ α} {outcome : Recovery} {c : Connection}
    {w : World σ}
    (turn : m.tasks = front ++ ⟨α, .step (recover d n inTransaction) next⟩ :: rest)
    (recovers : recover d n inTransaction m.connection m.world = (some (outcome, c), w))
    {r : Role} {slot : Slot} (left : c.slot? r = some slot)
    (after : Relation.ReflTransGen (Scene.Joins d n)
      ⟨c, w, front ++ ⟨α, next outcome⟩ :: rest⟩ m') :
    m'.connection = c ∧ c.failovers = s.connection.failovers + 1 ∧
      m'.world.opened = w.opened ∧ w.Adds (Event.IsSent c) m'.world ∧
      (∀ b, (recover d n b c : Act σ _) = do
        log .debug "Connection already recovered by a concurrent failover"
        return (.restored, c)) ∧
      ∀ (α β : Type) (act : Section σ β) (next : β → Job σ α), ⟨α, .step act next⟩ ∈ m'.tasks →
        (act c).Meets m'.world (fun x w' => x.2 = c ∧ SendsOnly c m'.world w')
          (SendsOnly c m'.world) := by
  obtain ⟨q, hq⟩ := Option.isSome_iff_exists.1 broken
  obtain ⟨t, ht, -⟩ := Connection.slot_of_roleOf hq
  have hopen := h.isOpen ht
  have hm := (h.sharing alone).run hopen broken before
  have hsame : m.connection = s.connection := by
    rcases hm.fate with hc | hg
    · exact hc
    · rw [hg.roleOf] at installed
      cases installed
  obtain ⟨hs, hren⟩ :=
    (renounced_recover hm.settled (hsame ▸ hopen) installed).value recovers
  have hrecovered : Recovered n c := by
    refine ⟨hren.closed.trans (hsame ▸ hopen), hren.roleOf, ?_⟩
    rw [Connection.isSome_currentSlot hs.rest, Bool.or_eq_true]
    cases r with
    | master => exact .inl (Option.isSome_iff_exists.2 ⟨slot, left⟩)
    | replica => exact .inr (Option.isSome_iff_exists.2 ⟨slot, left⟩)
  have htasks : ∀ t ∈ front ++ ⟨α, next outcome⟩ :: rest, t.2.All (Recovering d n) :=
    (Scene.joins_advance (d := d) (n := n) front turn recovers).tasks hm.tasks
  have hm' := Settling.run htasks hrecovered after
  refine ⟨hm'.connection, ?_, hm'.opened, hm'.adds, hrecovered.recover_eq, ?_⟩
  · rw [hren.failovers, hsame]
  · intro α β act next hturn
    exact (hm'.tasks _ hturn).head.sendsOnly hrecovered

end Failovers

/-- Two tasks share the loss of the master. The second one comes to its recovery when the first has
found a new master. -/
theorem one_election_of_pair : ∃ (s m' : Scene Script) (c : Connection) (w : World Script)
    (outcome : Recovery) (slot : Slot) (α : Type) (b : Bool) (next : Recovery → Job Script α),
    Reachable pair s ∧ s.tasks = [] ∧ (s.connection.roleOf 1).isSome = true ∧
      recover pair 1 false s.connection s.world = (some (outcome, c), w) ∧
      c.slot? .master = some slot ∧ ⟨α, .step (recover pair 1 b) next⟩ ∈ m'.tasks ∧
      m'.connection = c ∧ c.failovers = s.connection.failovers + 1 ∧
      m'.world.opened = w.opened ∧
      (recover pair 1 b c).Meets m'.world (fun x w' => x.2 = c ∧ SendsOnly c m'.world w')
        (SendsOnly c m'.world) := by
  have hx : established.yields { servers := {} } (fun x w =>
      (x.2.roleOf 1).isSome && (w.handles.get? 1).any (·.inTransaction) == false &&
        (recover pair 1 false x.2).yields w fun y _ => y.2.master.isSome) = true := by
    decide +kernel
  obtain ⟨⟨b, c₀⟩, w₀, hy, hx⟩ := exists_of_yields hx
  simp only [Bool.and_eq_true, beq_iff_eq] at hx
  obtain ⟨⟨hbroken, hflag⟩, hx⟩ := hx
  obtain ⟨⟨outcome, c⟩, w, hrecover, hmaster⟩ := exists_of_yields hx
  obtain ⟨slot, hslot⟩ := Option.isSome_iff_exists.1 hmaster
  have hread : Job.unchanged (readFlag 1) c₀ w₀ = (some (false, c₀), w₀) := by
    rw [← hflag]
    rfl
  have hs := (reachable_established hy).deserted
  have first := Scene.joins_call (d := pair) (n := 1) ⟨c₀, w₀, []⟩ (some increment)
  have second := Scene.joins_call (d := pair) (n := 1)
    ⟨c₀, w₀, [(Call.failOver 1 (some increment)).task pair]⟩ none
  have look := Scene.joins_advance (d := pair) (n := 1)
    (m := ⟨c₀, w₀, [(Call.failOver 1 (some increment)).task pair,
      (Call.failOver 1 none).task pair]⟩)
    [(Call.failOver 1 (some increment)).task pair] rfl hread
  have before := (((Relation.ReflTransGen.single first).tail second).tail look).tail
    (Scene.joins_advance [] rfl hread)
  obtain ⟨hc, hcount, hopened, -, -, hturn⟩ := one_election_per_failure hs rfl hbroken before
    hbroken (rfl : _ = [] ++ _) hrecover (r := .master) hslot .refl
  exact ⟨_, _, c, w, outcome, slot, _, _, _, hs, rfl, hbroken, hrecover, hslot,
    List.mem_cons_of_mem _ List.mem_cons_self, hc, hcount, hopened,
    hturn _ _ _ _ (List.mem_cons_of_mem _ List.mem_cons_self)⟩

end Failover
