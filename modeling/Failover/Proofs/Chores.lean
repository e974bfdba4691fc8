import Failover.Operation
import Failover.Proofs.Frame

/-!
# What is done beside the hosts

Most of what sections do tries no host and blacklists none: either it leaves the servers alone
altogether (`Act.Inert`), or it asks, calls or closes sessions that there are (`Chore`). What the
actions of a kind keep is kept by all that is made of them (`MadeOf.meets`).
-/

namespace Failover

open Act World

variable {σ α β : Type}

namespace Act

/-- Put together from actions of a kind. -/
inductive MadeOf (P : (α : Type) → Act σ α → Prop) : (α : Type) → Act σ α → Prop
  | kind {α : Type} {x : Act σ α} (h : P α x) : MadeOf P α x
  | pure {α : Type} (a : α) : MadeOf P α (pure a)
  | bind {α β : Type} {x : Act σ α} {f : α → Act σ β} (hx : MadeOf P α x)
      (hf : ∀ a, MadeOf P β (f a)) : MadeOf P β (x >>= f)

/-- What the actions of a kind keep, whichever way they end, is kept by all that is made of
them. -/
theorem MadeOf.meets {P : (α : Type) → Act σ α → Prop} {x : Act σ α} {I stuck : World σ → Prop}
    (h : MadeOf P α x) (hP : ∀ (α : Type) (x : Act σ α) (w : World σ), P α x → I w →
      x.Meets w (fun _ => I) stuck) {w : World σ} (hi : I w) : x.Meets w (fun _ => I) stuck := by
  induction h generalizing w with
  | kind h => exact hP _ _ w h hi
  | pure a => exact meets_pure hi
  | bind _ _ ihx ihf => exact meets_bind (ihx hi) fun a _ h => ihf a h

/-- What is made of actions that are themselves made of others. -/
theorem MadeOf.refine {P Q : (α : Type) → Act σ α → Prop} {x : Act σ α} (h : MadeOf P α x)
    (hPQ : ∀ (α : Type) (x : Act σ α), P α x → MadeOf Q α x) : MadeOf Q α x := by
  induction h with
  | kind h => exact hPQ _ _ h
  | pure a => exact .pure a
  | bind _ _ ihx ihf => exact .bind ihx ihf

end Act

/-- No time has passed, nothing was done to the servers, and no host has been blacklisted. -/
structure World.Inert (w w' : World σ) : Prop where
  now : w'.now = w.now
  opened : w'.opened = w.opened
  journal : w'.journal = w.journal
  blacklist : ∀ e, w'.blacklist.contains e = true → w.blacklist.contains e = true

theorem World.Inert.refl (w : World σ) : w.Inert w := ⟨rfl, rfl, rfl, fun _ h => h⟩

theorem World.Inert.trans {u v w : World σ} (h : u.Inert v) (h' : v.Inert w) : u.Inert w where
  now := h'.now.trans h.now
  opened := h'.opened.trans h.opened
  journal := h'.journal.trans h.journal
  blacklist := fun e he => h.blacklist e (h'.blacklist e he)

/-- Always comes to an end, at once and without a trace. -/
def Act.Inert (x : Act σ α) : Prop := ∀ w : World σ, ∃ a w', x w = (some a, w') ∧ w.Inert w'

section Inert

variable {x : Act σ α} {f : α → Act σ β}

theorem Act.Inert.meets (h : x.Inert) {w : World σ} {post : α → World σ → Prop}
    {stuck : World σ → Prop} (hp : ∀ a w', w.Inert w' → post a w') : x.Meets w post stuck := by
  obtain ⟨a, w', hx, hw⟩ := h w
  unfold Meets
  rw [hx]
  exact hp a w' hw

theorem inert_pure (a : α) : (pure a : Act σ α).Inert := fun w => ⟨a, w, rfl, .refl w⟩

theorem inert_ask (g : World σ → α) : (ask g).Inert := fun w => ⟨g w, w, rfl, .refl w⟩

theorem inert_change {g : World σ → World σ} (h : ∀ w : World σ, w.Inert (g w)) :
    (change g).Inert :=
  fun w => ⟨(), g w, rfl, h w⟩

theorem Act.Inert.bind (hx : x.Inert) (hf : ∀ a, (f a).Inert) : (x >>= f).Inert := by
  intro w
  obtain ⟨a, w₁, hx, h₁⟩ := hx w
  obtain ⟨b, w₂, hf, h₂⟩ := hf a w₁
  exact ⟨b, w₂, bind_eq_some.2 ⟨a, w₁, hx, hf⟩, h₁.trans h₂⟩

theorem inert_log (level : LogLevel) (text : String) : (log level text : Act σ Unit).Inert :=
  inert_change fun _ => ⟨rfl, rfl, rfl, fun _ h => h⟩

theorem inert_keep (h : Handle) : (keep h : Act σ Unit).Inert :=
  inert_change fun _ => ⟨rfl, rfl, rfl, fun _ h => h⟩

theorem Blacklist.contains_clear {b : Blacklist} {e x : Endpoint}
    (h : (b.clear e).contains x = true) : x ≠ e ∧ b.contains x = true := by
  unfold contains at h ⊢
  rw [get?_clear] at h
  split_ifs at h with hx
  · cases h
  · exact ⟨hx, h⟩

theorem Blacklist.contains_lookup {b : Blacklist} {e x : Endpoint} {now timeout : Nat}
    (h : (b.lookup e now timeout).2.contains x = true) : b.contains x = true := by
  obtain ⟨f, hf⟩ := Option.isSome_iff_exists.1 h
  exact Option.isSome_iff_exists.2 ⟨f, (get?_lookup_iff.1 hf).1⟩

/-- The failure of a host that answered again is forgotten. -/
theorem meets_forgive {h : Host} {w : World σ} {stuck : World σ → Prop} :
    (forgive h).Meets w (fun _ w' => w'.journal = w.journal ∧
      ∀ x, w'.blacklist.get? x = if x = h.toEndpoint then none else w.blacklist.get? x) stuck := by
  unfold forgive
  refine meets_bind (m := fun known w' => known = w.blacklist.contains h.toEndpoint ∧ w' = w)
    (meets_ask ⟨rfl, rfl⟩) ?_
  rintro _ w ⟨rfl, rfl⟩
  split
  · exact ⟨rfl, fun _ => Blacklist.get?_clear _ _ _⟩
  next hknown =>
    refine meets_pure ⟨rfl, fun x => ?_⟩
    split_ifs with hx
    · subst hx
      simpa [Blacklist.contains] using hknown
    · rfl

theorem inert_forgive (h : Host) : (forgive h : Act σ Unit).Inert := by
  unfold forgive
  refine (inert_ask _).bind fun known => ?_
  split
  · have cleared (w : World σ) : w.Inert { w with blacklist := w.blacklist.clear h.toEndpoint } :=
      ⟨rfl, rfl, rfl, fun _ hx => (Blacklist.contains_clear hx).2⟩
    exact (inert_change cleared).bind fun _ => inert_log _ _
  · exact inert_pure _

/-- Looking a host up may drop its failure, but never adds one. -/
theorem inert_isExcluded (h : Host) (timeout : Nat) : (isExcluded h timeout : Act σ _).Inert :=
  fun w => ⟨(w.blacklist.lookup h.toEndpoint w.now timeout).1, _, rfl, rfl, rfl, rfl,
    fun _ h => Blacklist.contains_lookup h⟩

variable [Cluster σ]

theorem inert_draw (bound : Nat) : (draw bound : Act σ Nat).Inert :=
  fun _ => ⟨_, _, rfl, rfl, rfl, rfl, fun _ h => h⟩

theorem inert_shuffle : ∀ xs : List α, (shuffle xs : Act σ _).Inert
  | [] => inert_pure _
  | _ :: rest => by
    unfold shuffle
    exact (inert_shuffle rest).bind fun ys => (inert_draw _).bind fun k => inert_pure _

omit [Cluster σ] in
theorem inert_splitExcluded (timeout : Nat) :
    ∀ hosts : List Host, (splitExcluded timeout hosts : Act σ _).Inert
  | [] => inert_pure _
  | h :: rest => by
    unfold splitExcluded
    refine (inert_isExcluded h timeout).bind fun excluded => ?_
    exact (inert_splitExcluded timeout rest).bind fun x => inert_pure _

theorem inert_passOrder (d : Deployment) (c : Connection) : (passOrder d c : Act σ _).Inert := by
  unfold passOrder
  refine (inert_splitExcluded _ _).bind fun x => .bind ?_ fun hs => inert_pure _
  unfold Topology.order
  split_ifs
  · exact inert_shuffle _
  · exact inert_pure _

omit [Cluster σ] in
theorem inert_isHeldBack (readOnly : Bool) (c : Connection) :
    (isHeldBack readOnly c : Act σ Bool).Inert := by
  unfold isHeldBack
  generalize (if readOnly = true then decide (c.current = some .master) && c.hasReplicas
    else decide (c.current = some .replica)) = leaves
  cases leaves with
  | false => exact inert_pure _
  | true =>
    rcases c.currentSlot with _ | s
    · exact inert_pure _
    · refine (inert_ask _).bind fun h => ?_
      cases h <;> exact inert_pure _

omit [Cluster σ] in
theorem inert_assess (d : Deployment) (cmd : Command) (c : Connection) :
    (assess d cmd c : Act σ _).Inert := by
  unfold assess
  refine (inert_ask _).bind fun now => ?_
  generalize admission d cmd now c = x
  obtain ⟨a, c'⟩ := x
  dsimp only
  split
  · exact (inert_log _ _).bind fun _ => inert_pure _
  · exact inert_pure _

end Inert

/-! ## Chores -/

/-- What an election does with the sessions that there are, and what leaves the servers alone. -/
inductive Chore [Cluster σ] (d : Deployment) : (α : Type) → Act σ α → Prop
  | judges (h : Host) (n : SessionId) :
      Chore d _ (d.config.topology.judge d.connectTimeout h n)
  | looksUp (h : Host) (n : SessionId) (waiting : List Host) :
      Chore d _ (namedMaster d h n waiting)
  | follows (c : Connection) (h : Handle) : Chore d _ (followCatalog c h)
  | hangsUp (n : SessionId) : Chore d _ (hangUp n)
  | inert {α : Type} {x : Act σ α} (h : x.Inert) : Chore d α x

/-- Made of chores. -/
abbrev Act.Chores [Cluster σ] (d : Deployment) (x : Act σ α) : Prop := MadeOf (Chore d) α x

section Chores

variable [Cluster σ] (d : Deployment)

theorem Act.Inert.chores {x : Act σ α} (h : x.Inert) : x.Chores d := .kind (.inert h)

theorem chores_log (level : LogLevel) (text : String) :
    (log level text : Act σ Unit).Chores d :=
  (inert_log level text).chores d

theorem chores_handleClose (h : Handle) : (h.close : Act σ Unit).Chores d := by
  unfold Handle.close
  split
  · exact .pure _
  refine .bind (.kind (.inert (inert_keep _))) fun _ => .bind (.kind (.hangsUp _)) fun o => ?_
  split
  · exact chores_log d _ _
  · exact .pure _

theorem chores_closeSession (n : SessionId) : (closeSession n : Act σ Unit).Chores d := by
  unfold closeSession
  refine .bind (.kind (.inert (inert_ask _))) fun x => ?_
  split
  · exact chores_handleClose d _
  · exact .pure _

theorem chores_closeSlot (slot : Option Slot) : (closeSlot slot : Act σ Unit).Chores d := by
  cases slot with
  | none => exact .pure _
  | some s => exact chores_closeSession d s.session

theorem chores_replace (c : Connection) (h : Handle) (slot : Option Slot) (text : String) (a : α) :
    (do
      followCatalog c h
      closeSlot slot
      log .info text
      keep h
      return a : Act σ α).Chores d :=
  .bind (.kind (.follows c h)) fun _ => .bind (chores_closeSlot d _) fun _ =>
    .bind (chores_log d _ _) fun _ => .bind (.kind (.inert (inert_keep h))) fun _ => .pure _

theorem chores_bindMaster (c : Connection) (h : Handle) :
    (bindMaster c h : Act σ Connection).Chores d := by
  unfold bindMaster
  split
  · exact .bind (chores_handleClose d h) fun _ => .pure _
  · exact chores_replace d _ _ _ _ _

theorem chores_bindReplica (c : Connection) (h : Handle) :
    (bindReplica c h : Act σ Connection).Chores d := by
  unfold bindReplica
  split
  · exact .bind (chores_handleClose d h) fun _ => .pure _
  · exact chores_replace d _ _ _ _ _

theorem chores_discard {x : Act σ α} (h : x.Chores d) : (discard x).Chores d := by
  unfold discard
  exact .bind h fun _ => .pure _

theorem chores_place (h : Host) (n : SessionId) (r : Role) (e : Election) :
    (place h n r e : Act σ Election).Chores d := by
  unfold place
  split
  · exact .bind (chores_bindMaster d _ _) fun _ => .pure _
  split
  · exact .bind (chores_bindReplica d _ _) fun _ => .pure _
  · exact .bind (chores_log d _ _) fun _ =>
      .bind (chores_discard d (.kind (.hangsUp n))) fun _ => .pure _

theorem chores_recheckReplica (c : Connection) (g : Goal) :
    (recheckReplica d c g : Act σ (Connection × Goal)).Chores d := by
  unfold recheckReplica
  split
  · exact .pure _
  split
  swap
  · exact .pure _
  refine .bind (.kind (.inert (inert_ask _))) fun x => ?_
  split
  swap
  · exact .pure _
  refine .bind (.kind (.judges _ _)) fun v => ?_
  split
  · exact .bind (.kind (.inert (inert_keep _))) fun _ => .bind (chores_log d _ _) fun _ =>
      .bind (chores_closeSlot d _) fun _ => .pure _
  · exact .pure _
  · exact .bind (chores_log d _ _) fun _ => .pure _
  · exact .bind (chores_log d _ _) fun _ => .pure _

theorem chores_closeSessions (c : Connection) : (closeSessions c : Act σ _).Chores d := by
  unfold closeSessions
  exact .bind (chores_closeSlot d _) fun _ => .bind (chores_closeSlot d _) fun _ => .pure _

theorem chores_close (c : Connection) : (close c : Act σ _).Chores d := by
  unfold close
  split
  · exact .pure _
  · exact .bind (chores_closeSessions d _) fun _ => .bind (chores_log d _ _) fun _ => .pure _

end Chores

section SparesHosts

/-! ## Hosts that are left alone -/

/-- Whether a host was tried. -/
def Event.isAttempt : Event → Bool
  | .refused _ _ | .opened _ _ => true
  | _ => false

/-- No host was tried, and none was blacklisted. -/
structure World.SparesHosts (w w' : World σ) : Prop where
  opened : w'.opened = w.opened
  adds : w.Adds (fun e => e.isAttempt = false) w'
  blacklist : ∀ e, w'.blacklist.contains e = true → w.blacklist.contains e = true

theorem framing_sparesHosts : Framing (SparesHosts (σ := σ)) where
  refl w := ⟨rfl, .refl w, fun _ h => h⟩
  logs _ _ := ⟨rfl, adds_of_eq rfl, fun _ h => h⟩
  trans h h' := ⟨h'.opened.trans h.opened, h.adds.trans h'.adds,
    fun e he => h.blacklist e (h'.blacklist e he)⟩
  now h := ⟨h.opened, h.adds, h.blacklist⟩

theorem sparesHosts_note {e : Event} (he : e.isAttempt = false) :
    (note e : Act σ Unit).Always SparesHosts :=
  always_change fun _ => ⟨rfl, adds_cons rfl he, fun _ h => h⟩

theorem World.Inert.sparesHosts {w w' : World σ} (h : w.Inert w') : w.SparesHosts w' :=
  ⟨h.opened, adds_of_eq h.journal, h.blacklist⟩

theorem Act.Inert.sparesHosts {x : Act σ α} (h : x.Inert) : x.Always SparesHosts :=
  always_of_meets fun _ => h.meets fun _ _ hw => hw.sparesHosts

variable [Cluster σ] {d : Deployment}

theorem sparesHosts_call (n : SessionId) (r : Request) :
    (call n r : Act σ _).Always SparesHosts := by
  apply always_call
  intro w reply servers now
  exact ⟨rfl, adds_cons rfl rfl, fun _ h => h⟩

theorem sparesHosts_hangUp (n : SessionId) : (hangUp n : Act σ _).Always SparesHosts := by
  apply always_hangUp
  intro w servers now
  exact ⟨rfl, adds_cons rfl rfl, fun _ h => h⟩

theorem Chore.sparesHosts {x : Act σ α} (h : Chore d α x) : x.Always SparesHosts := by
  cases h with
  | judges h n =>
    exact framing_sparesHosts.judge (sparesHosts_call _ _) fun _ => sparesHosts_note rfl
  | looksUp h n waiting => exact framing_sparesHosts.namedMaster (sparesHosts_call _ _)
  | follows c h => exact framing_sparesHosts.followCatalog fun _ => sparesHosts_call _ _
  | hangsUp n => exact sparesHosts_hangUp n
  | inert h => exact h.sparesHosts

theorem Act.Chores.sparesHosts {x : Act σ α} (h : x.Chores d) : x.Always SparesHosts := by
  induction h with
  | kind h => exact h.sparesHosts
  | pure a => exact framing_sparesHosts.pure a
  | bind _ _ ihx ihf => exact framing_sparesHosts.bind ihx ihf

theorem sparesHosts_run (h : Handle) (cmd : Command) :
    (h.run cmd : Act σ _).Always SparesHosts := by
  have send : (cmd.send h.session : Act σ _).Always SparesHosts := by
    cases cmd with
    | ping => exact framing_sparesHosts.bind (sparesHosts_call _ _) fun _ =>
        framing_sparesHosts.pure _
    | setCatalog database => exact framing_sparesHosts.bind (sparesHosts_call _ _) fun _ =>
        framing_sparesHosts.pure _
    | _ => exact sparesHosts_call _ _
  unfold Handle.run
  refine framing_sparesHosts.bind (sparesHosts_note rfl) fun _ =>
    framing_sparesHosts.bind send fun result => ?_
  split
  · split
    · exact framing_sparesHosts.bind (inert_keep _).sparesHosts fun _ =>
        framing_sparesHosts.pure _
    · exact framing_sparesHosts.pure _
  · exact framing_sparesHosts.pure _

theorem sparesHosts_runAll (n : SessionId) : ∀ cmds : List Command,
    (runAll n cmds : Act σ _).Always SparesHosts
  | [] => framing_sparesHosts.pure _
  | cmd :: rest => by
    unfold runAll
    refine framing_sparesHosts.bind (framing_sparesHosts.ask _) fun x => ?_
    split
    · refine framing_sparesHosts.bind (sparesHosts_run _ cmd) fun result => ?_
      split
      · exact framing_sparesHosts.pure _
      · exact framing_sparesHosts.bind (sparesHosts_runAll n rest) fun _ =>
          framing_sparesHosts.pure _
    · exact framing_sparesHosts.pure _

omit [Cluster σ] in
/-- Commands are sent to the session that is routed to, if there is one and it may take them. -/
theorem sparesHosts_guarded {c : Connection} {cmds : List Command} {absent : α}
    {f : Handle → Act σ α} {refused : Error → α} (hf : ∀ h, (f h).Always SparesHosts) : (do
      let some h ← currentHandle? c | return absent
      match ← guardWrites c h cmds with
      | .error e => return refused e
      | .ok () => f h : Act σ α).Always SparesHosts := by
  have handle : (currentHandle? c : Act σ _).Always SparesHosts := by
    unfold currentHandle?
    split
    · exact framing_sparesHosts.ask _
    · exact framing_sparesHosts.pure _
  have guard (h : Handle) : (guardWrites c h cmds : Act σ _).Always SparesHosts := by
    unfold guardWrites
    split
    · exact framing_sparesHosts.pure _
    split
    · exact framing_sparesHosts.bind (framing_sparesHosts.log _ _) fun _ =>
        framing_sparesHosts.pure _
    · exact framing_sparesHosts.pure _
  refine framing_sparesHosts.bind handle fun x => ?_
  split
  · refine framing_sparesHosts.bind (guard _) fun admitted => ?_
    split
    · exact framing_sparesHosts.pure _
    · exact hf _
  · exact framing_sparesHosts.pure _

theorem sparesHosts_dispatch (cmd : Command) (c : Connection) :
    (dispatch cmd c : Act σ _).Always SparesHosts :=
  sparesHosts_guarded fun h => framing_sparesHosts.bind (sparesHosts_run h cmd) fun _ =>
    framing_sparesHosts.pure _

theorem sparesHosts_redispatch (cmd : Command) (c : Connection) :
    (redispatch cmd c : Act σ _).Always SparesHosts :=
  framing_sparesHosts.bind (framing_sparesHosts.log _ _) fun _ => sparesHosts_dispatch cmd c

theorem sparesHosts_dispatchAll (cmds : List Command) (c : Connection) :
    (dispatchAll cmds c : Act σ _).Always SparesHosts :=
  sparesHosts_guarded fun h => framing_sparesHosts.bind (sparesHosts_runAll h.session cmds) fun _ =>
    framing_sparesHosts.pure _

end SparesHosts

end Failover
