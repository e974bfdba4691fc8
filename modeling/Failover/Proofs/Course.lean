import Failover.Proofs.Interleaving
import Mathlib.Logic.Relation

/-!
# The course of a call

A task goes through the sections of its job in a row, and before each of them others may have had
their turn (`Course`). Which commands it handed to sessions, and what the sessions said to them,
is read off the journal of its own sections (`handedOver`).
-/

namespace Failover

open Act World

variable {σ α β : Type}

/-- A section with the connection and the world that it found. -/
structure Visit (σ : Type) : Type 1 where
  {value : Type}
  act : Section σ value
  connection : Connection
  world : World σ

/-- A command that was handed to a session, and the reply to it. -/
structure Handover where
  session : SessionId
  command : Command
  reply : Option Reply

/-- The events by which a command is handed over and brings its reply. -/
def Handover.events (t : Handover) : List Event :=
  .ran t.session t.command ::
    (t.reply.map (Event.called t.session t.command.request)).toList

def Event.replyOf (n : SessionId) : Event → Option Reply
  | .called m _ reply => if m = n then some reply else none
  | _ => none

/-- The handovers among events, oldest first. The reply to a command is the next one of its
session. -/
def handovers : List Event → List Handover
  | [] => []
  | .ran n cmd :: rest => ⟨n, cmd, rest.findSome? (·.replyOf n)⟩ :: handovers rest
  | _ :: rest => handovers rest

/-- What happened since `w`, oldest first. -/
def World.since (w w' : World σ) : List Event :=
  ((w'.journal.take (w'.journal.length - w.journal.length)).map Entry.event).reverse

def Visit.events (v : Visit σ) : List Event := v.world.since (v.act v.connection v.world).2

/-- What was handed over in the course of some sections. -/
def handedOver (visits : List (Visit σ)) : List Handover := visits.flatMap (handovers ·.events)

/-- The sections that a job goes through when it runs alone. -/
def Job.visits : Job σ α → Connection → World σ → List (Visit σ)
  | .done _, _, _ => []
  | .step act next, c, w => ⟨act, c, w⟩ ::
    match act c w with
    | (some (b, c'), w') => (next b).visits c' w'
    | (none, _) => []

/-- The course of a job among others, from a scene with these others to another one: the sections
it went through and the value it came to, if it did. -/
inductive Course (M : Scene σ → Scene σ → Prop) :
    Job σ α → Scene σ → List (Visit σ) → Option α → Scene σ → Prop
  | done (a : α) (s : Scene σ) : Course M (.done a) s [] (some a) s
  | step {β : Type} {act : Section σ β} {next : β → Job σ α} {s m s' : Scene σ} {b : β}
      {c : Connection} {w : World σ} {visits : List (Visit σ)} {a : Option α} (others : M s m)
      (comes : act m.connection m.world = (some (b, c), w))
      (rest : Course M (next b) ⟨c, w, m.tasks⟩ visits a s') :
      Course M (.step act next) s (⟨act, m.connection, m.world⟩ :: visits) a s'
  | stall {β : Type} {act : Section σ β} {next : β → Job σ α} {s m : Scene σ} {w : World σ}
      (others : M s m) (stalls : act m.connection m.world = (none, w)) :
      Course M (.step act next) s [⟨act, m.connection, m.world⟩] none { m with world := w }

/-- The others, by any number of steps. -/
abbrev Meanwhile [Cluster σ] (d : Deployment) : Scene σ → Scene σ → Prop :=
  Relation.ReflTransGen (Scene.Step d)

section Handovers

theorem handovers_of_not_isRun {events : List Event} (h : ∀ e ∈ events, e.isRun = false) :
    handovers events = [] := by
  induction events with
  | nil => rfl
  | cons e rest ih =>
    have hrest := ih fun x hx => h x (List.mem_cons_of_mem _ hx)
    cases e with
    | ran n cmd => exact nomatch h _ List.mem_cons_self
    | _ => exact hrest

theorem World.since_eq {w w' : World σ} {new : List Entry} (h : w'.journal = new ++ w.journal) :
    w.since w' = (new.map Entry.event).reverse := by
  unfold since
  rw [h, List.length_append, Nat.add_sub_cancel, List.take_left]

theorem World.since_self {w : World σ} : w.since w = [] := by
  have hnew : w.journal = [] ++ w.journal := rfl
  rw [since_eq hnew]
  rfl

theorem World.since_append {u v w : World σ} (h : u.journal <:+ v.journal)
    (h' : v.journal <:+ w.journal) : u.since w = u.since v ++ v.since w := by
  obtain ⟨new, hv⟩ := h
  obtain ⟨new', hw⟩ := h'
  have hboth : w.journal = (new' ++ new) ++ u.journal := by rw [← hw, ← hv, List.append_assoc]
  rw [since_eq hboth, since_eq hv.symm, since_eq hw.symm, List.map_append, List.reverse_append]

theorem World.Quiet.handovers {w w' : World σ} (h : w.Quiet w') :
    handovers (w.since w') = [] := by
  obtain ⟨new, hj, hn⟩ := h.adds
  rw [since_eq hj]
  refine handovers_of_not_isRun fun e he => ?_
  obtain ⟨x, hx, rfl⟩ := List.mem_map.1 (List.mem_reverse.1 he)
  exact hn x hx

theorem Ran.since {h : Handle} {cmd : Command} {reply : Reply} {w w' : World σ}
    (hr : Ran h cmd reply w w') :
    w.since w' = Handover.events ⟨h.session, cmd, some reply⟩ := by
  have hnew : w'.journal = [_, _] ++ w.journal := hr.journal
  rw [since_eq hnew]
  rfl

theorem Ran.suffix {h : Handle} {cmd : Command} {reply : Reply} {w w' : World σ}
    (hr : Ran h cmd reply w w') :
    w.journal <:+ w'.journal :=
  ⟨[_, _], hr.journal.symm⟩

theorem Ran.handovers {h : Handle} {cmd : Command} {reply : Reply} {w w' : World σ}
    (hr : Ran h cmd reply w w') :
    handovers (w.since w') = [⟨h.session, cmd, some reply⟩] := by
  rw [hr.since]
  simp [Failover.handovers, Handover.events, Event.replyOf]

/-- The handovers are those of the commands that were run. -/
theorem ran_mem_iff {events : List Event} {n : SessionId} {cmd : Command} :
    .ran n cmd ∈ events ↔ ∃ t ∈ handovers events, t.session = n ∧ t.command = cmd := by
  induction events with
  | nil => simp [handovers]
  | cons e rest ih =>
    cases e with
    | ran m c =>
      simp only [List.mem_cons, Event.ran.injEq, ih, handovers, exists_eq_or_imp]
      rw [eq_comm (a := n), eq_comm (a := cmd)]
    | _ => simpa [handovers] using ih

theorem handedOver_append (vs vs' : List (Visit σ)) :
    handedOver (vs ++ vs') = handedOver vs ++ handedOver vs' :=
  List.flatMap_append

theorem handedOver_cons (v : Visit σ) (vs : List (Visit σ)) :
    handedOver (v :: vs) = handedOver [v] ++ handedOver vs :=
  handedOver_append [v] vs

theorem handedOver_visit {act : Section σ β} {c : Connection} {w w' : World σ}
    {x : Option (β × Connection)} (h : act c w = (x, w')) :
    handedOver [⟨act, c, w⟩] = handovers (w.since w') := by
  change handovers (w.since (act c w).2) ++ [] = _
  rw [h, List.append_nil]

end Handovers

namespace Course

variable {M : Scene σ → Scene σ → Prop} {s s' : Scene σ} {vs : List (Visit σ)}

theorem of_done {x : α} {a : Option α} (h : Course M (.done x) s vs a s') :
    vs = [] ∧ a = some x ∧ s' = s := by
  cases h
  exact ⟨rfl, rfl, rfl⟩

theorem of_bind {t : Job σ β} {f : β → Job σ α} {a : Option α} (h : Course M (t >>= f) s vs a s') :
    (a = none ∧ Course M t s vs none s') ∨
      ∃ b vs₁ vs₂ m, vs = vs₁ ++ vs₂ ∧ Course M t s vs₁ (some b) m ∧ Course M (f b) m vs₂ a s' := by
  induction t generalizing s vs with
  | done b => exact .inr ⟨b, [], vs, s, rfl, .done b s, h⟩
  | step act next ih =>
    rw [Job.step_bind] at h
    cases h with
    | step others comes rest =>
      rcases ih _ rest with ⟨ha, hn⟩ | ⟨b, vs₁, vs₂, m, rfl, h₁, h₂⟩
      · exact .inl ⟨ha, .step others comes hn⟩
      · exact .inr ⟨b, _, vs₂, m, rfl, .step others comes h₁, h₂⟩
    | stall others stalls => exact .inl ⟨rfl, .stall others stalls⟩

theorem of_atomic {act : Section σ β} {a : Option β} (h : Course M (.atomic act) s vs a s') :
    ∃ m, M s m ∧ vs = [⟨act, m.connection, m.world⟩] ∧
      ((∃ b c w, act m.connection m.world = (some (b, c), w) ∧ a = some b ∧
        s' = ⟨c, w, m.tasks⟩) ∨ ∃ w, act m.connection m.world = (none, w) ∧ a = none) := by
  cases h with
  | @step _ _ _ _ m _ _ _ _ _ _ others comes rest =>
    obtain ⟨rfl, rfl, rfl⟩ := rest.of_done
    exact ⟨m, others, rfl, .inl ⟨_, _, _, comes, rfl, rfl⟩⟩
  | @stall _ _ _ _ m _ others stalls => exact ⟨m, others, rfl, .inr ⟨_, stalls, rfl⟩⟩

theorem of_reading {act : Connection → Act σ β} {a : Option β}
    (h : Course M (.reading act) s vs a s') :
    ∃ m w, M s m ∧ vs = [⟨Job.unchanged act, m.connection, m.world⟩] ∧
      act m.connection m.world = (a, w) ∧ handedOver vs = handovers (m.world.since w) ∧
      (a.isSome = true → s' = ⟨m.connection, w, m.tasks⟩) := by
  obtain ⟨m, hm, rfl, hend⟩ := of_atomic h
  rcases hx : act m.connection m.world with ⟨_ | b, w⟩
  · have hu : Job.unchanged act m.connection m.world = (none, w) := by
      unfold Job.unchanged
      rw [bind_apply, hx]
    rcases hend with ⟨b, c, w', hb, -, -⟩ | ⟨w', -, rfl⟩
    · rw [hu] at hb
      cases hb
    · exact ⟨m, w, hm, rfl, hx, handedOver_visit hu, nofun⟩
  · have hu : Job.unchanged act m.connection m.world = (some (b, m.connection), w) := by
      unfold Job.unchanged
      rw [bind_apply, hx]
      rfl
    rcases hend with ⟨b', c, w', hb, rfl, rfl⟩ | ⟨w', hn, -⟩
    · rw [hu] at hb
      cases hb
      exact ⟨m, w, hm, rfl, hx, handedOver_visit hu, fun _ => rfl⟩
    · rw [hu] at hn
      cases hn

theorem of_run (hM : ∀ s, M s s) {t : Job σ α} {c c' : Connection} {w w' : World σ} {a : α}
    (h : t.run c w = (some (a, c'), w')) (tasks : List (Task σ)) :
    Course M t ⟨c, w, tasks⟩ (t.visits c w) (some a) ⟨c', w', tasks⟩ := by
  induction t generalizing c w with
  | done b =>
    cases h
    exact .done _ _
  | step act next ih =>
    obtain ⟨⟨b, c₁⟩, w₁, hx, h⟩ := bind_eq_some.1 h
    unfold Job.visits
    rw [hx]
    exact .step (hM _) hx (ih b h)

/-- What the others did before is part of their first turn. -/
theorem after {s₀ : Scene σ} {act : Section σ β} {next : β → Job σ α} {a : Option α}
    (hM : ∀ m, M s m → M s₀ m) (h : Course M (.step act next) s vs a s') :
    Course M (.step act next) s₀ vs a s' := by
  cases h with
  | step others comes rest => exact .step (hM _ others) comes rest
  | stall others stalls => exact .stall (hM _ others) stalls

theorem mono {M' : Scene σ → Scene σ → Prop} (hM : ∀ s s', M s s' → M' s s') {t : Job σ α}
    {a : Option α} (h : Course M t s vs a s') : Course M' t s vs a s' := by
  induction h with
  | done a s => exact .done a s
  | step others comes _ ih => exact .step (hM _ _ others) comes ih
  | stall others stalls => exact .stall (hM _ _ others) stalls

end Course

/-- Whichever course the job takes, `post` holds when it comes to a value, and `stuck` holds if it
does not. -/
def Job.Meets (M : Scene σ → Scene σ → Prop) (t : Job σ α) (s : Scene σ)
    (post : α → Scene σ → Prop) (stuck : Scene σ → Prop) : Prop :=
  ∀ vs a s', Course M t s vs a s' → match a with
    | some x => post x s'
    | none => stuck s'

namespace Job

variable {M : Scene σ → Scene σ → Prop} {s : Scene σ} {t : Job σ α} {f : α → Job σ β}
  {post m : α → Scene σ → Prop} {stuck : Scene σ → Prop}

theorem Meets.exists_value {vs : List (Visit σ)} {a : Option α} {s' : Scene σ}
    (h : t.Meets M s post fun _ => False) (hcourse : Course M t s vs a s') :
    ∃ x, a = some x ∧ post x s' := by
  have hpost := h vs a s' hcourse
  cases a with
  | some x => exact ⟨x, rfl, hpost⟩
  | none => exact hpost.elim

theorem Meets.mono {post' : α → Scene σ → Prop} (h : t.Meets M s post stuck)
    (hp : ∀ a s', post a s' → post' a s') : t.Meets M s post' stuck := by
  intro vs a s' hcourse
  have hpost := h vs a s' hcourse
  cases a with
  | some x => exact hp x s' hpost
  | none => exact hpost

theorem meets_of_forall (hp : ∀ a s', post a s') (hs : ∀ s', stuck s') :
    t.Meets M s post stuck := by
  intro vs a s' _
  cases a with
  | some x => exact hp x s'
  | none => exact hs s'

theorem meets_true : t.Meets M s (fun _ _ => True) fun _ => True :=
  meets_of_forall (fun _ _ => trivial) fun _ => trivial

theorem meets_pure {a : α} (h : post a s) : (pure a : Job σ α).Meets M s post stuck := by
  intro vs x s' hcourse
  obtain ⟨-, rfl, rfl⟩ := hcourse.of_done
  exact h

theorem meets_bind {post : β → Scene σ → Prop} (ht : t.Meets M s m stuck)
    (hf : ∀ a s₁, m a s₁ → (f a).Meets M s₁ post stuck) : (t >>= f).Meets M s post stuck := by
  intro vs x s' hcourse
  rcases hcourse.of_bind with ⟨rfl, h⟩ | ⟨a, vs₁, vs₂, s₁, -, h₁, h₂⟩
  · exact ht _ _ _ h
  · exact hf a s₁ (ht _ _ _ h₁) _ _ _ h₂

theorem meets_atomic {act : Section σ α} (h : ∀ m, M s m → (act m.connection).Meets m.world
    (fun x w => post x.1 ⟨x.2, w, m.tasks⟩) fun w => stuck { m with world := w }) :
    (atomic act).Meets M s post stuck := by
  intro vs x s' hcourse
  cases hcourse with
  | step others comes rest =>
    obtain ⟨-, rfl, rfl⟩ := rest.of_done
    exact (h _ others).value comes
  | stall others stalls => exact (h _ others).stalled stalls

theorem meets_reading {act : Connection → Act σ α} (h : ∀ m, M s m → (act m.connection).Meets
    m.world (fun a w => post a ⟨m.connection, w, m.tasks⟩) fun w => stuck { m with world := w }) :
    (reading act).Meets M s post stuck :=
  meets_atomic fun m hm => Act.meets_bind (h m hm) fun _ _ h => Act.meets_pure h

/-- What the others keep, and every section that the job may go through, is kept by the job. -/
theorem All.meets {P : (β : Type) → Section σ β → Prop} {I : Scene σ → Prop} (ht : t.All P)
    (hM : ∀ s m, M s m → I s → I m) (hP : ∀ β act, P β act → ∀ s : Scene σ, I s →
      (act s.connection).Meets s.world (fun x w => I ⟨x.2, w, s.tasks⟩)
        fun w => stuck { s with world := w }) (hi : I s) :
    t.Meets M s (fun _ s' => I s') stuck := by
  intro vs a s' hcourse
  induction hcourse with
  | done a s => exact hi
  | @step β act next s m s' b c w visits a others comes rest ih =>
    have hm := (hP _ _ ht.head m (hM s m others hi)).value comes
    exact ih (ht.rest b) hm
  | @stall β act next s m w others stalls =>
    exact (hP _ _ ht.head m (hM s m others hi)).stalled stalls

end Job

section AtRest

variable [Cluster σ] {d : Deployment} {s s' : Scene σ} {vs : List (Visit σ)}

theorem Scene.Step.keeps (h : s.Step d s') (hs : s.AtRest d) : s.world.Keeps s'.world := by
  cases h with
  | @advance before after α β act next b c w turn comes =>
    exact ((Scene.head_of_turn hs.lawful turn _ _ hs.settled).value comes).2.2
  | _ => exact keeps_of_eq rfl

theorem Reachable.meanwhile (h : Reachable d s) (hm : Meanwhile d s s') : Reachable d s' := by
  induction hm with
  | refl => exact h
  | tail _ hs ih => exact ih.step hs

theorem Reachable.maintains_meanwhile {Inv : Connection → World σ → Prop}
    {stuck : World σ → Prop} (h : Reachable d s) (hm : Meanwhile d s s')
    (hL : Lasting d (fun _ => True) Inv stuck)
    (drifts : ∀ {c w servers now blacklist}, Inv c w → Inv c { w with servers, now, blacklist })
    (hi : Inv s.connection s.world) : Inv s'.connection s'.world := by
  induction hm with
  | refl => exact hi
  | tail hm hs ih => exact hs.maintains (h.meanwhile hm) hL drifts ih

theorem atRest_of_meanwhile (h : Meanwhile d s s') (hs : s.AtRest d) :
    s'.AtRest d ∧ s.world.Keeps s'.world := by
  induction h with
  | refl => exact ⟨hs, keeps_of_eq rfl⟩
  | tail _ hstep ih => exact ⟨ih.1.step hstep, ih.2.trans (hstep.keeps ih.1)⟩

theorem Course.atRest {t : Job σ α} {a : Option α} (h : Course (Meanwhile d) t s vs a s')
    (ht : t.All (Lawful d)) (hs : s.AtRest d) (ha : a.isSome = true) :
    s'.AtRest d ∧ s.world.Keeps s'.world := by
  induction h with
  | done a s => exact ⟨hs, keeps_of_eq rfl⟩
  | @step β act next s m s' b c w visits a others comes rest ih =>
    obtain ⟨hm, hk⟩ := atRest_of_meanwhile others hs
    obtain ⟨hc, -, hk'⟩ := (ht.head _ _ hm.settled).value comes
    obtain ⟨hs', hk''⟩ := ih (ht.rest b) ⟨hc, hm.lawful⟩ ha
    exact ⟨hs', hk.trans (hk'.trans hk'')⟩
  | stall others stalls => cases ha

theorem Course.calm {t : Job σ α} {a : Option α} (h : Course (Meanwhile d) t s vs a s')
    (ht : t.All (Calm d)) (hs : s.AtRest d) : handedOver vs = [] := by
  induction h with
  | done a s => rfl
  | @step β act next s m s' b c w visits a others comes rest ih =>
    have hm := (atRest_of_meanwhile others hs).1
    obtain ⟨hc, hq⟩ := (ht.head _ _ hm.settled).value comes
    rw [handedOver_cons, ih (ht.rest b) ⟨hc, hm.lawful⟩, handedOver_visit comes, hq.handovers]
    rfl
  | @stall β act next s m w others stalls =>
    rw [handedOver_visit stalls]
    exact ((ht.head _ _ (atRest_of_meanwhile others hs).1.settled).stalled stalls).handovers

end AtRest

end Failover
