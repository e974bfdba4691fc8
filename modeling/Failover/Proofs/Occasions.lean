import Failover.Proofs.Setup

/-!
# When elections are held

A section that looks for sessions holds no more than two elections, each for a goal of its own
(`Occasion.openings`). No host is tried but in their passes (`Occasion.visits_run`), and the
sections that are no such occasion try none (`Part.occasion`).
-/

namespace Failover

open Act World

variable {σ α β : Type}

/-- The beginning of an election. -/
structure Opening (σ : Type) where
  connection : Connection
  goal : Goal
  world : World σ

/-- What makes a connection look for sessions. -/
inductive Occasion
  | establish
  | reconnect
  | seekMaster
  | tryMaster
  | switchMode (readOnly : Bool)
  | recover (failed : SessionId) (inTransaction : Bool)

/-- What is listed of that which follows an action. Nothing follows one that stays unanswered. -/
def Act.followed (x : Act σ α) (w : World σ) (f : α → World σ → List β) : List β :=
  match x w with
  | (some a, w') => f a w'
  | (none, _) => []

section Openings

variable [Cluster σ] (d : Deployment)

/-- The passes of an election. -/
def Opening.rounds (x : Opening σ) : List (Round σ) :=
  Failover.rounds d x.connection x.goal x.world

/-- The hosts that are tried in an election. -/
def Opening.hosts (x : Opening σ) : List Host := (x.rounds d).flatMap (hostsTried <| ·.events d)

/-- Both roles are looked for, and then a master if there is none. -/
def openingsForRoles (c : Connection) (w : World σ) : List (Opening σ) :=
  (if c.hasReplicas then [⟨c, Goal.both.inOnePass, w⟩] else []) ++
    (seekBoth d c).followed w fun c w => if c.masterDown then [⟨c, .masterOnly, w⟩] else []

/-- A session is looked for that suits the mode, if there is none. -/
def openingsForMode (c : Connection) (w : World σ) : List (Opening σ) :=
  if c.readOnly then
    if !c.replicaAvailable && c.hasReplicas then [⟨c, Goal.replicaOnly.inOnePass, w⟩] else []
  else if c.masterAvailable then []
  else [⟨c, .masterOnly, w⟩]

/-- After the loss of the master another one is looked for, unless the replica has become one. -/
def openingsForLostMaster (c : Connection) (w : World σ) : List (Opening σ) :=
  (abandon c.master "Master" "master").followed w fun _ w₁ =>
    (recheckReplica d (c.masterLost w.now) .masterOnly).followed w₁ fun x w₂ =>
      if x.2.wantsMaster then [⟨x.1, x.2, w₂⟩] else []

/-- After the loss of the replica another one is looked for, and a master as well if there is
none. -/
def openingsForLostReplica (c : Connection) (w : World σ) : List (Opening σ) :=
  (abandon c.replica "Replica" "replica").followed w fun _ w₁ =>
    [⟨c.replicaLost, if c.replicaLost.masterAvailable then Goal.replicaOnly.inOnePass
      else Goal.both.orReplicaOnly, w₁⟩]

namespace Occasion

def run (c : Connection) : Occasion → Act σ Connection
  | establish => Prod.snd <$> Failover.establish d c
  | reconnect => Prod.snd <$> Failover.reconnect d c
  | seekMaster => Prod.snd <$> Failover.seekMaster d c
  | tryMaster => Prod.snd <$> Failover.tryMaster d c
  | switchMode readOnly => Prod.snd <$> Failover.switchMode d readOnly c
  | recover failed inTransaction => Prod.snd <$> Failover.recover d failed inTransaction c

/-- The elections that are held, one after the other. -/
def openings (c : Connection) (w : World σ) : Occasion → List (Opening σ)
  | establish => openingsForRoles d c w
  | reconnect =>
    if c.closed then []
    else (closeSessions c).followed w fun c w =>
      openingsForRoles d { c with fallbackReads := 0 } w
  | seekMaster | tryMaster =>
    if c.masterDown then [⟨{ c with fallbackReads := 0 }, Goal.masterOnly.inOnePass, w⟩] else []
  | switchMode readOnly =>
    if c.closed then []
    else (isHeldBack readOnly c).followed w fun held w =>
      if held then [] else openingsForMode { c with readOnly } w
  | recover failed _ =>
    if c.closed then []
    else match c.roleOf failed with
      | some .master => openingsForLostMaster d c w
      | some .replica => openingsForLostReplica c w
      | none => if c.currentSlot.isSome then [] else openingsForLostMaster d c w

end Occasion

end Openings

/-! ## No host is tried but in an election -/

/-- These hosts were tried, in a row. -/
def World.Visits (hosts : List Host) (w w' : World σ) : Prop :=
  ∃ events, w.Notes events w' ∧ hostsTried events = hosts

section Visits

variable {u v w : World σ} {hosts hosts' : List Host} {x : Act σ α} {g : α → Act σ β}

theorem Event.attempted_of_not_isAttempt {e : Event} (h : e.isAttempt = false) :
    e.attempted = none := by
  cases e <;> first | rfl | cases h

theorem visits_of_adds (h : u.Adds (fun e => e.isAttempt = false) v) : u.Visits [] v := by
  obtain ⟨events, hnotes, hkind⟩ := h.notes
  exact ⟨events, hnotes, List.filterMap_eq_nil_iff.2 fun e he =>
    Event.attempted_of_not_isAttempt (hkind e he)⟩

theorem World.Visits.trans (h : u.Visits hosts v) (h' : v.Visits hosts' w) :
    u.Visits (hosts ++ hosts') w := by
  obtain ⟨xs, hxs, rfl⟩ := h
  obtain ⟨ys, hys, rfl⟩ := h'
  exact ⟨xs ++ ys, hxs.trans hys, hostsTried_append xs ys⟩

theorem World.Visits.refl (w : World σ) : w.Visits [] w := ⟨[], Notes.refl w, rfl⟩

/-- What comes after tries no more hosts. -/
theorem World.Visits.andThen (h : w.Visits hosts (x w).2)
    (hg : ∀ a, (g a).Always (Visits [])) : w.Visits hosts ((x >>= g) w).2 := by
  rw [bind_apply]
  rcases hx : x w with ⟨_ | a, w'⟩ <;> rw [hx] at h
  · exact h
  · exact List.append_nil hosts ▸ h.trans (hg a w')

theorem World.Visits.map {f : α → β} (h : w.Visits hosts (x w).2) :
    w.Visits hosts ((f <$> x) w).2 := by
  rw [map_eq_pure_bind]
  exact h.andThen fun _ => World.Visits.refl

theorem visits_bind (hx : x.Always (Visits [])) (hg : ∀ a, (g a).Always (Visits [])) :
    (x >>= g).Always (Visits []) :=
  fun w => (hx w).andThen hg

theorem Act.Inert.visits (h : x.Inert) : x.Always (Visits []) :=
  fun w => visits_of_adds (h.sparesHosts w).adds

variable [Cluster σ] {d : Deployment}

theorem Act.Chores.visits (h : x.Chores d) : x.Always (Visits []) :=
  fun w => visits_of_adds (h.sparesHosts w).adds

theorem visits_abandon (d : Deployment) (slot : Option Slot) (role searched : String) :
    (abandon slot role searched : Act σ Unit).Always (Visits []) := by
  have lists (h : Host) : (Act.blacklist h : Act σ Unit).Always (Visits []) :=
    visits_bind (always_change fun _ => visits_of_adds (adds_of_eq rfl)) fun _ =>
      (inert_log _ _).visits
  unfold abandon
  split
  · exact visits_bind (chores_closeSession d _).visits fun _ =>
      visits_bind (inert_log _ _).visits fun _ => lists _
  · exact World.Visits.refl

/-- An election tries its hosts. -/
theorem visits_electAndRoute (d : Deployment) (c : Connection) (g : Goal) (w : World σ) :
    w.Visits ([(⟨c, g, w⟩ : Opening σ)].flatMap (·.hosts d)) (electAndRoute d c g w).2 := by
  rw [List.flatMap_singleton]
  exact notes_electAndRoute d c g w

/-- What follows an action that tries none has the hosts of its own elections tried. -/
theorem visits_followed {f : α → World σ → List (Opening σ)} (hx : x.Always (Visits []))
    (hg : ∀ a (w' : World σ), w'.Visits ((f a w').flatMap (·.hosts d)) (g a w').2) :
    w.Visits ((x.followed w f).flatMap (·.hosts d)) ((x >>= g) w).2 := by
  have h := hx w
  unfold Act.followed
  rw [bind_apply]
  rcases hx : x w with ⟨_ | a, w'⟩ <;> rw [hx] at h
  · exact h
  · exact h.trans (hg a w')

theorem visits_electMaster (d : Deployment) (c : Connection) (w : World σ) :
    w.Visits ([(⟨c, .masterOnly, w⟩ : Opening σ)].flatMap (·.hosts d)) (electMaster d c w).2 := by
  unfold electMaster
  refine (visits_electAndRoute d c _ w).andThen fun x => ?_
  split <;> exact World.Visits.refl

theorem visits_electRoles (d : Deployment) (c : Connection) (w : World σ) :
    w.Visits ((openingsForRoles d c w).flatMap (·.hosts d)) (electRoles d c w).2 := by
  have both : w.Visits ((if c.hasReplicas then [(⟨c, Goal.both.inOnePass, w⟩ : Opening σ)]
      else []).flatMap (·.hosts d)) (seekBoth d c w).2 := by
    unfold seekBoth
    split
    · exact (visits_electAndRoute d c _ w).map
    · exact World.Visits.refl w
  rw [electRoles_eq, openingsForRoles, List.flatMap_append]
  unfold Act.followed
  rw [bind_apply]
  rcases hx : seekBoth d c w with ⟨_ | c', w'⟩ <;> rw [hx] at both <;> refine both.trans ?_
  · exact World.Visits.refl w'
  · dsimp only
    split
    · exact visits_electMaster d c' w'
    · exact World.Visits.refl w'

theorem visits_seekMaster (d : Deployment) (c : Connection) (w : World σ) :
    w.Visits ((Occasion.seekMaster.openings d c w).flatMap (·.hosts d))
      (seekMaster d c w).2 := by
  unfold seekMaster Occasion.openings
  cases c.masterDown with
  | false => exact World.Visits.refl w
  | true =>
    refine (visits_electAndRoute d _ _ w).andThen fun x => ?_
    split
    · exact World.Visits.refl
    · exact visits_bind (inert_ask _).visits fun _ => World.Visits.refl

theorem visits_enterMode (d : Deployment) (c : Connection) (w : World σ) :
    w.Visits ((openingsForMode c w).flatMap (·.hosts d)) (enterMode d c w).2 := by
  unfold enterMode openingsForMode
  cases c.readOnly with
  | true =>
    cases c.replicaAvailable with
    | true => exact World.Visits.refl w
    | false =>
      cases c.hasReplicas with
      | false => exact World.Visits.refl w
      | true =>
        refine (visits_electAndRoute d c _ w).andThen fun x => ?_
        dsimp only
        split
        · exact visits_bind (inert_log _ _).visits fun _ => World.Visits.refl
        · exact World.Visits.refl
  | false =>
    cases c.masterAvailable with
    | true => exact World.Visits.refl w
    | false => exact visits_electMaster d c w

theorem visits_switchMode (d : Deployment) (readOnly : Bool) (c : Connection) (w : World σ) :
    w.Visits (((Occasion.switchMode readOnly).openings d c w).flatMap (·.hosts d))
      (switchMode d readOnly c w).2 := by
  unfold switchMode Occasion.openings
  cases c.closed with
  | true => exact World.Visits.refl w
  | false =>
    refine visits_followed (w := w) (inert_isHeldBack readOnly c).visits fun held w₁ => ?_
    cases held with
    | true => exact World.Visits.refl w₁
    | false => exact visits_enterMode d _ w₁

theorem visits_recoverMaster (d : Deployment) (inTransaction : Bool) (c : Connection)
    (w : World σ) : w.Visits ((openingsForLostMaster d c w).flatMap (·.hosts d))
      (recoverMaster d inTransaction c w).2 := by
  unfold recoverMaster openingsForLostMaster
  refine visits_followed (w := w) (visits_abandon d _ _ _) fun _ w₁ => ?_
  refine visits_followed (w := w₁) (chores_recheckReplica d _ _).visits fun x w₂ => ?_
  dsimp only
  cases x.2.wantsMaster with
  | false => exact World.Visits.refl w₂
  | true =>
    refine (visits_electAndRoute d x.1 x.2 w₂).andThen fun y => ?_
    split
    · exact World.Visits.refl
    · split
      · exact visits_bind (inert_log _ _).visits fun _ => World.Visits.refl
      · exact World.Visits.refl

theorem visits_recoverReplica (d : Deployment) (c : Connection) (w : World σ) :
    w.Visits ((openingsForLostReplica c w).flatMap (·.hosts d)) (recoverReplica d c w).2 := by
  unfold recoverReplica openingsForLostReplica
  refine visits_followed (w := w) (visits_abandon d _ _ _) fun _ w₁ => ?_
  dsimp only
  split
  · refine (visits_electAndRoute d _ _ w₁).andThen fun y => ?_
    split
    · exact World.Visits.refl
    · exact visits_bind (inert_log _ _).visits fun _ => World.Visits.refl
  · refine (visits_electAndRoute d _ _ w₁).andThen fun y => ?_
    split <;> exact World.Visits.refl

/-- An occasion has the hosts of its elections tried, and no other ones. -/
theorem Occasion.visits_run (o : Occasion) (d : Deployment) (c : Connection) (w : World σ) :
    w.Visits ((o.openings d c w).flatMap (·.hosts d)) (o.run d c w).2 := by
  cases o with
  | establish =>
    refine World.Visits.map ?_
    unfold Failover.establish
    refine (visits_electRoles d c w).andThen fun x => ?_
    dsimp only
    split
    · exact visits_bind (inert_log _ _).visits fun _ => World.Visits.refl
    · exact World.Visits.refl
  | reconnect =>
    refine World.Visits.map ?_
    dsimp only [openings]
    unfold Failover.reconnect
    cases c.closed with
    | true => exact World.Visits.refl w
    | false =>
      exact visits_followed (w := w) (chores_closeSessions d c).visits fun c' w' =>
        visits_electRoles d _ w'
  | seekMaster => exact (visits_seekMaster d c w).map
  | tryMaster =>
    refine World.Visits.map ?_
    unfold Failover.tryMaster
    refine (visits_seekMaster d c w).andThen fun x => ?_
    dsimp only
    split
    · exact visits_bind (inert_log _ _).visits fun _ => World.Visits.refl
    · exact World.Visits.refl
  | switchMode readOnly => exact (visits_switchMode d readOnly c w).map
  | recover failed inTransaction =>
    refine World.Visits.map ?_
    dsimp only [openings]
    unfold Failover.recover
    cases c.closed with
    | true => exact World.Visits.refl w
    | false =>
      cases c.roleOf failed with
      | none =>
        cases c.currentSlot with
        | some n =>
          refine (World.Visits.refl w).trans ?_
          exact ((inert_log _ _).visits w).andThen fun _ => World.Visits.refl
        | none => exact visits_recoverMaster d inTransaction c w
      | some r =>
        cases r with
        | master => exact visits_recoverMaster d inTransaction c w
        | replica => exact visits_recoverReplica d c w

/-- A section that tries hosts is one of these occasions. -/
theorem Part.occasion {may : Command → Prop} {act : Section σ β} (h : Part d may β act) :
    (∃ o : Occasion, ∀ c, Prod.snd <$> act c = o.run d c) ∨
      ∀ c, (act c).Always SparesHosts := by
  cases h with
  | upkept h =>
    cases h with
    | assess cmd => exact .inr fun c => (inert_assess d cmd c).sparesHosts
    | establish => exact .inl ⟨.establish, fun _ => rfl⟩
    | reconnect => exact .inl ⟨.reconnect, fun _ => rfl⟩
    | seekMaster => exact .inl ⟨.seekMaster, fun _ => rfl⟩
    | tryMaster => exact .inl ⟨.tryMaster, fun _ => rfl⟩
    | switchMode readOnly => exact .inl ⟨.switchMode readOnly, fun _ => rfl⟩
    | close =>
      exact .inr fun c => framing_sparesHosts.bind (chores_close d c).sparesHosts fun _ =>
        framing_sparesHosts.pure _
    | recover failed inTransaction => exact .inl ⟨.recover failed inTransaction, fun _ => rfl⟩
    | reads _ inert => exact .inr fun c => ((inert c).bind fun _ => inert_pure _).sparesHosts
  | remember database _ => exact .inr fun _ => framing_sparesHosts.pure _
  | dispatch _ spares _ =>
    exact .inr fun c => framing_sparesHosts.bind (spares c) fun _ => framing_sparesHosts.pure _
  | dispatchAll cmds _ =>
    exact .inr fun c => framing_sparesHosts.bind (sparesHosts_dispatchAll cmds c) fun _ =>
      framing_sparesHosts.pure _

end Visits

end Failover
