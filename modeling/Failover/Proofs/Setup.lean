import Failover.Proofs.HostList
import Failover.Proofs.Passes
import Mathlib.Algebra.Order.BigOperators.Group.List
import Mathlib.Algebra.Order.Group.Nat

/-!
# Setting a connection up

A new connection, and one that drops its sessions to reconnect, looks for both roles in one pass and
then, if that found no master, for a master alone (`roundsForBoth`, `roundsForMaster`). What the
first election comes to is not looked at: whether a connection is set up follows from its slots
(`setup_needs_master`). A replica that the first pass binds is not lost by looking for the master
alone: it stays where it is, or becomes the master.
-/

namespace Failover

open Act World

variable {σ : Type}

section Schedule

/-! ## The two elections -/

variable [Cluster σ] (d : Deployment)

/-- The election for both roles, where replicas are used. -/
def seekBoth (c : Connection) : Act σ Connection :=
  if c.hasReplicas then Prod.snd <$> electAndRoute d c Goal.both.inOnePass else pure c

theorem electRoles_eq (c : Connection) : (electRoles d c : Act σ _) = (do
    let c ← seekBoth d c
    if c.masterDown then electMaster d c else return (.ok (), c)) := by
  unfold electRoles seekBoth
  split <;> rfl

/-- The passes for both roles. -/
def roundsForBoth (c : Connection) (w : World σ) : List (Round σ) :=
  if c.hasReplicas then rounds d c Goal.both.inOnePass w else []

/-- The passes for a master alone that follow if it is still missing. -/
def roundsForMaster (c : Connection) (w : World σ) : List (Round σ) :=
  match seekBoth d c w with
  | (some c, w) => if c.masterDown then rounds d c .masterOnly w else []
  | (none, _) => []

/-- Which passes there are. -/
structure Schedule (c : Connection) (w : World σ) : Prop where
  /-- There is one for both roles, unless a role is not used or both are there. -/
  one : (roundsForBoth d c w).length =
    if d.hasReplicas && (c.masterDown || c.replicaDown) then 1 else 0
  both : ∀ p ∈ roundsForBoth d c w, p.election = ⟨c, Goal.both.inOnePass, none⟩
  /-- Those for a master alone are made only if the first came to its end without one. -/
  needed : roundsForMaster d c w ≠ [] → ∀ p ∈ roundsForBoth d c w,
    ∃ x, (p.run d).1 = some x ∧ x.1.connection.master = none
  alone : ∀ p ∈ roundsForMaster d c w, p.election.goal = .masterOnly
  bounded : (roundsForMaster d c w).length ≤ d.config.failover.retriesAllDown

end Schedule

/-- What sets a connection up, with the connection and the world with which it begins to look for
sessions. -/
inductive Setup [Cluster σ] (d : Deployment) : Section σ (Except Error Unit) → Connection →
    World σ → Connection → World σ → Prop
  | establish (c : Connection) (w : World σ) : Setup d (establish d) c w c w
  | reconnect (c : Connection) (w : World σ) : Setup d (reconnect d) c w
      { c.withoutSessions with fallbackReads := 0 } (closeSessions c w).2

/-- How a connection is when it was set up, and what is said of it. -/
structure Equipped [Cluster σ] (d : Deployment) (c₀ : Connection) (w₀ : World σ)
    (answer : Except Error Unit) (c : Connection) : Prop where
  ok : answer = .ok () ↔ c.master.isSome = true
  error : ∀ e, answer = .error e → ∃ failure, e = .exhausted .master failure
  replica : ∀ p ∈ roundsForBoth d c₀ w₀, ∀ x, (p.run d).1 = some x → ∀ s,
    x.1.connection.replica = some s →
      c.replica = some s ∨ c.master = some s ∧ c.replica = none
  target : c.master = none → c.replica.isSome = true → c.current = some .replica

section MasterAlone

/-! ## Looking for a master alone -/

variable {d : Deployment} {c : Connection} {w : World σ}

theorem Begins.wanting {first : Bool} {e : Election} {asked : List Event} {p : Round σ}
    (h : Begins first e w asked p) (hfirst : first = true → e.goal.isEnough = false)
    (hlater : first = false → p.election.goal.isEnough = false) :
    p.election.goal.isEnough = false := by
  cases first with
  | true => rw [h.first rfl, hfirst rfl]
  | false => exact hlater rfl

/-- No pass begins with enough, unless the first one does. -/
theorem Campaign.wanting [Cluster σ] {first : Bool} {n : Nat} {e : Election} {events : List Event}
    {ps : List (Round σ)} {y : Option (Election × Bool) × World σ}
    (h : Campaign d first n e w events ps y)
    (hfirst : first = true → e.goal.isEnough = false) :
    ∀ p ∈ ps, p.election.goal.isEnough = false := by
  induction h with
  | spent => simp
  | enough => simp
  | last begins wanting _ => simpa using begins.wanting hfirst wanting
  | more begins wanting _ _ _ ih =>
    exact List.forall_mem_cons.2 ⟨begins.wanting hfirst wanting, ih nofun⟩

/-- The goal of an election for a master alone. -/
def Goal.IsMasterOnly (g : Goal) : Prop := g = .masterOnly ∨ g = Goal.masterOnly.masterFound

theorem Goal.IsMasterOnly.masterFound {g : Goal} (h : g.IsMasterOnly) :
    g.masterFound.IsMasterOnly := by
  rcases h with rfl | rfl <;> exact .inr rfl

theorem Goal.IsMasterOnly.after {e : Election} (h : e.goal.IsMasterOnly) (t : Try) :
    (e.after t).goal.IsMasterOnly := by
  rcases t with ⟨host, x⟩ | ⟨host, ⟨n, probe, (_ | _) | x | _⟩, lookup, rest⟩ <;> try exact h
  · unfold Election.after
    dsimp only
    split
    · exact h.masterFound
    · exact h
  · have hno : e.goal.wants .replica = false := by
      rcases h with h | h <;> rw [h] <;> rfl
    simpa [Election.after, hno] using h

/-- In each pass for a master alone the master is wanted. -/
theorem goal_of_rounds_masterOnly [Cluster σ] : ∀ p ∈ rounds d c .masterOnly w,
    p.election.goal = .masterOnly := by
  intro p hp
  obtain ⟨hopen, -, w', events, y, hcampaign⟩ := campaign_of_mem hp
  have hgoal := hcampaign.keeps
    (I := fun e => e.connection.closed = false ∧ e.goal.IsMasterOnly) ?_ ?_ ⟨hopen, .inl rfl⟩
  · rcases (hgoal p hp).2 with h | h
    · exact h
    · have henough := hcampaign.wanting (fun _ => rfl) p hp
      rw [h] at henough
      cases henough
  · rintro e e' asked ⟨ho, hg⟩ hasked
    refine ⟨hasked.closed.trans ho, ?_⟩
    cases hasked with
    | idle => exact hg
    | stays => exact hg
    | promoted => exact hg.masterFound
  · rintro p e' ⟨ho, hg⟩ hrun
    obtain ⟨ts, left, haccount⟩ := p.exists_account (d := d) ho
    refine ⟨(haccount.closed hrun).trans ho, ?_⟩
    rw [show e' = _ from (haccount.result _ hrun).election]
    exact List.foldlRecOn (motive := fun e => e.goal.IsMasterOnly) ts Election.after hg
      fun _ h t _ => h.after t

/-- The session that was in the replica's slot is still there, or it is the master's by now. -/
structure Standby (c₀ : Connection) (c : Connection) (g : Goal) : Prop where
  masterOnly : g.wantsReplica = false
  stays : ∀ s, c₀.replica = some s →
    c.replica = some s ∨ c.master = some s ∧ c.replica = none ∧ g.wantsMaster = false

theorem kept_standby {c₀ : Connection} :
    Kept d fun c g (_ : World σ) => Standby c₀ c g where
  attempt := by
    intro e e' w w' _ h ha
    cases ha with
    | unbound hc hg _ => rwa [hc, hg]
    | bound r s hw _ hc hg _ _ =>
      rw [hc, hg]
      cases r with
      | replica => cases h.masterOnly.symm.trans hw
      | master =>
        refine ⟨h.masterOnly, fun s' hs' => .inl ?_⟩
        have hslot := e.connection.slot_fill_of_ne (r := .master) (q := .replica) s (by decide)
        rcases h.stays s' hs' with hr | ⟨-, -, hno⟩
        · exact hslot.trans hr
        · cases hno.symm.trans hw
  beside h _ := h

theorem keptByRecheck_standby {c₀ : Connection} :
    KeptByRecheck d fun c g (_ : World σ) => Standby c₀ c g := by
  intro c c' g g' w w' _ h hr
  cases hr with
  | same _ _ => exact h
  | promoted s x _ hrep _ _ _ =>
    refine ⟨h.masterOnly, fun s' hs' => .inr ?_⟩
    obtain hr | ⟨-, hno, -⟩ := h.stays s' hs'
    · obtain rfl : s = s' := Option.some.inj (hrep.symm.trans hr)
      exact ⟨c.slot_promote_master s, c.slot_promote_replica s, rfl⟩
    · cases hrep.symm.trans hno

end MasterAlone

section Elections

/-! ## One election after the other -/

variable [Cluster σ] {d : Deployment} {c : Connection} {w : World σ}

theorem electAndRoute_apply (c : Connection) (g : Goal) (w : World σ) : electAndRoute d c g w =
    ((elect d c g w).1.map fun x => (x.1, x.2.1.route), (elect d c g w).2) := by
  unfold electAndRoute
  rw [bind_apply]
  rcases elect d c g w with ⟨_ | ⟨outcome, c', g'⟩, w'⟩ <;> rfl

theorem notes_electAndRoute (d : Deployment) (c : Connection) (g : Goal) (w : World σ) :
    ∃ events, w.Notes events (electAndRoute d c g w).2 ∧
      hostsTried events = (rounds d c g w).flatMap (hostsTried <| ·.events d) := by
  rw [electAndRoute_apply]
  exact notes_elect d c g w

theorem snd_seekBoth (hrep : c.hasReplicas = true) :
    (seekBoth d c w).2 = (electAndRoute d c Goal.both.inOnePass w).2 := by
  unfold seekBoth
  rw [if_pos hrep, map_eq_pure_bind, bind_apply]
  rcases electAndRoute d c Goal.both.inOnePass w with ⟨_ | x, w'⟩ <;> rfl

theorem notes_seekBoth (d : Deployment) (c : Connection) (w : World σ) :
    ∃ events, w.Notes events (seekBoth d c w).2 ∧
      hostsTried events = (roundsForBoth d c w).flatMap (hostsTried <| ·.events d) := by
  unfold roundsForBoth
  split
  next hrep =>
    rw [snd_seekBoth hrep]
    exact notes_electAndRoute d c _ w
  next hrep =>
    unfold seekBoth
    rw [if_neg hrep]
    exact ⟨[], Notes.refl w, rfl⟩

theorem snd_electMaster : (electMaster d c w).2 = (electAndRoute d c .masterOnly w).2 := by
  unfold electMaster
  rw [bind_apply]
  rcases electAndRoute d c .masterOnly w with ⟨_ | ⟨_ | e, c'⟩, w'⟩ <;> rfl

/-- No host is tried but in the passes. -/
theorem notes_electRoles (d : Deployment) (c : Connection) (w : World σ) :
    ∃ events, w.Notes events (electRoles d c w).2 ∧ hostsTried events =
      (roundsForBoth d c w ++ roundsForMaster d c w).flatMap (hostsTried <| ·.events d) := by
  obtain ⟨events, hnotes, htried⟩ := notes_seekBoth d c w
  rw [electRoles_eq, bind_apply]
  unfold roundsForMaster
  rcases hseek : seekBoth d c w with ⟨_ | c', w'⟩ <;> rw [hseek] at hnotes <;> dsimp only
  · exact ⟨events, hnotes, by rw [List.append_nil, htried]⟩
  split
  · obtain ⟨later, hlater, hmaster⟩ := notes_electAndRoute d c' .masterOnly w'
    refine ⟨events ++ later, ?_, ?_⟩
    · rw [snd_electMaster]
      exact hnotes.trans hlater
    · rw [hostsTried_append, List.flatMap_append, htried, hmaster]
  · exact ⟨events, hnotes, by rw [List.append_nil, htried]⟩

/-- What the election for both roles comes to is what its pass comes to. -/
theorem seekBoth_value (hs : Settled d c w) (hopen : c.closed = false) {c' : Connection}
    {w' : World σ} (h : seekBoth d c w = (some c', w')) :
    Settled d c' w' ∧ c'.closed = false ∧ ∀ p ∈ roundsForBoth d c w,
      ∃ x, (p.run d).1 = some x ∧ c' = x.1.connection.route := by
  unfold seekBoth at h
  unfold roundsForBoth
  split at h
  next hrep =>
    rw [if_pos hrep]
    rw [map_eq_pure_bind] at h
    obtain ⟨⟨outcome, c₁⟩, w₁, helect, hpure⟩ := bind_eq_some.1 h
    obtain ⟨rfl, rfl⟩ : c₁ = c' ∧ w₁ = w' := by simpa [Act.pure_apply] using hpure
    have hsettled := (upkeep_quiet w).elected (g := Goal.both.inOnePass) hs.toSound
      (Quiet.refl w) rfl fun _ => hrep
    obtain ⟨hs', helected, -⟩ := hsettled.value helect
    refine ⟨hs', helected.closed.trans hopen, ?_⟩
    intro p hp
    rw [electAndRoute_apply] at helect
    cases hup : c.closed || !c.masterDown && !c.replicaDown with
    | true =>
      rw [(elect_of_idle (d := d) (g := Goal.both.inOnePass) (w := w) hup).1] at hp
      cases hp
    | false =>
      obtain ⟨q, hone, -, hends⟩ := elect_inOnePass (d := d) (g := Goal.both.inOnePass)
        (w := w) rfl hup
      obtain rfl : p = q := List.mem_singleton.1 (hone ▸ hp)
      obtain ⟨⟨o, c₂, g₂⟩, hx, heq⟩ := Option.map_eq_some_iff.1 (congrArg Prod.fst helect)
      obtain ⟨e, ended, hrun, hcg⟩ := hends _ hx
      obtain ⟨rfl, rfl⟩ : c₂ = e.connection ∧ g₂ = e.goal := by simpa using hcg
      exact ⟨_, hrun, (congrArg Prod.snd heq).symm⟩
  next hrep =>
    rw [if_neg hrep]
    obtain ⟨rfl, rfl⟩ : c = c' ∧ w = w' := by simpa [Act.pure_apply] using h
    exact ⟨hs, hopen, by simp⟩

theorem schedule_of_settled (hs : Settled d c w) (hopen : c.closed = false)
    (hpasses : d.config.failover.retriesAllDown ≠ 0) : Schedule d c w := by
  have hboth (hrep : c.hasReplicas = true)
      (hup : (c.closed || !c.masterDown && !c.replicaDown) = false) :
      ∃ p : Round σ, roundsForBoth d c w = [p] ∧ p.election = ⟨c, Goal.both.inOnePass, none⟩ := by
    obtain ⟨p, hone, hp, -⟩ := elect_inOnePass (d := d) (g := Goal.both.inOnePass) (w := w) rfl hup
    exact ⟨p, by rw [roundsForBoth, if_pos hrep, hone], hp⟩
  have hnone (h : (d.hasReplicas && (c.masterDown || c.replicaDown)) = false) :
      roundsForBoth d c w = [] := by
    unfold roundsForBoth
    split
    next hrep =>
      rw [← hs.topology, hrep] at h
      exact (elect_of_idle (by simp_all)).1
    next => rfl
  have hsome (h : (d.hasReplicas && (c.masterDown || c.replicaDown)) = true) :
      ∃ p : Round σ, roundsForBoth d c w = [p] ∧ p.election = ⟨c, Goal.both.inOnePass, none⟩ := by
    obtain ⟨hrep, hdown⟩ := Bool.and_eq_true_iff.1 h
    refine hboth (hs.topology.trans hrep) ?_
    rw [hopen]
    cases hm : c.masterDown <;> simp_all
  refine ⟨?_, ?_, ?_, ?_, ?_⟩
  · split
    next h =>
      obtain ⟨p, hone, -⟩ := hsome h
      rw [hone, List.length_singleton]
    next h => rw [hnone (by simpa using h), List.length_nil]
  · intro p hp
    cases h : d.hasReplicas && (c.masterDown || c.replicaDown) with
    | true =>
      obtain ⟨q, hone, hq⟩ := hsome h
      rw [hone, List.mem_singleton] at hp
      rw [hp, hq]
    | false =>
      rw [hnone h] at hp
      cases hp
  · intro hne p hp
    unfold roundsForMaster at hne
    split at hne
    next c' w' hseek =>
      split at hne
      next hdown =>
        obtain ⟨hs', -, hrun⟩ := seekBoth_value hs hopen hseek
        obtain ⟨x, hx, rfl⟩ := hrun p hp
        refine ⟨x, hx, ?_⟩
        exact (x.1.connection.slot_route .master).symm.trans
          (hs'.coherent.master_eq_none hdown)
      next => exact absurd rfl hne
    next => exact absurd rfl hne
  · intro p hp
    unfold roundsForMaster at hp
    split at hp
    next =>
      split at hp
      · exact goal_of_rounds_masterOnly p hp
      · cases hp
    next => cases hp
  · unfold roundsForMaster
    have hlimit : Goal.masterOnly.passesIn d = d.config.failover.retriesAllDown :=
      max_eq_right (Nat.pos_of_ne_zero hpasses)
    split
    next c' w' _ =>
      split
      · exact hlimit ▸ length_rounds_le d c' .masterOnly w'
      · exact Nat.zero_le _
    next => exact Nat.zero_le _

end Elections

section Result

/-! ## What a connection is set up with -/

variable [Cluster σ] {d : Deployment} {c : Connection} {w : World σ}

/-- Looking for a master alone gives one, or leaves the slots as they are and names the master. -/
theorem meets_electMaster (hs : Settled d c w) (hopen : c.closed = false)
    (hdown : c.masterDown = true) : (electMaster d c).Meets w (fun x w' => Settled d x.2 w' ∧
      (x.1 = .ok () ↔ x.2.master.isSome = true) ∧
      (∀ e, x.1 = .error e → ∃ failure, e = .exhausted .master failure) ∧
      ∀ s, c.replica = some s → x.2.replica = some s ∨ x.2.master = some s ∧ x.2.replica = none)
      fun _ => True := by
  have hmaster : c.master = none := hs.coherent.master_eq_none hdown
  have hstandby := meets_election (g := .masterOnly) kept_standby.upheld
    (.inr keptByRecheck_standby.upheld) hs.toSound
    (⟨rfl, fun _ => .inl⟩ : Standby c c .masterOnly) rfl nofun
  have hfound := meets_masterElection (g := .masterOnly) hs.toSound hopen rfl
    ⟨rfl, rfl, nofun⟩
  unfold electMaster
  refine meets_bind ((hstandby.and hfound).mono (fun _ _ h => h) fun _ _ => trivial) ?_
  rintro ⟨outcome, _⟩ w' ⟨⟨hs', helected, c', g', rfl, hstays⟩, -, hok, hcause⟩
  have hreplica (s : Slot) (h : c.replica = some s) : c'.route.replica = some s ∨
      c'.route.master = some s ∧ c'.route.replica = none := by
    rw [show c'.route.replica = c'.replica from c'.slot_route .replica,
      show c'.route.master = c'.master from c'.slot_route .master]
    exact (hstays.stays s h).imp id fun ⟨hm, hr, _⟩ => ⟨hm, hr⟩
  cases outcome with
  | found => exact meets_pure ⟨hs', by simpa using hok rfl, nofun, hreplica⟩
  | exhausted e =>
    have hvacant : c'.route.master = none :=
      helected.vacant e .master rfl (by rintro (_ | _) h <;> first | rfl | cases h) hmaster
    refine meets_pure ⟨hs', by simp [hvacant], ?_, hreplica⟩
    rintro _ ⟨⟩
    exact hcause e rfl

theorem meets_electRoles_equipped (hs : Settled d c w) (hopen : c.closed = false) :
    (electRoles d c).Meets w (fun x _ => Equipped d c w x.1 x.2) fun _ => True := by
  rw [electRoles_eq]
  have hseek : (seekBoth d c).Meets w (fun c' w' => Settled d c' w' ∧ c'.closed = false ∧
      ∀ p ∈ roundsForBoth d c w, ∃ x, (p.run d).1 = some x ∧ c' = x.1.connection.route)
      fun _ => True :=
    meets_iff.2 ⟨fun _ _ h => seekBoth_value hs hopen h, fun _ _ => trivial⟩
  refine meets_bind hseek ?_
  rintro c' w' ⟨hs', hopen', hrun⟩
  have hreplica {p : Round σ} (hp : p ∈ roundsForBoth d c w) {x : Election × Bool}
      (hx : (p.run d).1 = some x) : c'.replica = x.1.connection.replica := by
    obtain ⟨x', hx', rfl⟩ := hrun p hp
    obtain rfl := Option.some.inj (hx.symm.trans hx')
    exact x.1.connection.slot_route .replica
  have htarget {c'' : Connection} {w'' : World σ} (hs : Settled d c'' w'')
      (hm : c''.master = none) (hr : c''.replica.isSome = true) :
      c''.current = some .replica := by
    rw [hs.rest]
    simp [Connection.target, hm, hr]
  split
  next hdown =>
    refine (meets_electMaster hs' hopen' hdown).mono ?_ fun _ h => h
    rintro x w'' ⟨hs'', hok, herror, hstays⟩
    exact ⟨hok, herror, fun p hp x hx s hr => hstays s ((hreplica hp hx).trans hr),
      htarget hs''⟩
  next hup =>
    have hmaster : c'.master.isSome = true := by
      rw [hs'.coherent.masterDown] at hup
      simpa [Option.isSome_iff_ne_none] using hup
    refine meets_pure ⟨by simpa using hmaster, ?_,
      fun p hp x hx s hr => .inl ((hreplica hp hx).trans hr), htarget hs'⟩
    rintro _ ⟨⟩

end Result

section Config

/-! ## Sound configurations -/

variable {config : Config} {d : Deployment}

/-- What a deployment has from its configuration. -/
theorem Deployment.of_ofConfig (h : Deployment.ofConfig config = .ok d) : d.config = config ∧
    config.failover.retriesAllDown ≠ 0 ∧ d.hosts.length = config.hosts.length := by
  unfold ofConfig at h
  rcases hcheck : config.check with _ | hosts <;> rw [hcheck] at h <;> cases h
  obtain ⟨-, -, hretries, -, hhosts⟩ := Config.check_eq_ok_iff.1 hcheck
  exact ⟨rfl, hretries, Host.length_parseAll hhosts⟩

end Config

section Setup

/-! ## From the outside -/

variable [Cluster σ] {d : Deployment} {c c₀ : Connection} {w w₀ : World σ}
  {act : Section σ (Except Error Unit)}

/-- How a setup comes to its elections, and that it answers as they do. -/
structure Setup.Begun (d : Deployment) (act : Section σ (Except Error Unit)) (c : Connection)
    (w : World σ) (c₀ : Connection) (w₀ : World σ) : Prop where
  settled : Settled d c₀ w₀
  opened : c₀.closed = false
  before : ∃ events, w.Notes events w₀ ∧ hostsTried events = []
  answer : (act c w).1 = (electRoles d c₀ w₀).1
  after : (electRoles d c₀ w₀).2.Notes [] (act c w).2

theorem Setup.errands (h : Setup d act c w c₀ w₀) : (act c).Errands d := by
  cases h with
  | establish => exact Electing.establish.errands c
  | reconnect => exact Electing.reconnect.errands c

theorem meets_closeSessions_notes : (closeSessions c).Meets w
    (fun c' w' => c' = c.withoutSessions ∧ ∃ events, w.Notes events w' ∧ hostsTried events = [])
    fun _ => False := by
  have closes (slot : Option Slot) (w : World σ) : (closeSlot slot).Meets w
      (fun _ w' => ∃ events, w.Notes events w' ∧ hostsTried events = []) fun _ => False := by
    refine meets_closeSlot_ousts.mono ?_ fun _ h => h
    intro _ w' h
    obtain ⟨events, hnotes, housts⟩ := h.notes
    exact ⟨events, hnotes, List.filterMap_eq_nil_iff.2 fun x hx => (housts x hx).attempted⟩
  unfold closeSessions
  refine meets_bind (closes c.master w) ?_
  rintro _ w₁ ⟨xs, hxs, hnox⟩
  refine meets_bind (closes c.replica w₁) ?_
  rintro _ w₂ ⟨ys, hys, hnoy⟩
  exact meets_pure ⟨rfl, xs ++ ys, hxs.trans hys, by rw [hostsTried_append, hnox, hnoy]; rfl⟩

theorem Setup.begun (h : Setup d act c w c₀ w₀) (hs : Settled d c w) (hopen : c.closed = false) :
    Setup.Begun d act c w c₀ w₀ := by
  cases h with
  | establish =>
    refine ⟨hs, hopen, ⟨[], Notes.refl w, rfl⟩, ?_, ?_⟩ <;> unfold Failover.establish <;>
      rw [bind_apply] <;> rcases electRoles d c w with ⟨_ | ⟨_ | _, c'⟩, w'⟩
    · rfl
    · rfl
    · rfl
    all_goals exact notes_of_eq rfl
  | reconnect =>
    obtain ⟨_, w₁, hx, rfl, hbefore⟩ := (meets_closeSessions_notes (c := c) (w := w)).exists_value
    have hrun : Failover.reconnect d c w =
        electRoles d { c.withoutSessions with fallbackReads := 0 } (closeSessions c w).2 := by
      unfold Failover.reconnect
      rw [hopen, if_neg Bool.false_ne_true, bind_apply, hx]
    have hclosed := ((upkeep_quiet w).closeSessions c.closed hs.toSound (Quiet.refl w)).value hx
    refine ⟨?_, hopen, by rwa [hx], by rw [hrun], by rw [hrun]; exact Notes.refl _⟩
    rw [hx]
    exact hclosed.2.1.of_shape rfl

/-- In a pass no host is tried more often than it is listed. -/
theorem Round.Fair.length_le {p : Round σ} (h : p.Fair d) :
    (hostsTried (p.events d)).length ≤ d.hosts.length := by
  obtain ⟨left, hperm⟩ := h.once
  calc (hostsTried (p.events d)).length
      ≤ (hostsTried (p.events d) ++ left).length := by simp
    _ = (d.unbound p.election.connection).length := hperm.length_eq
    _ ≤ d.hosts.length := List.length_filter_le _ _

theorem fair_of_setup : ∀ p ∈ roundsForBoth d c w ++ roundsForMaster d c w, p.Fair d := by
  intro p hp
  unfold roundsForBoth roundsForMaster at hp
  rcases List.mem_append.1 hp with hp | hp
  · split at hp
    · exact fair_of_rounds p hp
    · cases hp
  · split at hp
    · split at hp
      · exact fair_of_rounds p hp
      · cases hp
    · cases hp

/-- A connection is set up if and only if it has a master in the end, and the error says that none
was found. It looks for both roles in one pass, and for a master alone only if that one did not bind
any. It tries no host but in these passes, and a replica that it comes by is not lost. -/
theorem setup_needs_master {config : Config} (hd : Deployment.ofConfig config = .ok d)
    {s : Scene σ} (h : Reachable d s) (hopen : s.connection.closed = false)
    (hact : Setup d act s.connection s.world c₀ w₀) :
    Schedule d c₀ w₀ ∧
    hostsTried (s.world.since (act s.connection s.world).2) =
      (roundsForBoth d c₀ w₀ ++ roundsForMaster d c₀ w₀).flatMap (hostsTried <| ·.events d) ∧
    (hostsTried (s.world.since (act s.connection s.world).2)).length ≤
      (1 + config.failover.retriesAllDown) * config.hosts.length ∧
    ((act s.connection s.world).1 = none ↔
      ∃ e ∈ s.world.since (act s.connection s.world).2, e.Stalls) ∧
    ∀ answer c w, act s.connection s.world = (some (answer, c), w) →
      Equipped d c₀ w₀ answer c := by
  obtain ⟨rfl, hretries, hhosts⟩ := Deployment.of_ofConfig hd
  obtain ⟨hs, hopen', ⟨before, hbefore, hnone⟩, hanswer, hafter⟩ :=
    hact.begun h.atRest.settled hopen
  have hschedule := schedule_of_settled hs hopen' hretries
  obtain ⟨events, hnotes, htried⟩ := notes_electRoles d c₀ w₀
  have hall : hostsTried (s.world.since (act s.connection s.world).2) =
      (roundsForBoth d c₀ w₀ ++ roundsForMaster d c₀ w₀).flatMap (hostsTried <| ·.events d) := by
    rw [((hbefore.trans hnotes).trans hafter).since, List.append_nil, hostsTried_append, hnone,
      htried, List.nil_append]
  have hlength : (roundsForBoth d c₀ w₀ ++ roundsForMaster d c₀ w₀).length ≤
      1 + d.config.failover.retriesAllDown := by
    rw [List.length_append, hschedule.one]
    refine Nat.add_le_add ?_ hschedule.bounded
    split <;> decide
  refine ⟨hschedule, hall, ?_, ?_, ?_⟩
  · rw [hall, List.length_flatMap, ← hhosts]
    calc ((roundsForBoth d c₀ w₀ ++ roundsForMaster d c₀ w₀).map fun p =>
          (hostsTried (p.events d)).length).sum
        ≤ (roundsForBoth d c₀ w₀ ++ roundsForMaster d c₀ w₀).length * d.hosts.length := by
          have hrounds := List.sum_le_card_nsmul ((roundsForBoth d c₀ w₀ ++
            roundsForMaster d c₀ w₀).map fun p => (hostsTried (p.events d)).length) d.hosts.length
          simp only [List.forall_mem_map, List.length_map, Nat.nsmul_eq_mul] at hrounds
          exact hrounds fun p hp => (fair_of_setup p hp).length_le
      _ ≤ (1 + d.config.failover.retriesAllDown) * d.hosts.length :=
          Nat.mul_le_mul_right _ hlength
  · exact hact.errands.stalls_iff s.world
  · intro answer c w hrun
    have hfst : (act s.connection s.world).1 = some (answer, c) := by rw [hrun]
    rw [hanswer] at hfst
    exact (meets_electRoles_equipped hs hopen').value (Prod.ext hfst rfl)

end Setup

section Orphaned

/-- The first host is gone, and the second one is a replica. -/
def orphaned : Script where
  hosts :=
    [("db1:3306", { ScriptedHost.plain with reachable := false }),
      ("db2:3306", { ScriptedHost.plain with probe := [ScriptedHost.variableAnswer (some "ON")] })]

/-- The replica is bound in the first pass and stands in for the master, which the passes after
that do not find. -/
theorem replica_outlasts_setup : ∃ (s : Scene Script) (e : Error) (c : Connection)
    (w : World Script), Deployment.ofConfig cloud.config = .ok cloud ∧ Reachable cloud s ∧
      s.connection.closed = false ∧
      establish cloud s.connection s.world = (some (.error e, c), w) ∧
      (roundsForMaster cloud s.connection s.world).length = 3 ∧
      (hostsTried (s.world.since w)).length = 5 ∧ c.replica.isSome = true ∧
      Schedule cloud s.connection s.world ∧
      Equipped cloud s.connection s.world (.error e) c := by
  have hcloud : Deployment.ofConfig cloud.config = .ok cloud := by cbv
  have hx : (establish cloud (.new true)).yields ({ servers := orphaned } : World Script)
      (fun x w => !x.1.isOk && x.2.replica.isSome &&
        (hostsTried (World.since { servers := orphaned } w)).length = 5) = true := by
    decide +kernel
  have hpasses : (roundsForMaster cloud (.new true) ({ servers := orphaned } :
      World Script)).length = 3 := by
    decide +kernel
  obtain ⟨⟨answer, c⟩, w, hrun, hx⟩ := exists_of_yields hx
  obtain ⟨⟨hfails, hreplica⟩, htried⟩ : (answer.isOk = false ∧ c.replica.isSome = true) ∧
      (hostsTried (World.since { servers := orphaned } w)).length = 5 := by
    simpa using hx
  have h := Reachable.start (d := cloud) orphaned 0 {}
  obtain ⟨hschedule, -, -, -, hequipped⟩ :=
    setup_needs_master hcloud h rfl (.establish (.new true) { servers := orphaned })
  rcases answer with e | _
  · exact ⟨_, e, c, w, hcloud, h, rfl, hrun, hpasses, htried, hreplica, hschedule,
      hequipped _ c w hrun⟩
  · cases hfails

end Orphaned

end Failover
