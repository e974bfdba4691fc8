import Failover.Proofs.Account
import Failover.Proofs.Finding
import Failover.Proofs.Patience

/-!
# The passes of an election

A pass puts the hosts without a live session in order and tries them one after another; what was
tried and what is left of the order follows from the accounts of the attempts (`Tour`). An election
goes through its passes in a row (`rounds`), and asks the live replica again in between. What holds
of all of them is proved along `Campaign`, which has a case for each way in which the loop of the
passes goes on or ends. What holds of each attempt and of each question to the live replica, and
from one to the next, holds of all passes in a row (`Tracing`).
-/

namespace Failover

open Act World

variable {σ : Type}

/-- The hosts without a live session. -/
def Deployment.unbound (d : Deployment) (c : Connection) : List Host :=
  d.hosts.filter fun h => !c.isBound h

/-- Whether hosts are tried in the order in which they are configured. -/
def Deployment.IsSequential (d : Deployment) : Prop :=
  ¬(d.config.topology = .multiMaster ∧ d.config.failover.loadBalance = .random)

/-- Whether the host is excluded at the instant `now`. -/
def Deployment.excludes (d : Deployment) (table : Blacklist) (now : Nat) (h : Host) : Bool :=
  (table.lookup h.toEndpoint now d.config.failover.blacklistTimeout).1

/-- The hosts without a live session in configured order, first those that are not excluded at the
instant `now` and then those that are. -/
def Deployment.preference (d : Deployment) (c : Connection) (table : Blacklist) (now : Nat) :
    List Host :=
  (d.unbound c).filter (fun h => !d.excludes table now h) ++
    (d.unbound c).filter (d.excludes table now ·)

section Order

variable {d : Deployment}

/-- To look one host up does not change what comes of looking up another one, for a failure that is
dropped is too old to exclude a host. -/
theorem Blacklist.lookup_lookup (b : Blacklist) (e x : Endpoint) (now timeout : Nat) :
    ((b.lookup e now timeout).2.lookup x now timeout).1 = (b.lookup x now timeout).1 := by
  rw [Bool.eq_iff_iff, fst_lookup_iff, fst_lookup_iff]
  refine exists_congr fun f => and_congr_left fun hfresh => get?_lookup_iff.trans ?_
  exact and_iff_left fun hdropped => Nat.not_le.2 hfresh hdropped.2

/-- The blacklist is pruned while the hosts are split, but each host is where it belongs by the
table as it was before. -/
theorem meets_splitExcluded_order {timeout : Nat} {table : Blacklist} {stuck : World σ → Prop} :
    ∀ {hosts : List Host} {w : World σ}, (∀ e, (w.blacklist.lookup e w.now timeout).1 =
      (table.lookup e w.now timeout).1) → (splitExcluded timeout hosts).Meets w
        (fun x _ => x = (hosts.filter fun h => !(table.lookup h.toEndpoint w.now timeout).1,
          hosts.filter fun h => (table.lookup h.toEndpoint w.now timeout).1)) stuck
  | [], _, _ => meets_pure rfl
  | h :: rest, w, hw => by
    unfold splitExcluded
    refine meets_bind (m := fun excluded w' =>
      excluded = (table.lookup h.toEndpoint w.now timeout).1 ∧ w'.now = w.now ∧
        ∀ e, (w'.blacklist.lookup e w.now timeout).1 = (table.lookup e w.now timeout).1)
      ⟨hw h.toEndpoint, rfl, fun e => (Blacklist.lookup_lookup _ _ _ _ _).trans (hw e)⟩ ?_
    rintro _ w₁ ⟨rfl, hnow, hw₁⟩
    rw [← hnow] at hw₁ ⊢
    refine meets_bind (meets_splitExcluded_order hw₁) ?_
    rintro _ w₂ rfl
    refine meets_pure ?_
    cases hx : (table.lookup h.toEndpoint w₁.now timeout).1 <;> simp [hx]

/-- The order in which a pass tries the hosts. -/
theorem meets_passOrder_preference [Cluster σ] {c : Connection} {w : World σ}
    {stuck : World σ → Prop} : (passOrder d c).Meets w (fun hs w' => w.Still w' ∧
      hs.Perm (d.unbound c) ∧ (d.IsSequential → hs = d.preference c w.blacklist w.now)) stuck := by
  have hperm : (passOrder d c).Meets w (fun hs w' => w.Still w' ∧ hs.Perm (d.unbound c)) stuck :=
    meets_passOrder fun _ _ hp hs => ⟨hs, hp⟩
  have horder : (passOrder d c).Meets w (fun hs _ => d.IsSequential →
      hs = d.preference c w.blacklist w.now) stuck := by
    unfold passOrder
    refine meets_bind (meets_splitExcluded_order fun _ => rfl) ?_
    rintro _ w₁ rfl
    refine meets_bind (m := fun hs _ => d.IsSequential →
      hs = (d.unbound c).filter fun h => !d.excludes w.blacklist w.now h) ?_ fun hs w₂ hhs =>
        meets_pure fun hseq => by rw [hhs hseq]; rfl
    by_cases hseq : d.IsSequential
    · unfold Topology.order
      rw [if_neg hseq]
      exact meets_pure fun _ => rfl
    · exact meets_order fun _ _ _ _ h => absurd h hseq
  refine (hperm.and horder).mono ?_ fun _ h => h.1
  rintro hs w' ⟨⟨hstill, hp⟩, hpreferred⟩
  exact ⟨hstill, hp, hpreferred⟩

end Order

/-! ## One pass -/

/-- The attempts that are made when the hosts wait in an order, and the hosts that are left when
no more is made: each time the first is tried, unless the election is over. -/
inductive Tour (d : Deployment) : List Host → Election → List Try → List Host → Prop
  | stop (waiting : List Host) (e : Election) : Tour d waiting e [] waiting
  | next {waiting queue left : List Host} {e : Election} {t : Try} {ts : List Try}
      (fits : t.Fits d e) (reordered : Reordered (t.hint d) waiting queue)
      (goesOn : ts ≠ [] → ¬(e.after t).IsOver) (rest : Tour d queue (e.after t) ts left) :
      Tour d (t.host :: waiting) e (t :: ts) left

/-- The host that a session is to be opened to. -/
def Event.attempted : Event → Option Host
  | .refused h _ | .opened h _ => some h
  | _ => none

/-- The hosts that were tried. -/
def hostsTried (events : List Event) : List Host := events.filterMap Event.attempted

section Tour

variable {d : Deployment} {waiting left : List Host} {e : Election} {t : Try} {ts : List Try}

theorem hostsTried_append (xs ys : List Event) :
    hostsTried (xs ++ ys) = hostsTried xs ++ hostsTried ys := List.filterMap_append

theorem Event.Ousts.attempted {slot : Option Slot} {x : Event} (h : x.Ousts slot) :
    x.attempted = none := by
  obtain ⟨s, -, rfl⟩ := h
  rfl

theorem Event.Binds.attempted {n : SessionId} {slot : Option Slot} {x : Event}
    (h : x.Binds n slot) : x.attempted = none := by
  cases h with
  | selects _ _ => rfl
  | ousts h => exact h.attempted

theorem Treated.binds_or_closes {n : SessionId} {v : Verdict} {rest : List Event}
    (h : Treated e n v rest) : ∀ x ∈ rest, (∃ slot, x.Binds n slot) ∨ x = .closed n := by
  intro x hx
  by_cases hr : ∃ r, v = .role r ∧ e.goal.wants r = true
  · obtain ⟨r, hv, hw⟩ := hr
    exact .inl ⟨_, h.bound r hv hw x hx⟩
  · have hno : ∀ r, v = .role r → e.goal.wants r = false := fun r hv =>
      Bool.eq_false_iff.2 fun hw => hr ⟨r, hv, hw⟩
    rw [h.hungUp hno] at hx
    exact .inr (List.mem_singleton.1 hx)

theorem Treated.hostsTried {n : SessionId} {v : Verdict} {rest : List Event}
    (h : Treated e n v rest) : hostsTried rest = [] := by
  refine List.filterMap_eq_nil_iff.2 fun x hx => ?_
  rcases h.binds_or_closes x hx with ⟨slot, hb⟩ | rfl
  · exact hb.attempted
  · rfl

theorem Question.hostsTried_events (q : Question) : hostsTried q.events = [] :=
  q.filterMap_events fun _ _ _ => rfl

/-- An attempt tries its host, and no other one. -/
theorem Try.Fits.hostsTried (h : t.Fits d e) : hostsTried t.events = [t.host] := by
  cases h with
  | refused h x => rfl
  | met h q lookup rest _ treated =>
    have htried : Failover.hostsTried (Try.met h q lookup rest).events =
        [h] ++ [] ++ Failover.hostsTried rest :=
      Try.filterMap_met (fun _ _ _ => rfl) h q lookup rest
    rw [htried, treated.hostsTried]
    rfl

theorem Tour.hostsTried (h : Tour d waiting e ts left) :
    hostsTried (ts.flatMap Try.events) = ts.map Try.host := by
  induction h with
  | stop waiting e => rfl
  | next fits _ _ _ ih =>
    rw [List.flatMap_cons, hostsTried_append, ih, fits.hostsTried]
    rfl

/-- Each host that waits is tried once or left. -/
theorem Tour.perm (h : Tour d waiting e ts left) : (ts.map Try.host ++ left).Perm waiting := by
  induction h with
  | stop waiting e => exact .refl _
  | next _ reordered _ _ ih => exact (ih.trans reordered.perm).cons _

/-- When no host is named, the order is kept. -/
theorem Tour.eq_of_unnamed (h : Tour d waiting e ts left) (hnone : ∀ t ∈ ts, t.hint d = none) :
    ts.map Try.host ++ left = waiting := by
  induction h with
  | stop waiting e => rfl
  | @next waiting queue left e t ts fits reordered goesOn rest ih =>
    rw [hnone t List.mem_cons_self] at reordered
    rw [← reordered.eq_of_none, ← ih fun x hx => hnone x (List.mem_cons_of_mem _ hx)]
    rfl

/-- What a sweep that comes to an end says after these attempts: how the election stands, and
whether it is over, or else no host is left. -/
structure Concludes (e : Election) (ts : List Try) (left : List Host) (x : Election × Bool) :
    Prop where
  election : x.1 = ts.foldl Election.after e
  isOver : x.2 = true → x.1.IsOver
  done : x.2 = false → left = []
  goesOn : x.2 = false → ts ≠ [] → ¬x.1.IsOver

/-- The hosts that wait are tried in a row. -/
theorem meets_sweep_tour [Cluster σ] : ∀ {waiting : List Host} {e : Election} {w : World σ},
    e.connection.closed = false → (sweep d waiting e).Meets w
      (fun x w' => ∃ ts left, Tour d waiting e ts left ∧ w.Notes (ts.flatMap Try.events) w' ∧
        Concludes e ts left x)
      fun w' => ∃ ts left, Tour d waiting e ts left ∧ w.Notes (ts.flatMap Try.events) w'
  | [], e, w, _ => by
    unfold sweep
    exact meets_pure ⟨[], [], .stop [] e, Notes.refl w, rfl, nofun,
      fun _ => rfl, fun _ h => absurd rfl h⟩
  | h :: waiting, e, w, ho => by
    unfold sweep
    refine meets_bind ((meets_tryHost_account ho).mono (fun _ _ hx => hx) ?_) ?_
    · rintro w' ⟨t, rfl, hfits, hnotes⟩
      refine ⟨[t], _, .next hfits (reordered_bringForward _ _) (fun h => absurd rfl h)
        (.stop _ _), ?_⟩
      simpa using hnotes
    rintro ⟨e', named⟩ w₁ ⟨t, rfl, hfits, h₁, heq, hnext⟩
    dsimp only at heq hnext ⊢
    subst heq
    have single (w₂ : World σ) (h₂ : w₁.Still w₂) (hover : (e.after t).IsOver) :
        ∃ ts left, Tour d (t.host :: waiting) e ts left ∧ w.Notes (ts.flatMap Try.events) w₂ ∧
          Concludes e ts left (e.after t, true) := by
      refine ⟨[t], _, .next hfits hnext (fun h => absurd rfl h) (.stop _ _), ?_, rfl,
        fun _ => hover, nofun, nofun⟩
      simpa using h₁.still h₂
    split_ifs with henough hup
    · exact meets_bind_harmless (harmless_log _ _) fun _ w₂ h₂ =>
        meets_pure (single w₂ h₂ (.inl henough))
    · exact meets_pure (single w₁ (Still.refl w₁) (.inr (by simpa using hup)))
    have hgoes : ¬(e.after t).IsOver := by
      rintro (h | h)
      · exact henough h
      · exact hup (by simpa using h)
    refine (meets_sweep_tour (by rwa [Election.closed_after])).mono ?_ ?_
    · rintro x w₂ ⟨ts, left, htour, h₂, hend⟩
      refine ⟨t :: ts, left, .next hfits hnext (fun _ => hgoes) htour, h₁.trans h₂, hend.election,
        hend.isOver, hend.done, ?_⟩
      intro hf _
      cases ts with
      | nil => exact hend.election ▸ hgoes
      | cons t' ts => exact hend.goesOn hf (List.cons_ne_nil _ _)
    · rintro w₂ ⟨ts, left, htour, h₂⟩
      exact ⟨t :: ts, left, .next hfits hnext (fun _ => hgoes) htour, h₁.trans h₂⟩
termination_by waiting => waiting.length
decreasing_by simp [length_bringForward]

end Tour

/-! ## The passes in a row -/

section Rounds

variable [Cluster σ] (d : Deployment)

/-- One pass: the hosts are put in order and tried. -/
def onePass (e : Election) : Act σ (Election × Bool) := do
  sweep d (← passOrder d e.connection) e

/-- How the election stands when a pass begins. Before every pass but the first the live replica is
asked again. -/
def reconsider (first : Bool) (e : Election) : Act σ Election := do
  let (c, g) ← if first then pure (e.connection, e.goal) else recheckReplica d e.connection e.goal
  return { e with connection := c, goal := g }

theorem passes_succ (first : Bool) (n : Nat) (e : Election) :
    (passes d first (n + 1) e : Act σ (Election × Bool)) = (do
      let e ← reconsider d first e
      if !first && e.goal.isEnough then return (e, true)
      let (e', ended) ← onePass d e
      if ended then return (e', true)
      if (d.unbound e.connection).isEmpty then return (e', false)
      passes d false n e') := by
  have pass (e : Election) : (do
      let waiting ← passOrder d e.connection
      if waiting.isEmpty then return (e, false)
      let (e', ended) ← sweep d waiting e
      if ended then return (e', true)
      passes d false n e' : Act σ (Election × Bool)) = (do
        let (e', ended) ← onePass d e
        if ended then return (e', true)
        if (d.unbound e.connection).isEmpty then return (e', false)
        passes d false n e') := by
    funext w
    have horder : (passOrder d e.connection).Meets w (fun hs _ => hs.Perm (d.unbound e.connection))
        fun _ => False := meets_passOrder_preference.mono (fun _ _ h => h.2.1) fun _ h => h
    obtain ⟨hs, w', hx, hperm⟩ := horder.exists_value
    simp only [onePass, bind_apply, hx]
    have hempty : (d.unbound e.connection).isEmpty = hs.isEmpty := by
      rw [Bool.eq_iff_iff, List.isEmpty_iff, List.isEmpty_iff]
      constructor
      · intro h
        rw [h] at hperm
        exact hperm.eq_nil
      · intro h
        rw [h] at hperm
        exact hperm.symm.eq_nil
    rw [hempty]
    cases hs with
    | nil =>
      unfold sweep
      rfl
    | cons h hs => rfl
  conv_lhs => unfold passes
  unfold reconsider
  cases first with
  | true =>
    simp only [if_true, pure_bind, Bool.not_true, Bool.false_and, Bool.false_eq_true, if_false]
    exact pass e
  | false =>
    simp only [Bool.false_eq_true, if_false, bind_assoc, pure_bind, Bool.not_false, Bool.true_and]
    congr 1
    funext x
    split
    · rfl
    · exact pass ⟨x.1, x.2, e.lastFailure⟩

/-- A pass of an election: how the election stood when it began, and in which world. -/
structure Round (σ : Type) where
  election : Election
  world : World σ

/-- The passes that an election still goes through, when it may go through so many. -/
def roundsFrom (first : Bool) : Nat → Election → World σ → List (Round σ)
  | 0, _, _ => []
  | n + 1, e, w =>
    match reconsider d first e w with
    | (some e, w) =>
      if !first && e.goal.isEnough then []
      else ⟨e, w⟩ ::
        match onePass d e w with
        | (some (e', false), w') =>
          if (d.unbound e.connection).isEmpty then [] else roundsFrom false n e' w'
        | _ => []
    | (none, _) => []

/-- The passes that an election goes through. -/
def rounds (c : Connection) (g : Goal) (w : World σ) : List (Round σ) :=
  if c.closed || !c.masterDown && !c.replicaDown then []
  else roundsFrom d true (g.passesIn d) ⟨c, g, none⟩
    (log .debug s!"Starting election with {g.text}" w).2

namespace Round

variable (p : Round σ)

/-- What the pass comes to. -/
def run : Option (Election × Bool) × World σ := onePass d p.election p.world

/-- What is done to the servers in the pass. -/
def events : List Event := p.world.since (p.run d).2

end Round

/-- How a pass begins, with what is done before it. -/
structure Begins (first : Bool) (e : Election) (w : World σ) (asked : List Event) (p : Round σ) :
    Prop where
  notes : w.Notes asked p.world
  reasked : Reasked e asked p.election
  first : first = true → p.election = e

/-- The rounds of an election, with all that is done and what it comes to. There is a case for each
way in which it goes on or ends: no round is left, or the live replica was found to be enough, or
the last round ends it. -/
inductive Campaign : Bool → Nat → Election → World σ → List Event → List (Round σ) →
    Option (Election × Bool) × World σ → Prop
  | spent (first : Bool) (e : Election) (w : World σ) :
      Campaign first 0 e w [] [] (some (e, false), w)
  | enough {n : Nat} {e : Election} {w : World σ} {asked : List Event} {p : Round σ}
      (begins : Begins false e w asked p) (enough : p.election.goal.isEnough = true) :
      Campaign false (n + 1) e w asked [] (some (p.election, true), p.world)
  | last {first : Bool} {n : Nat} {e : Election} {w : World σ} {asked : List Event} {p : Round σ}
      (begins : Begins first e w asked p)
      (wanting : first = false → p.election.goal.isEnough = false)
      (ends : ∀ e', (p.run d).1 = some (e', false) → d.unbound p.election.connection = []) :
      Campaign first (n + 1) e w (asked ++ p.events d) [p] (p.run d)
  | more {first : Bool} {n : Nat} {e e' : Election} {w w' : World σ} {asked later : List Event}
      {p : Round σ} {ps : List (Round σ)} {y : Option (Election × Bool) × World σ}
      (begins : Begins first e w asked p)
      (wanting : first = false → p.election.goal.isEnough = false)
      (result : p.run d = (some (e', false), w')) (waits : d.unbound p.election.connection ≠ [])
      (rest : Campaign false n e' w' later ps y) :
      Campaign first (n + 1) e w (asked ++ p.events d ++ later) (p :: ps) y

variable {d}

/-- A pass always begins. -/
theorem exists_begins (first : Bool) (e : Election) (w : World σ) : ∃ asked p,
    reconsider d first e w = (some p.election, p.world) ∧ Begins first e w asked p := by
  unfold reconsider
  cases first with
  | true => exact ⟨[], ⟨e, w⟩, rfl, Notes.refl w, .idle, fun _ => rfl⟩
  | false =>
    obtain ⟨x, w', hx, asked, hnotes, hasked⟩ :=
      (meets_recheckReplica_account (d := d) (e := e) (w := w)).exists_value
    refine ⟨asked, ⟨{ e with connection := x.1, goal := x.2 }, w'⟩, ?_, hnotes, hasked,
      nofun⟩
    simp only [Bool.false_eq_true, if_false, bind_apply, hx]
    rfl

/-- The rounds are those of the loop. -/
theorem campaign_roundsFrom (n : Nat) (first : Bool) (e : Election) (w : World σ) :
    ∃ events, Campaign d first n e w events (roundsFrom d first n e w) (passes d first n e w) := by
  induction n generalizing first e w with
  | zero => exact ⟨[], .spent first e w⟩
  | succ n ih =>
    obtain ⟨asked, p, hasks, hbegins⟩ := exists_begins (d := d) first e w
    rw [passes_succ, bind_apply, roundsFrom, hasks]
    dsimp only
    by_cases henough : first = false ∧ p.election.goal.isEnough = true
    · obtain ⟨rfl, henough⟩ := henough
      refine ⟨asked, ?_⟩
      simpa [henough, Act.pure_apply] using Campaign.enough (n := n) hbegins henough
    have hwanting : first = false → p.election.goal.isEnough = false := fun hf =>
      Bool.eq_false_iff.2 fun h => henough ⟨hf, h⟩
    have hno : (!first && p.election.goal.isEnough) = false := by
      cases first with
      | true => rfl
      | false => simp [hwanting rfl]
    simp only [hno, Bool.false_eq_true, if_false, bind_apply]
    have last (hends : ∀ e', (p.run d).1 = some (e', false) →
        d.unbound p.election.connection = []) :
        Campaign d first (n + 1) e w (asked ++ p.events d) [p] (p.run d) :=
      .last hbegins hwanting hends
    rcases hrun : onePass d p.election p.world with ⟨_ | ⟨e', _ | _⟩, w'⟩
    all_goals
      have hrun' : p.run d = _ := hrun
      rw [hrun'] at last
    · refine ⟨_, last ?_⟩
      rintro _ ⟨⟩
    · by_cases hall : d.unbound p.election.connection = []
      · refine ⟨asked ++ p.events d, ?_⟩
        simpa [hall, Act.pure_apply] using last fun _ _ => hall
      · obtain ⟨later, hrest⟩ := ih false e' w'
        refine ⟨asked ++ p.events d ++ later, ?_⟩
        simpa [hall] using Campaign.more hbegins hwanting hrun' hall hrest
    · refine ⟨_, last ?_⟩
      rintro _ ⟨⟩

/-- The attempts of a round follow the order in which the hosts were put. -/
def Round.Follows (d : Deployment) (p : Round σ) (ts : List Try) (left : List Host) : Prop :=
  ∃ order, order.Perm (d.unbound p.election.connection) ∧
    (d.IsSequential → order =
      d.preference p.election.connection p.world.blacklist p.world.now) ∧
    Tour d order p.election ts left

/-- The account of a round: the attempts that were made in it, and the hosts that were left. It
ends unless a selection of the database stays unanswered. -/
structure Round.Account (d : Deployment) (p : Round σ) (ts : List Try) (left : List Host) :
    Prop where
  follows : p.Follows d ts left
  notes : p.world.Notes (ts.flatMap Try.events) (p.run d).2
  result : ∀ x, (p.run d).1 = some x → Concludes p.election ts left x
  stalls : (p.run d).1 = none ↔ ∃ x ∈ p.events d, x.Stalls

theorem Round.Account.events {p : Round σ} {ts : List Try} {left : List Host}
    (h : p.Account d ts left) : p.events d = ts.flatMap Try.events := h.notes.since

theorem errands_onePass (e : Election) : (onePass d e : Act σ _).Errands d :=
  .bind ((inert_passOrder d _).chores d).errands fun _ => (staged_sweep d _ _).errands

/-- What is made of errands comes to an end unless a selection of the database stays unanswered. -/
theorem Act.Errands.stalls_iff {α : Type} {x : Act σ α} (hx : x.Errands d) (w : World σ) :
    (x w).1 = none ↔ ∃ e ∈ w.since (x w).2, e.Stalls := by
  have hpatient := hx.patient (fun _ _ h => h.patient) w
  have stalls {stalled : Prop} {w' : World σ} (h : w.Elapses d stalled w') :
      (∃ e ∈ w.since w', e.Stalls) ↔ stalled := by
    obtain ⟨new, hj, hs, -⟩ := h
    rw [since_eq hj, ← hs]
    simp
  rcases hrun : x w with ⟨_ | a, w'⟩
  · simpa using (stalls (hpatient.stalled hrun)).2 trivial
  · simpa using (stalls (hpatient.value hrun)).1

theorem Round.exists_account {p : Round σ} (ho : p.election.connection.closed = false) :
    ∃ ts left, p.Account d ts left := by
  have hpass : (onePass d p.election).Meets p.world
      (fun x w' => ∃ ts left, p.Follows d ts left ∧ p.world.Notes (ts.flatMap Try.events) w' ∧
        Concludes p.election ts left x)
      fun w' => ∃ ts left, p.Follows d ts left ∧ p.world.Notes (ts.flatMap Try.events) w' := by
    unfold onePass
    refine meets_bind meets_passOrder_preference ?_
    rintro order w₁ ⟨h₁, hperm, hseq⟩
    refine (meets_sweep_tour ho).mono ?_ ?_
    · rintro x w' ⟨ts, left, htour, hnotes, hend⟩
      exact ⟨ts, left, ⟨order, hperm, hseq, htour⟩, h₁.andNotes hnotes, hend⟩
    · rintro w' ⟨ts, left, htour, hnotes⟩
      exact ⟨ts, left, ⟨order, hperm, hseq, htour⟩, h₁.andNotes hnotes⟩
  have hstalls := (errands_onePass (d := d) p.election).stalls_iff p.world
  rcases hrun : p.run d with ⟨_ | x, w'⟩
  · obtain ⟨ts, left, hfollows, hnotes⟩ := hpass.stalled hrun
    exact ⟨ts, left, hfollows, by rwa [hrun], by simp [hrun], hstalls⟩
  · obtain ⟨ts, left, hfollows, hnotes, hend⟩ := hpass.value hrun
    exact ⟨ts, left, hfollows, by rwa [hrun], by simpa [hrun] using hend, hstalls⟩

/-- Only hosts without a live session are tried. -/
theorem Round.Account.listed {p : Round σ} {ts : List Try} {left : List Host}
    (h : p.Account d ts left) : ∀ t ∈ ts, t.host ∈ d.unbound p.election.connection := by
  obtain ⟨order, hperm, -, htour⟩ := h.follows
  intro t ht
  refine (htour.perm.trans hperm).mem_iff.1 (List.mem_append_left _ ?_)
  exact List.mem_map_of_mem ht

/-! ## What holds of all rounds -/

theorem Reasked.hostsTried {e e' : Election} {asked : List Event} (h : Reasked e asked e') :
    hostsTried asked = [] := by
  cases h with
  | idle => rfl
  | stays s q _ _ _ => exact q.hostsTried_events
  | promoted s q rest _ _ _ _ ousts =>
    rw [hostsTried_append, q.hostsTried_events]
    exact List.filterMap_eq_nil_iff.2 fun x hx => (ousts x hx).attempted

theorem Reasked.closed {e e' : Election} {asked : List Event} (h : Reasked e asked e') :
    e'.connection.closed = e.connection.closed := by
  cases h with
  | idle => rfl
  | stays => rfl
  | promoted => exact Connection.closed_promote _ _

theorem Round.Account.closed {p : Round σ} {ts : List Try} {left : List Host} {x : Election × Bool}
    (h : p.Account d ts left) (hx : (p.run d).1 = some x) :
    x.1.connection.closed = p.election.connection.closed := by
  have hfold (ts : List Try) (e : Election) :
      (ts.foldl Election.after e).connection.closed = e.connection.closed := by
    induction ts generalizing e with
    | nil => rfl
    | cons t ts ih => exact (ih _).trans (e.closed_after t)
  rw [(h.result x hx).election, hfold]

/-- All that is done when a round is over. -/
theorem Begins.after {first : Bool} {e : Election} {w : World σ} {asked : List Event} {p : Round σ}
    (h : Begins first e w asked p) (ho : e.connection.closed = false) :
    w.Notes (asked ++ p.events d) (p.run d).2 ∧
      ∀ x, (p.run d).1 = some x → x.1.connection.closed = false := by
  have ho' := h.reasked.closed.trans ho
  obtain ⟨ts, left, haccount⟩ := p.exists_account (d := d) ho'
  refine ⟨?_, fun x hx => (haccount.closed hx).trans ho'⟩
  rw [haccount.events]
  exact h.notes.trans haccount.notes

namespace Campaign

variable {first : Bool} {n : Nat} {e : Election} {w : World σ} {events : List Event}
  {ps : List (Round σ)} {y : Option (Election × Bool) × World σ}

theorem length_le (h : Campaign d first n e w events ps y) : ps.length ≤ n := by
  induction h with
  | spent => exact le_rfl
  | enough => exact Nat.zero_le _
  | last => exact Nat.succ_le_succ (Nat.zero_le _)
  | more _ _ _ _ _ ih => exact Nat.succ_le_succ ih

/-- What is kept when the live replica is asked again, and in each round that does not end the
election, holds when each round begins. -/
theorem keeps {I : Election → Prop} (h : Campaign d first n e w events ps y)
    (asks : ∀ {e e' : Election} {asked : List Event}, I e → Reasked e asked e' → I e')
    (runs : ∀ {p : Round σ} {e' : Election}, I p.election → (p.run d).1 = some (e', false) → I e')
    (hi : I e) : ∀ p ∈ ps, I p.election := by
  induction h with
  | spent => simp
  | enough => simp
  | last begins _ _ => simpa using asks hi begins.reasked
  | more begins _ result _ _ ih =>
    have hp := asks hi begins.reasked
    exact List.forall_mem_cons.2 ⟨hp, ih (runs hp (by rw [result]))⟩

theorem stays_open (h : Campaign d first n e w events ps y) (ho : e.connection.closed = false) :
    ∀ p ∈ ps, p.election.connection.closed = false := by
  refine h.keeps (I := fun e => e.connection.closed = false)
    (fun ho hasked => hasked.closed.trans ho) ?_ ho
  intro p e' ho hrun
  obtain ⟨ts, left, haccount⟩ := Round.exists_account (d := d) ho
  exact (haccount.closed hrun).trans ho

/-- The events are those that were noted, and no host is tried but in a round. -/
theorem notes (h : Campaign d first n e w events ps y) (ho : e.connection.closed = false) :
    w.Notes events y.2 ∧ hostsTried events = ps.flatMap (hostsTried <| ·.events d) := by
  induction h with
  | spent => exact ⟨Notes.refl _, rfl⟩
  | enough begins _ => exact ⟨begins.notes, begins.reasked.hostsTried⟩
  | last begins _ _ =>
    refine ⟨(begins.after ho).1, ?_⟩
    simp [hostsTried_append, begins.reasked.hostsTried]
  | more begins _ result _ _ ih =>
    obtain ⟨hnotes, hclosed⟩ := begins.after (d := d) ho
    obtain ⟨hlater, htried⟩ := ih (hclosed _ (congrArg Prod.fst result))
    rw [result] at hnotes
    refine ⟨hnotes.trans hlater, ?_⟩
    simp [hostsTried_append, begins.reasked.hostsTried, htried]

/-- What is done up to the end of a round stands in front of all that is done. -/
theorem leads_up (h : Campaign d first n e w events ps y) (ho : e.connection.closed = false) :
    ∀ p ∈ ps, ∃ before, w.Notes before p.world ∧ before ++ p.events d <+: events := by
  induction h with
  | spent => simp
  | enough => simp
  | @last _ _ _ _ asked p begins _ _ =>
    intro q hq
    obtain rfl := List.mem_singleton.1 hq
    exact ⟨asked, begins.notes, List.prefix_rfl⟩
  | @more _ _ _ _ _ _ asked later p ps y begins _ result _ _ ih =>
    obtain ⟨hnotes, hclosed⟩ := begins.after (d := d) ho
    rw [result] at hnotes
    intro q hq
    rcases List.mem_cons.1 hq with rfl | hq
    · exact ⟨asked, begins.notes, List.prefix_append _ _⟩
    · obtain ⟨before, hbefore, hfront⟩ := ih (hclosed _ (congrArg Prod.fst result)) q hq
      refine ⟨asked ++ p.events d ++ before, hnotes.trans hbefore, ?_⟩
      rw [List.append_assoc _ before]
      exact (List.prefix_append_right_inj _).2 hfront

/-- A round that does not go on is the last one, and the election comes to what it comes to. -/
theorem eq_run (h : Campaign d first n e w events ps y) {p : Round σ} (hp : p ∈ ps)
    (hends : ∀ e', (p.run d).1 ≠ some (e', false)) : y = p.run d := by
  induction h with
  | spent => cases hp
  | enough => cases hp
  | last => rw [List.mem_singleton.1 hp]
  | more _ _ result _ _ ih =>
    rcases List.mem_cons.1 hp with rfl | hp
    · exact absurd (congrArg Prod.fst result) (hends _)
    · exact ih hp

end Campaign

/-- What ties how an election stands to how it stood, by what was done meanwhile, and holds of each
attempt, of each time that the live replica is asked again, and from one to the next. -/
structure Tracing (d : Deployment) (R : Election → List Event → Election → Prop) : Prop where
  refl : ∀ e, R e [] e
  trans : ∀ {e e' e'' : Election} {xs ys : List Event}, R e xs e' → R e' ys e'' →
    R e (xs ++ ys) e''
  tries : ∀ {e : Election} {t : Try}, t.Fits d e → R e t.events (e.after t)
  asks : ∀ {e e' : Election} {asked : List Event}, Reasked e asked e' → R e asked e'

namespace Tracing

variable {R : Election → List Event → Election → Prop}

omit [Cluster σ] in
theorem tour (hR : Tracing d R) {waiting left : List Host} {e : Election} {ts : List Try}
    (h : Tour d waiting e ts left) : R e (ts.flatMap Try.events) (ts.foldl Election.after e) := by
  induction h with
  | stop waiting e => exact hR.refl e
  | next fits _ _ _ ih =>
    rw [List.flatMap_cons]
    exact hR.trans (hR.tries fits) ih

theorem round (hR : Tracing d R) {first : Bool} {e : Election} {w : World σ} {asked : List Event}
    {p : Round σ} (begins : Begins first e w asked p) (ho : e.connection.closed = false)
    {x : Election × Bool} (hx : (p.run d).1 = some x) : R e (asked ++ p.events d) x.1 := by
  obtain ⟨ts, left, haccount⟩ := p.exists_account (d := d) (begins.reasked.closed.trans ho)
  obtain ⟨order, -, -, htour⟩ := haccount.follows
  refine hR.trans (hR.asks begins.reasked) ?_
  rw [haccount.events, (haccount.result x hx).election]
  exact hR.tour htour

/-- What holds of all that an election is made of holds of its rounds in a row. -/
theorem campaign (hR : Tracing d R) {first : Bool} {n : Nat} {e : Election} {w : World σ}
    {events : List Event} {ps : List (Round σ)} {y : Option (Election × Bool) × World σ}
    (h : Campaign d first n e w events ps y) (ho : e.connection.closed = false) :
    ∀ x, y.1 = some x → R e events x.1 := by
  induction h with
  | spent first e w =>
    rintro _ ⟨⟩
    exact hR.refl e
  | enough begins _ =>
    rintro _ ⟨⟩
    exact hR.asks begins.reasked
  | last begins _ _ => exact fun x hx => hR.round begins ho hx
  | more begins _ result _ _ ih =>
    have hrun := congrArg Prod.fst result
    have ho' := (begins.after (d := d) ho).2 _ hrun
    intro x hx
    exact hR.trans (hR.round begins ho hrun) (ih ho' x hx)

end Tracing

/-- An election on a closed connection, or with a master and a replica, goes through none. -/
theorem elect_of_idle {c : Connection} {g : Goal} {w : World σ}
    (h : (c.closed || !c.masterDown && !c.replicaDown) = true) :
    rounds d c g w = [] ∧ w.Notes [] (elect d c g w).2 ∧
      (elect d c g w).1 =
        some (if c.closed then .exhausted .connectionClosed else .found, c, g) := by
  refine ⟨by rw [rounds, h]; rfl, ?_⟩
  unfold elect
  cases hc : c.closed with
  | true => exact ⟨notes_of_eq rfl, rfl⟩
  | false =>
    rw [hc, Bool.false_or] at h
    rw [h]
    exact ⟨notes_of_eq rfl, rfl⟩

/-- What an election answers when its passes come to this. -/
def Election.answer (e : Election) (found : Bool) : Outcome × Connection × Goal :=
  (if found then .found
    else .exhausted (.exhausted (if e.goal.wantsMaster then .master else .replica) e.lastFailure),
    e.connection, e.goal)

omit [Cluster σ] in
theorem exists_of_answer {y : Option (Election × Bool)} {x : Outcome × Connection × Goal}
    (h : (y.map fun z => z.1.answer z.2) = some x) : ∃ e, y = some (e, x.1.isFound) ∧
      x.2 = (e.connection, e.goal) ∧ ∀ report, x.1 = .exhausted report → report =
        .exhausted (if e.goal.wantsMaster then .master else .replica) e.lastFailure := by
  obtain ⟨⟨e, found⟩, rfl, rfl⟩ := Option.map_eq_some_iff.1 h
  cases found with
  | true =>
    refine ⟨e, rfl, rfl, ?_⟩
    intro report hreport
    cases hreport
  | false =>
    refine ⟨e, rfl, rfl, ?_⟩
    intro report hreport
    exact (Outcome.exhausted.inj hreport).symm

/-- Any other election goes through its rounds. -/
theorem campaign_elect {c : Connection} {g : Goal} {w : World σ}
    (h : (c.closed || !c.masterDown && !c.replicaDown) = false) :
    ∃ events y, Campaign d true (g.passesIn d) ⟨c, g, none⟩
      (log .debug s!"Starting election with {g.text}" w).2 events (rounds d c g w) y ∧
      w.Notes events (elect d c g w).2 ∧
      (elect d c g w).1 = y.1.map fun z => z.1.answer z.2 := by
  obtain ⟨hopen, hup⟩ : c.closed = false ∧ (!c.masterDown && !c.replicaDown) = false := by
    simpa only [Bool.or_eq_false_iff] using h
  obtain ⟨events, hcampaign⟩ := campaign_roundsFrom (d := d) (g.passesIn d) true ⟨c, g, none⟩
    (log .debug s!"Starting election with {g.text}" w).2
  have hnotes := (hcampaign.notes hopen).1
  have hlog : w.Notes [] (log .debug s!"Starting election with {g.text}" w).2 := notes_of_eq rfl
  have helect : elect d c g w = (do
      let (e, found) ← passes d true (g.passesIn d) ⟨c, g, none⟩
      if found then return (.found, e.connection, e.goal)
      let role : Role := if e.goal.wantsMaster then .master else .replica
      log .warn s!"No active connection found for {role.name}"
      return (.exhausted (.exhausted role e.lastFailure), e.connection, e.goal) : Act σ _)
      (log .debug s!"Starting election with {g.text}" w).2 := by
    unfold elect
    rw [bind_apply, hopen, hup]
    rfl
  refine ⟨events, _, by rwa [rounds, h, if_neg Bool.false_ne_true], ?_⟩
  rw [helect, bind_apply]
  rcases hrun : passes d true (g.passesIn d) ⟨c, g, none⟩
    (log .debug s!"Starting election with {g.text}" w).2 with ⟨_ | ⟨e, _ | _⟩, w'⟩ <;>
    rw [hrun] at hnotes
  · exact ⟨hlog.trans hnotes, rfl⟩
  · obtain ⟨new, hj, hnew⟩ := hlog.trans hnotes
    exact ⟨⟨new, hj, hnew⟩, rfl⟩
  · exact ⟨hlog.trans hnotes, rfl⟩

/-- The rounds of an election that goes through any. -/
theorem campaign_of_mem {c : Connection} {g : Goal} {w : World σ} {p : Round σ}
    (hp : p ∈ rounds d c g w) : c.closed = false ∧ (!c.masterDown && !c.replicaDown) = false ∧
      ∃ w' events y, Campaign d true (g.passesIn d) ⟨c, g, none⟩ w' events (rounds d c g w) y := by
  cases h : c.closed || !c.masterDown && !c.replicaDown with
  | true =>
    rw [(elect_of_idle (d := d) (g := g) (w := w) h).1] at hp
    cases hp
  | false =>
    obtain ⟨events, y, hcampaign, -⟩ := campaign_elect (d := d) (g := g) (w := w) h
    obtain ⟨hopen, hdown⟩ := Bool.or_eq_false_iff.1 h
    exact ⟨hopen, hdown, _, events, y, hcampaign⟩

theorem length_rounds_le (d : Deployment) (c : Connection) (g : Goal) (w : World σ) :
    (rounds d c g w).length ≤ g.passesIn d := by
  cases hrounds : rounds d c g w with
  | nil => exact Nat.zero_le _
  | cons p ps =>
    obtain ⟨-, -, w', events, y, hcampaign⟩ :=
      campaign_of_mem (show p ∈ rounds d c g w by rw [hrounds]; exact List.mem_cons_self)
    rw [hrounds] at hcampaign
    exact hcampaign.length_le

/-- An election tries no host but in its rounds. -/
theorem notes_elect (d : Deployment) (c : Connection) (g : Goal) (w : World σ) :
    ∃ events, w.Notes events (elect d c g w).2 ∧
      hostsTried events = (rounds d c g w).flatMap (hostsTried <| ·.events d) := by
  cases h : c.closed || !c.masterDown && !c.replicaDown with
  | true =>
    obtain ⟨hnone, hnotes, -⟩ := elect_of_idle (d := d) (g := g) (w := w) h
    exact ⟨[], hnotes, by rw [hnone]; rfl⟩
  | false =>
    obtain ⟨events, y, hcampaign, hnotes, -⟩ := campaign_elect (d := d) (g := g) (w := w) h
    exact ⟨events, hnotes, (hcampaign.notes (Bool.or_eq_false_iff.1 h).1).2⟩

/-- An election that is bounded to one pass. -/
theorem elect_inOnePass {c : Connection} {g : Goal} {w : World σ} (hg : g.singlePass = true)
    (h : (c.closed || !c.masterDown && !c.replicaDown) = false) :
    ∃ p : Round σ, rounds d c g w = [p] ∧ p.election = ⟨c, g, none⟩ ∧
      ∀ x, (elect d c g w).1 = some x → ∃ e ended, (p.run d).1 = some (e, ended) ∧
        x.2 = (e.connection, e.goal) := by
  have hone : g.passesIn d = 1 := if_pos hg
  obtain ⟨events, y, hcampaign, -, hends⟩ := campaign_elect (d := d) (g := g) (w := w) h
  rw [hone] at hcampaign
  generalize hps : rounds d c g w = ps at hcampaign
  cases hcampaign with
  | @last _ _ _ _ asked p begins _ _ =>
    refine ⟨p, rfl, begins.first rfl, ?_⟩
    intro x hx
    obtain ⟨e, hy, heq, -⟩ := exists_of_answer (hends.symm.trans hx)
    exact ⟨e, _, hy, heq⟩
  | @more _ _ _ e' _ w' asked later p ps y begins _ result _ rest =>
    cases rest
    refine ⟨p, rfl, begins.first rfl, ?_⟩
    intro x hx
    obtain ⟨e, hy, heq, -⟩ := exists_of_answer (hends.symm.trans hx)
    exact ⟨e, _, by rw [result]; exact hy, heq⟩

end Rounds

end Failover
