import Failover.Proofs.Occasions
import Failover.Proofs.Sections
import Mathlib.Data.List.Chain

/-!
# What a missing replica costs

Of all elections that want a replica only one may go through several passes: when the replica is
lost while there is no master, both are looked for, and a replica is enough, but a master is not.
While it has found no replica that election is never over, so that it goes on after it has bound a
master (`Forlorn`). All others are bounded to one pass, or look for a master alone and end with it
(`Opening.IsModest`). So with a master bound no pass is begun over hosts that are still to be tried,
except after a pass of that one election which finds a master and no replica
(`master_ends_passes_iff`).
-/

namespace Failover

open Act World

variable {σ : Type}

section Found

/-! ## The roles that are found in a pass -/

def Event.roleFound : Event → Option Role
  | .judged _ (.role r) => some r
  | _ => none

theorem Event.roleFound_eq_some {x : Event} {r : Role} :
    x.roleFound = some r ↔ ∃ n, x = .judged n (.role r) := by
  unfold roleFound
  split <;> simp_all

theorem mem_rolesFound {events : List Event} {r : Role} :
    r ∈ events.filterMap Event.roleFound ↔ ∃ n, .judged n (.role r) ∈ events := by
  simp only [List.mem_filterMap, Event.roleFound_eq_some]
  constructor
  · rintro ⟨_, hx, n, he⟩
    exact ⟨n, he ▸ hx⟩
  · rintro ⟨n, hn⟩
    exact ⟨_, hn, n, rfl⟩

variable {d : Deployment} {e : Election} {t : Try} {ts : List Try} {waiting left : List Host}

theorem Treated.rolesFound {n : SessionId} {v : Verdict} {rest : List Event}
    (h : Treated e n v rest) : rest.filterMap Event.roleFound = [] := by
  refine List.filterMap_eq_nil_iff.2 fun x hx => ?_
  rcases h.binds_or_closes x hx with ⟨slot, hb⟩ | rfl
  · cases hb with
    | selects _ _ => rfl
    | ousts h =>
      obtain ⟨s, -, rfl⟩ := h
      rfl
  · rfl

theorem Try.Fits.rolesFound (h : t.Fits d e) :
    t.events.filterMap Event.roleFound = t.role?.toList := by
  cases h with
  | refused h x => rfl
  | met h q lookup rest _ treated =>
    have hfound : (Try.met h q lookup rest).events.filterMap Event.roleFound =
        [] ++ (Event.roleFound (.judged q.session q.verdict)).toList ++
          rest.filterMap Event.roleFound :=
      Try.filterMap_met (fun _ _ _ => rfl) h q lookup rest
    rw [hfound, treated.rolesFound, List.append_nil]
    rcases q with ⟨n, probe, r | x | _⟩ <;> rfl

theorem Tour.rolesFound (h : Tour d waiting e ts left) :
    (ts.flatMap Try.events).filterMap Event.roleFound = ts.filterMap Try.role? := by
  induction h with
  | stop => rfl
  | @next _ _ _ _ t ts fits _ _ _ ih =>
    rw [List.flatMap_cons, List.filterMap_append, ih, fits.rolesFound, List.filterMap_cons]
    cases t.role? <;> rfl

/-- A role is found by an attempt. -/
theorem Tour.judged_iff (h : Tour d waiting e ts left) {r : Role} :
    (∃ n, .judged n (.role r) ∈ ts.flatMap Try.events) ↔ ∃ t ∈ ts, t.role? = some r := by
  rw [← mem_rolesFound, h.rolesFound, List.mem_filterMap]

end Found

section Forlorn

/-! ## Both are looked for, and a replica is enough -/

/-- The election that looks for both roles and is content with a replica has no replica yet. -/
structure Forlorn (d : Deployment) (e : Election) : Prop where
  goal : e.goal = if e.connection.master.isSome then Goal.both.orReplicaOnly.masterFound
    else Goal.both.orReplicaOnly
  coherent : e.connection.Coherent
  hasReplicas : e.connection.hasReplicas = true
  replica : e.connection.replica = none
  listed : ∀ m, e.connection.master = some m → m.host ∈ d.hosts

variable {d : Deployment} {e e' : Election} {t : Try} {ts : List Try} {waiting left : List Host}

theorem Forlorn.isEnough (h : Forlorn d e) : e.goal.isEnough = false := by
  rw [h.goal]
  split <;> rfl

theorem Forlorn.not_isOver (h : Forlorn d e) : ¬e.IsOver := by
  rintro (henough | ⟨-, hup⟩)
  · cases h.isEnough.symm.trans henough
  · rw [h.coherent.replicaDown, h.hasReplicas, h.replica] at hup
    cases hup

theorem Forlorn.wants_replica (h : Forlorn d e) : e.goal.wants .replica = true := by
  rw [h.goal]
  split <;> rfl

/-- With a replica the election is over. -/
theorem Forlorn.after_replica (h : Forlorn d e) (ht : t.role? = some .replica) :
    (e.after t).IsOver := by
  rcases t with ⟨x, _⟩ | ⟨x, ⟨n, probe, (_ | _) | _ | _⟩, lookup, rest⟩ <;>
    simp only [Try.role?, reduceCtorEq, Option.some.injEq] at ht
  refine .inl ?_
  simp only [Election.after, h.wants_replica, if_true, Goal.found]
  rw [h.goal]
  split <;> rfl

/-- A master is bound if there is none, and the election stays what it is. -/
theorem Forlorn.after (h : Forlorn d e) (listed : t.host ∈ d.hosts)
    (ht : t.role? ≠ some .replica) : Forlorn d (e.after t) ∧
      ((e.after t).connection.master.isSome = true ↔
        e.connection.master.isSome = true ∨ t.role? = some .master) := by
  have idle (x : Option Error) : Forlorn d { e with lastFailure := x } :=
    ⟨h.goal, h.coherent, h.hasReplicas, h.replica, h.listed⟩
  rcases t with ⟨x, _⟩ | ⟨x, ⟨n, probe, (_ | _) | _ | _⟩, lookup, rest⟩
  · exact ⟨idle _, by simp [Election.after, Try.role?]⟩
  · have hgoal := h.goal
    cases hm : e.connection.master with
    | some m =>
      have hwants : e.goal.wants .master = false := by
        rw [hgoal, hm]
        rfl
      simp only [Election.after, hwants, Bool.false_eq_true, if_false]
      exact ⟨h, by simp [hm]⟩
    | none =>
      rw [hm] at hgoal
      have hwants : e.goal.wants .master = true := by
        rw [hgoal]
        rfl
      have hbound : (e.connection.fill .master ⟨x, n⟩).master = some ⟨x, n⟩ :=
        Connection.slot_fill_self _ _ .master
      have hother : (e.connection.fill .master ⟨x, n⟩).replica = e.connection.replica :=
        Connection.slot_fill_of_ne _ _ (q := .replica) (by decide)
      simp only [Election.after, hwants, if_true]
      have hcoherent : (e.connection.fill .master ⟨x, n⟩).Coherent :=
        h.coherent.fill (r := .master) fun hr => by cases hr
      refine ⟨⟨?goal, hcoherent, ?hasReplicas, hother.trans h.replica, ?listed⟩, ?_⟩
      case goal =>
        rw [hbound, hgoal]
        rfl
      case hasReplicas => rw [Connection.hasReplicas_fill, h.hasReplicas]
      case listed =>
        intro m hmaster
        rw [hbound] at hmaster
        cases hmaster
        exact listed
      · simp [hbound, Try.role?]
  · exact absurd rfl ht
  · exact ⟨idle _, by simp [Election.after, Try.role?]⟩
  · exact ⟨idle _, by simp [Election.after, Try.role?]⟩

theorem Forlorn.foldl (h : Forlorn d e) (listed : ∀ t ∈ ts, t.host ∈ d.hosts)
    (hts : ∀ t ∈ ts, t.role? ≠ some .replica) : Forlorn d (ts.foldl Election.after e) ∧
      ((ts.foldl Election.after e).connection.master.isSome = true ↔
        e.connection.master.isSome = true ∨ ∃ t ∈ ts, t.role? = some .master) := by
  induction ts generalizing e with
  | nil => exact ⟨h, by simp⟩
  | cons t ts ih =>
    obtain ⟨hlisted, listed⟩ := List.forall_mem_cons.1 listed
    obtain ⟨ht, hts⟩ := List.forall_mem_cons.1 hts
    obtain ⟨h₁, hmaster₁⟩ := h.after hlisted ht
    obtain ⟨h₂, hmaster₂⟩ := ih h₁ listed hts
    refine ⟨h₂, hmaster₂.trans ?_⟩
    rw [hmaster₁, List.exists_mem_cons_iff, or_assoc]

/-- The first replica that is found ends the tour. -/
theorem Tour.isOver_of_replica (h : Tour d waiting e ts left) (he : Forlorn d e)
    (listed : ∀ t ∈ ts, t.host ∈ d.hosts) (found : ∃ t ∈ ts, t.role? = some .replica) :
    (ts.foldl Election.after e).IsOver := by
  induction h with
  | stop =>
    obtain ⟨t, ht, -⟩ := found
    cases ht
  | @next waiting queue left e t ts fits reordered goesOn rest ih =>
    obtain ⟨hlisted, listed⟩ := List.forall_mem_cons.1 listed
    by_cases ht : t.role? = some .replica
    · have hover := he.after_replica ht
      have hlast : ts = [] := by
        by_contra hne
        exact goesOn hne hover
      subst hlast
      exact hover
    · refine ih (he.after hlisted ht).1 listed ?_
      obtain ⟨t', ht', hrole⟩ := found
      refine ⟨t', List.mem_of_ne_of_mem ?_ ht', hrole⟩
      rintro rfl
      exact ht hrole

/-- While there is no replica, hosts wait exactly if the master is not at the only address. -/
theorem Forlorn.unbound_iff (h : Forlorn d e) (hm : e.connection.master.isSome = true) :
    d.unbound e.connection ≠ [] ↔ ∃ x ∈ d.hosts, ∃ y ∈ d.hosts, x.toEndpoint ≠ y.toEndpoint := by
  obtain ⟨m, hm⟩ := Option.isSome_iff_exists.1 hm
  have free {x : Host} (hx : x.toEndpoint ≠ m.host.toEndpoint) :
      e.connection.isBound x = false := by
    refine Bool.eq_false_iff.2 fun hb => ?_
    obtain ⟨r, s, hs, heq⟩ := h.coherent.isBound_iff.1 hb
    cases r with
    | master =>
      obtain rfl := Option.some.inj (hs.symm.trans hm)
      exact hx heq.symm
    | replica => cases hs.symm.trans h.replica
  constructor
  · intro hne
    obtain ⟨x, hx⟩ := List.exists_mem_of_ne_nil _ hne
    obtain ⟨hmem, hbound⟩ := List.mem_filter.1 hx
    refine ⟨x, hmem, m.host, h.listed m hm, ?_⟩
    intro heq
    have hbound' : e.connection.isBound x = true :=
      h.coherent.isBound_iff.2 ⟨.master, m, hm, heq.symm⟩
    simp [hbound'] at hbound
  · rintro ⟨x, hx, y, hy, hne⟩
    have away : ∃ z ∈ d.hosts, z.toEndpoint ≠ m.host.toEndpoint := by
      by_cases hxm : x.toEndpoint = m.host.toEndpoint
      · exact ⟨y, hy, fun hym => hne (hxm.trans hym.symm)⟩
      · exact ⟨x, hx, hxm⟩
    obtain ⟨z, hz, hzm⟩ := away
    exact List.ne_nil_of_mem (List.mem_filter.2 ⟨hz, by simp [free hzm]⟩)

end Forlorn

section Passes

/-! ## From pass to pass -/

/-- In a row that begins with `q` false and comes to be true, there is a step that makes it so. -/
theorem exists_turn_of_isChain {α : Type} {R : α → α → Prop} {q : α → Prop} {l : List α}
    (h : l.IsChain R) (first : ∀ a ∈ l.head?, ¬q a) {b : α} (hb : b ∈ l) (hq : q b) :
    ∃ a ∈ l.dropLast, ∃ a', R a a' ∧ ¬q a ∧ q a' := by
  induction h with
  | nil => cases hb
  | singleton a => exact absurd hq (List.mem_singleton.1 hb ▸ first a rfl)
  | @cons_cons a a' l hr _ ih =>
    have ha : ¬q a := first a rfl
    by_cases ha' : q a'
    · exact ⟨a, by simp, a', hr, ha, ha'⟩
    · have hb : b ∈ a' :: l := (List.mem_cons.1 hb).resolve_left fun heq => ha (heq ▸ hq)
      obtain ⟨a₁, hmem, hturn⟩ := ih (fun z hz => Option.some.inj hz ▸ ha') hb
      exact ⟨a₁, by simp [hmem], hturn⟩

variable [Cluster σ] {d : Deployment} {first : Bool} {n : Nat} {e e' : Election} {w : World σ}
  {events : List Event} {p : Round σ} {ps : List (Round σ)}
  {y : Option (Election × Bool) × World σ}

theorem Round.unbound_ne_nil_of_judged (ho : p.election.connection.closed = false) {m : SessionId}
    {r : Role} (h : .judged m (.role r) ∈ p.events d) : d.unbound p.election.connection ≠ [] := by
  obtain ⟨ts, left, haccount⟩ := p.exists_account (d := d) ho
  obtain ⟨order, -, -, htour⟩ := haccount.follows
  obtain ⟨t, ht, -⟩ := htour.judged_iff.1 ⟨m, haccount.events ▸ h⟩
  exact List.ne_nil_of_mem (haccount.listed t ht)

/-- A pass that does not end the election finds no replica, and leaves a master bound if there was
one or if it finds one. -/
theorem Forlorn.goes_on (h : Forlorn d p.election) (ho : p.election.connection.closed = false)
    (hrun : (p.run d).1 = some (e', false)) : Forlorn d e' ∧
      (∀ m, .judged m (.role .replica) ∉ p.events d) ∧
      (e'.connection.master.isSome = true ↔ p.election.connection.master.isSome = true ∨
        ∃ m, .judged m (.role .master) ∈ p.events d) := by
  obtain ⟨ts, left, haccount⟩ := p.exists_account (d := d) ho
  obtain ⟨order, -, -, htour⟩ := haccount.follows
  have listed (t : Try) (ht : t ∈ ts) : t.host ∈ d.hosts :=
    List.mem_of_mem_filter (haccount.listed t ht)
  have hend := haccount.result _ hrun
  obtain rfl : e' = ts.foldl Election.after p.election := hend.election
  have hno : ¬∃ t ∈ ts, t.role? = some .replica := by
    intro hfound
    have hover := htour.isOver_of_replica h listed hfound
    obtain ⟨t, ht, -⟩ := hfound
    exact hend.goesOn rfl (List.ne_nil_of_mem ht) hover
  rw [haccount.events, htour.judged_iff]
  obtain ⟨h', hmaster⟩ := h.foldl listed fun t ht hr => hno ⟨t, ht, hr⟩
  refine ⟨h', ?_, hmaster⟩
  intro m hm
  exact hno (htour.judged_iff.1 ⟨m, hm⟩)

/-- A pass that comes to its end without a replica does not end the election. -/
theorem Forlorn.exists_run (h : Forlorn d p.election) (ho : p.election.connection.closed = false)
    (hrun : (p.run d).1.isSome = true) (hno : ∀ m, .judged m (.role .replica) ∉ p.events d) :
    ∃ e', (p.run d).1 = some (e', false) := by
  obtain ⟨ts, left, haccount⟩ := p.exists_account (d := d) ho
  obtain ⟨order, -, -, htour⟩ := haccount.follows
  obtain ⟨⟨e', ended⟩, hx⟩ := Option.isSome_iff_exists.1 hrun
  have hend := haccount.result _ hx
  rw [haccount.events] at hno
  obtain ⟨h', -⟩ := h.foldl (fun t ht => List.mem_of_mem_filter (haccount.listed t ht))
    fun t ht hr => by
      obtain ⟨m, hm⟩ := htour.judged_iff.2 ⟨t, ht, hr⟩
      exact hno m hm
  cases ended with
  | false => exact ⟨e', hx⟩
  | true =>
    have hover : e'.IsOver := hend.isOver rfl
    rw [show e' = _ from hend.election] at hover
    exact absurd hover h'.not_isOver

theorem Campaign.head_election (h : Campaign d true n e w events ps y) :
    ∀ p ∈ ps.head?, p.election = e := by
  intro p hp
  cases h with
  | spent => cases hp
  | last begins =>
    cases hp
    exact begins.first rfl
  | more begins =>
    cases hp
    exact begins.first rfl

/-- Each pass goes on where the one before it ended. -/
theorem Campaign.isChain (h : Campaign d first n e w events ps y) :
    ps.IsChain fun p q => ∃ e' asked, (p.run d).1 = some (e', false) ∧
      Reasked e' asked q.election := by
  induction h with
  | spent => exact .nil
  | enough => exact .nil
  | last => exact .singleton _
  | @more first n e e' w w' asked later p ps y begins wanting result waits rest ih =>
    refine ih.cons fun q hq => ?_
    have hrun : (p.run d).1 = some (e', false) := congrArg Prod.fst result
    cases rest with
    | spent => cases hq
    | enough => cases hq
    | last begins => exact ⟨e', _, hrun, Option.some.inj hq ▸ begins.reasked⟩
    | more begins => exact ⟨e', _, hrun, Option.some.inj hq ▸ begins.reasked⟩

/-- An election does not stop after a pass that leaves hosts to try and is not the last one, unless
asking the replica again is enough. -/
theorem Campaign.stops (h : Campaign d first n e w events ps y) {before : List (Round σ)}
    (hps : ps = before ++ [p]) (room : ps.length < n) (hrun : (p.run d).1 = some (e', false))
    (waits : d.unbound p.election.connection ≠ []) :
    ∃ asked e'', Reasked e' asked e'' ∧ e''.goal.isEnough = true := by
  induction h generalizing before with
  | spent => cases room
  | enough => exact nomatch List.append_ne_nil_of_right_ne_nil before (by simp) hps.symm
  | last _ _ ends =>
    obtain ⟨rfl, ⟨⟩⟩ := List.append_eq_singleton_iff.1 hps.symm |>.resolve_right nofun
    exact absurd (ends e' hrun) waits
  | @more first n e e₁ w w' asked later q ps y begins wanting result waits' rest ih =>
    have room : ps.length < n := Nat.lt_of_succ_lt_succ room
    cases before with
    | nil =>
      obtain ⟨rfl, rfl⟩ := List.cons.inj hps
      cases rest with
      | spent => cases room
      | enough begins enough =>
        rw [result] at hrun
        cases hrun
        exact ⟨_, _, begins.reasked, enough⟩
    | cons q' before =>
      obtain ⟨-, rfl⟩ := List.cons.inj hps
      exact ih rfl room

theorem Forlorn.of_reasked {asked : List Event} (h : Forlorn d e) (hasked : Reasked e asked e') :
    e' = e := by
  cases hasked with
  | idle => rfl
  | stays => rfl
  | promoted s _ _ _ replica _ _ _ => exact nomatch replica.symm.trans h.replica

theorem Campaign.forlorn (h : Campaign d first n e w events ps y) (he : Forlorn d e)
    (ho : e.connection.closed = false) : ∀ p ∈ ps, Forlorn d p.election := by
  have hkept := h.keeps (I := fun e => Forlorn d e ∧ e.connection.closed = false)
    (fun ⟨he, ho⟩ hasked => he.of_reasked hasked ▸ ⟨he, ho⟩)
    (fun {p e'} ⟨he, ho⟩ hrun => by
      obtain ⟨ts, left, haccount⟩ := p.exists_account (d := d) ho
      exact ⟨(he.goes_on ho hrun).1, (haccount.closed hrun).trans ho⟩) ⟨he, ho⟩
  exact fun p hp => (hkept p hp).1

/-- The next pass begins with what the one before it came to. -/
theorem Forlorn.next {q : Round σ} {asked : List Event} (h : Forlorn d p.election)
    (ho : p.election.connection.closed = false) (hrun : (p.run d).1 = some (e', false))
    (hasked : Reasked e' asked q.election) : (∀ m, .judged m (.role .replica) ∉ p.events d) ∧
      (q.election.connection.master.isSome = true ↔
        p.election.connection.master.isSome = true ∨
          ∃ m, .judged m (.role .master) ∈ p.events d) := by
  obtain ⟨he', hnone, hmaster⟩ := h.goes_on ho hrun
  rw [he'.of_reasked hasked]
  exact ⟨hnone, hmaster⟩

/-- A pass that finds a master and no replica is followed by another one, if that is allowed. -/
theorem Campaign.begins_after_master (h : Campaign d first n e w events ps y) (he : Forlorn d e)
    (ho : e.connection.closed = false) (hp : p ∈ ps.take (n - 1))
    (hends : (p.run d).1.isSome = true) (hmaster : ∃ m, .judged m (.role .master) ∈ p.events d)
    (hnone : ∀ m, .judged m (.role .replica) ∉ p.events d) :
    ∃ q ∈ ps.tail, q.election.connection.master.isSome = true := by
  obtain ⟨before, behind, htake⟩ := List.append_of_mem hp
  have hroom : before.length + 1 < n := by
    have hle := List.length_take_le (n - 1) ps
    rw [htake, List.length_append, List.length_cons] at hle
    omega
  obtain ⟨after, rfl⟩ : ∃ after, ps = before ++ p :: after :=
    ⟨behind ++ ps.drop (n - 1), by
      rw [← List.cons_append, ← List.append_assoc, ← htake, List.take_append_drop]⟩
  have hmem : p ∈ before ++ p :: after := List.mem_append_right _ List.mem_cons_self
  have hf := h.forlorn he ho p hmem
  have hopen := h.stays_open ho p hmem
  obtain ⟨e', hrun⟩ := hf.exists_run hopen hends hnone
  cases after with
  | nil =>
    obtain ⟨m, hm⟩ := hmaster
    obtain ⟨he', -⟩ := hf.goes_on hopen hrun
    have hlast : (before ++ [p]).length < n := by simpa using hroom
    obtain ⟨asked, e'', hasked, henough⟩ :=
      h.stops rfl hlast hrun (Round.unbound_ne_nil_of_judged hopen hm)
    rw [he'.of_reasked hasked, he'.isEnough] at henough
    cases henough
  | cons q after =>
    obtain ⟨-, ⟨e₁, asked, hrun₁, hasked⟩, -⟩ := List.isChain_append_cons_cons.1 h.isChain
    refine ⟨q, ?_, (hf.next hopen hrun₁ hasked).2.2 (.inr hmaster)⟩
    cases before <;> simp

/-- A pass begins with a master only if one before it found a master and no replica. -/
theorem Campaign.exists_found (h : Campaign d true n e w events ps y) (he : Forlorn d e)
    (ho : e.connection.closed = false) (vacant : e.connection.master = none) {q : Round σ}
    (hq : q ∈ ps) (hmaster : q.election.connection.master.isSome = true) :
    ∃ p ∈ ps.take (n - 1), (p.run d).1.isSome = true ∧
      (∃ m, .judged m (.role .master) ∈ p.events d) ∧
        ∀ m, .judged m (.role .replica) ∉ p.events d := by
  obtain ⟨p, hp, q', ⟨e', asked, hrun, hasked⟩, hbefore, hafter⟩ :=
    exists_turn_of_isChain (q := fun p => p.election.connection.master.isSome = true) h.isChain
      (fun p hp => by rw [h.head_election p hp, vacant]; exact Bool.false_ne_true) hq hmaster
  have hmem := List.dropLast_subset _ hp
  obtain ⟨hnone, hiff⟩ := (h.forlorn he ho p hmem).next (h.stays_open ho p hmem) hrun hasked
  refine ⟨p, ?_, by rw [hrun]; rfl, (hiff.1 hafter).resolve_left hbefore, hnone⟩
  rw [List.dropLast_eq_take] at hp
  exact List.take_subset_take_left _ (Nat.sub_le_sub_right h.length_le 1) hp

end Passes

section Openings

/-! ## Which elections there are -/

/-- It is bounded to one pass, or looks for a master alone where there is none. -/
def Opening.IsModest (x : Opening σ) : Prop :=
  x.goal.singlePass = true ∨ x.goal = .masterOnly ∧ x.connection.master = none

/-- The replica is lost while there is no master. -/
structure Occasion.Forsakes (o : Occasion) (c : Connection) : Prop where
  lost : ∃ failed inTransaction, o = .recover failed inTransaction ∧
    c.roleOf failed = some .replica
  missing : c.master = none

theorem Act.mem_followed {α β : Type} {act : Act σ α} {w : World σ} {f : α → World σ → List β}
    {b : β} : b ∈ act.followed w f ↔ ∃ a w', act w = (some a, w') ∧ b ∈ f a w' := by
  unfold Act.followed
  rcases act w with ⟨_ | a, w'⟩
  · simp
  · constructor
    · intro h
      exact ⟨a, w', rfl, h⟩
    · rintro ⟨_, _, ⟨⟩, h⟩
      exact h

variable [Cluster σ] {d : Deployment} {c : Connection} {w : World σ} {x : Opening σ}

theorem settled_seekBoth (hs : Settled d c w) :
    (seekBoth d c).Meets w (fun c' w' => Settled d c' w') fun _ => True := by
  unfold seekBoth
  split
  next hrep =>
    have helected := (upkeep_quiet w).elected (g := Goal.both.inOnePass) hs.toSound (Quiet.refl w)
      rfl fun _ => hrep
    exact meets_map (helected.mono (fun _ _ h => h.1) fun _ _ => trivial)
  next => exact meets_pure hs

theorem isModest_of_mem_openingsForRoles (hs : Settled d c w)
    (hx : x ∈ openingsForRoles d c w) : x.IsModest := by
  rcases List.mem_append.1 hx with hx | hx
  · obtain ⟨-, hx⟩ := List.mem_ite_nil_right.1 hx
    rw [List.mem_singleton.1 hx]
    exact .inl rfl
  · obtain ⟨c', w', hrun, hx⟩ := mem_followed.1 hx
    obtain ⟨hdown, hx⟩ := List.mem_ite_nil_right.1 hx
    rw [List.mem_singleton.1 hx]
    exact .inr ⟨rfl, ((settled_seekBoth hs).value hrun).coherent.master_eq_none hdown⟩

omit [Cluster σ] in
theorem isModest_of_mem_openingsForMode {readOnly : Bool} {u : World σ} (hs : Settled d c w)
    (hx : x ∈ openingsForMode { c with readOnly } u) : x.IsModest := by
  unfold openingsForMode at hx
  split at hx
  · obtain ⟨-, hx⟩ := List.mem_ite_nil_right.1 hx
    rw [List.mem_singleton.1 hx]
    exact .inl rfl
  · obtain ⟨hmissing, hx⟩ := List.mem_ite_nil_left.1 hx
    rw [List.mem_singleton.1 hx]
    have havailable : Connection.masterAvailable { c with readOnly } = c.master.isSome :=
      hs.coherent.masterAvailable
    rw [havailable] at hmissing
    exact .inr ⟨rfl, Option.not_isSome_iff_eq_none.1 hmissing⟩

theorem isModest_of_mem_openingsForLostMaster (hs : Settled d c w)
    (hx : x ∈ openingsForLostMaster d c w) : x.IsModest := by
  obtain ⟨_, w₁, habandon, hx⟩ := mem_followed.1 hx
  obtain ⟨y, w₂, hasks, hx⟩ := mem_followed.1 hx
  obtain ⟨hwants, hx⟩ := List.mem_ite_nil_right.1 hx
  have hlost : (abandon c.master "Master" "master").Meets w
      (fun _ w' => w.Onward (sessionIn c.master) w') fun _ => True := meets_abandon hs.orderly
  have hs₁ := hs.toSound.masterLost (hlost.value habandon) w.now
  rw [List.mem_singleton.1 hx]
  rcases y with ⟨c', g'⟩
  cases (meets_recheckReplica hs₁).value hasks with
  | same => exact .inr ⟨rfl, rfl⟩
  | promoted => cases hwants

/-- Every election is a modest one, but for the one that is held when the replica is lost while
there is no master. -/
theorem Occasion.isModest_or {o : Occasion} (hs : Settled d c w) (hx : x ∈ o.openings d c w) :
    x.IsModest ∧ ¬o.Forsakes c ∨ o.Forsakes c ∧ c.closed = false ∧ c.replica.isSome = true ∧
      x.goal = Goal.both.orReplicaOnly ∧ x.connection = c.replicaLost := by
  have other {o : Occasion} (hno : ∀ failed b, o ≠ .recover failed b) : ¬o.Forsakes c := by
    rintro ⟨⟨failed, b, ho, -⟩, -⟩
    exact hno failed b ho
  cases o with
  | establish => exact .inl ⟨isModest_of_mem_openingsForRoles hs hx, other nofun⟩
  | reconnect =>
    refine .inl ⟨?_, other nofun⟩
    obtain ⟨-, hx⟩ := List.mem_ite_nil_left.1 hx
    obtain ⟨c', w', hcloses, hx⟩ := mem_followed.1 hx
    obtain ⟨-, hs', -⟩ := ((upkeep_quiet w).closeSessions c.closed hs.toSound
      (Quiet.refl w)).value hcloses
    have hs₁ : Settled d { c' with fallbackReads := 0 } w' := hs'.of_shape rfl
    exact isModest_of_mem_openingsForRoles hs₁ hx
  | seekMaster | tryMaster =>
    refine .inl ⟨?_, other nofun⟩
    obtain ⟨-, hx⟩ := List.mem_ite_nil_right.1 hx
    rw [List.mem_singleton.1 hx]
    exact .inl rfl
  | switchMode readOnly =>
    refine .inl ⟨?_, other nofun⟩
    obtain ⟨-, hx⟩ := List.mem_ite_nil_left.1 hx
    obtain ⟨held, w', -, hx⟩ := mem_followed.1 hx
    obtain ⟨-, hx⟩ := List.mem_ite_nil_left.1 hx
    exact isModest_of_mem_openingsForMode hs hx
  | recover failed b =>
    obtain ⟨hopen, hx⟩ := List.mem_ite_nil_left.1 hx
    cases hr : c.roleOf failed with
    | none =>
      rw [hr] at hx
      obtain ⟨-, hx⟩ := List.mem_ite_nil_left.1 hx
      refine .inl ⟨isModest_of_mem_openingsForLostMaster hs hx, ?_⟩
      rintro ⟨⟨_, _, ⟨⟩, hlost⟩, -⟩
      cases hr.symm.trans hlost
    | some r =>
      rw [hr] at hx
      cases r with
      | master =>
        refine .inl ⟨isModest_of_mem_openingsForLostMaster hs hx, ?_⟩
        rintro ⟨⟨_, _, ⟨⟩, hlost⟩, -⟩
        cases hr.symm.trans hlost
      | replica =>
        obtain ⟨slot, hslot, -⟩ := Connection.slot_of_roleOf hr
        have hrep : c.replica.isSome = true := Option.isSome_iff_exists.2 ⟨slot, hslot⟩
        obtain ⟨-, w₁, -, hx⟩ := mem_followed.1 hx
        have havailable : c.replicaLost.masterAvailable = c.master.isSome :=
          (hs.coherent.replicaLost hrep).masterAvailable
        rw [List.mem_singleton.1 hx, havailable]
        cases hm : c.master with
        | some m =>
          refine .inl ⟨.inl rfl, fun hf => ?_⟩
          cases hm.symm.trans hf.missing
        | none => exact .inr ⟨⟨⟨failed, b, rfl, hr⟩, hm⟩, by simpa using hopen, hrep, rfl, rfl⟩

end Openings

section Rests

/-! ## What ends with a master -/

variable [Cluster σ] {d : Deployment} {c : Connection} {w : World σ} {x : Opening σ}

/-- Once a master is bound no further pass is begun over hosts to try, and with a master from the
beginning there is one pass at most. -/
structure Opening.Rests (d : Deployment) (x : Opening σ) : Prop where
  begun : x.connection.master.isSome = true → (x.rounds d).length ≤ 1
  bound : ∀ p ∈ (x.rounds d).tail, p.election.connection.master.isSome = true →
    d.unbound p.election.connection = []

/-- The replica is lost while there is no master, and a pass that is not the last one finds a master
and no replica, while another address is left. -/
structure Lingers (d : Deployment) (o : Occasion) (c : Connection) (x : Opening σ) : Prop
    extends o.Forsakes c where
  others : ∃ h ∈ d.hosts, ∃ h' ∈ d.hosts, h.toEndpoint ≠ h'.toEndpoint
  pass : ∃ p ∈ (x.rounds d).take (d.passes - 1), (p.run d).1.isSome = true ∧
    (∃ n, .judged n (.role .master) ∈ p.events d) ∧ ∀ n, .judged n (.role .replica) ∉ p.events d

theorem Election.vacant_after {e : Election} {t : Try}
    (h : e.goal.wantsMaster = true → e.connection.master = none) :
    (e.after t).goal.wantsMaster = true → (e.after t).connection.master = none := by
  rcases t with ⟨h, _⟩ | ⟨h, ⟨n, probe, r | _ | _⟩, lookup, rest⟩ <;> try assumption
  simp only [Election.after]
  split
  · cases r with
    | master =>
      intro hwants
      cases hwants
    | replica =>
      have hother : (e.connection.fill .replica ⟨h, n⟩).master = e.connection.master :=
        Connection.slot_fill_of_ne _ _ (q := .master) (by decide)
      rwa [hother]
  · assumption

/-- A search for a master alone begins no pass when it has one. -/
theorem vacant_of_rounds_masterOnly (vacant : c.master = none) : ∀ p ∈ rounds d c .masterOnly w,
    p.election.connection.master = none := by
  intro p hp
  obtain ⟨hopen, -, w', events, y, hcampaign⟩ := campaign_of_mem hp
  have hkept := hcampaign.keeps (I := fun e => e.connection.closed = false ∧
    (e.goal.wantsMaster = true → e.connection.master = none)) ?_ ?_ ⟨hopen, fun _ => vacant⟩
  · refine (hkept p hp).2 ?_
    rw [goal_of_rounds_masterOnly p hp]
    rfl
  · rintro e e' asked ⟨ho, hvacant⟩ hasked
    refine ⟨hasked.closed.trans ho, ?_⟩
    cases hasked with
    | idle => exact hvacant
    | stays => exact hvacant
    | promoted => exact nofun
  · rintro p e' ⟨ho, hvacant⟩ hrun
    obtain ⟨ts, left, haccount⟩ := p.exists_account (d := d) ho
    refine ⟨(haccount.closed hrun).trans ho, ?_⟩
    rw [show e' = _ from (haccount.result _ hrun).election]
    exact List.foldlRecOn
      (motive := fun e => e.goal.wantsMaster = true → e.connection.master = none) ts
      Election.after hvacant fun _ h _ _ => Election.vacant_after h

theorem Opening.IsModest.rests (h : x.IsModest) : x.Rests d := by
  rcases h with hsingle | ⟨hgoal, hvacant⟩
  · have hlen : (x.rounds d).length ≤ 1 :=
      (length_rounds_le d _ _ _).trans_eq (if_pos hsingle)
    refine ⟨fun _ => hlen, ?_⟩
    intro p hp
    have htail : (x.rounds d).tail = [] := by
      rw [← List.length_eq_zero_iff, List.length_tail]
      exact Nat.sub_eq_zero_of_le hlen
    rw [htail] at hp
    cases hp
  · refine ⟨?_, ?_⟩
    · intro hm
      rw [hvacant] at hm
      cases hm
    · intro p hp hm
      have hmem : p ∈ Failover.rounds d x.connection .masterOnly x.world := by
        rw [← hgoal]
        exact List.mem_of_mem_tail hp
      rw [vacant_of_rounds_masterOnly hvacant p hmem] at hm
      cases hm

/-- The election for both roles that is content with a replica goes on after it has bound a
master. -/
theorem rests_iff_of_forsakes {o : Occasion} (hs : Settled d c w) (forsakes : o.Forsakes c)
    (isOpen : c.closed = false) (hrep : c.replica.isSome = true) (w₁ : World σ) :
    (⟨c.replicaLost, Goal.both.orReplicaOnly, w₁⟩ : Opening σ).Rests d ↔
      ¬Lingers d o c ⟨c.replicaLost, Goal.both.orReplicaOnly, w₁⟩ := by
  have hmissing : c.replicaLost.master = none := forsakes.missing
  have hstart : Forlorn d ⟨c.replicaLost, Goal.both.orReplicaOnly, none⟩ := by
    constructor
    case goal => rw [hmissing, if_neg nofun]
    case coherent => exact hs.coherent.replicaLost hrep
    case hasReplicas => exact hs.coherent.replica hrep
    case replica => rfl
    case listed =>
      intro m hm
      cases hmissing.symm.trans hm
  obtain ⟨events, y, hcampaign, -⟩ := campaign_elect (d := d) (c := c.replicaLost)
    (g := Goal.both.orReplicaOnly) (w := w₁) (by simp [Connection.withoutReplica, isOpen])
  have hforlorn := hcampaign.forlorn hstart isOpen
  constructor
  · intro hrests hlingers
    obtain ⟨p, hp, hends, hmaster, hnone⟩ := hlingers.pass
    obtain ⟨q, hq, hbound⟩ :=
      hcampaign.begins_after_master hstart isOpen hp hends hmaster hnone
    have hq' : q ∈ rounds d c.replicaLost Goal.both.orReplicaOnly w₁ := List.mem_of_mem_tail hq
    exact ((hforlorn q hq').unbound_iff hbound).2 hlingers.others (hrests.bound q hq hbound)
  · intro hno
    constructor
    case begun =>
      intro hm
      rw [hmissing] at hm
      cases hm
    case bound =>
      intro q hq hbound
      by_contra hwaits
      have hq' : q ∈ rounds d c.replicaLost Goal.both.orReplicaOnly w₁ := List.mem_of_mem_tail hq
      exact hno ⟨forsakes, ((hforlorn q hq').unbound_iff hbound).1 hwaits,
        hcampaign.exists_found hstart isOpen hmissing hq' hbound⟩

/-- In every election that a connection holds, whatever it is held for, the master ends the passes:
with one bound, none is begun over hosts to try but the first. There is a single exception: the
replica is lost while there is no master, a pass that is not the last one allowed finds a master and
no replica, and another address is left. -/
theorem master_ends_passes_iff {s : Scene σ} (h : Reachable d s) (o : Occasion) :
    s.world.Visits ((o.openings d s.connection s.world).flatMap (·.hosts d))
      (o.run d s.connection s.world).2 ∧
    ∀ x ∈ o.openings d s.connection s.world, x.Rests d ↔ ¬Lingers d o s.connection x := by
  refine ⟨o.visits_run d s.connection s.world, ?_⟩
  intro x hx
  have hs := h.atRest.settled
  rcases Occasion.isModest_or hs hx with ⟨hmodest, hno⟩ | ⟨hf, hopen, hrep, hgoal, hconnection⟩
  · exact iff_of_true hmodest.rests fun hlingers => hno hlingers.toForsakes
  · obtain ⟨_, _, w₁⟩ := x
    obtain rfl := hconnection
    obtain rfl := hgoal
    exact rests_iff_of_forsakes hs hf hopen hrep w₁

end Rests

section Widowed

/-! ## A pair that loses its master, and then its replica -/

/-- The pair has lost its master, and the replica stands in for it. -/
def widowed : Act Script Connection := do
  let (_, c) ← establish stubborn (.new true)
  change fun w =>
    { w with
      servers := w.servers.setHost "db1:3306" { ScriptedHost.plain with reachable := false } }
  let (_, c) ← (failOver stubborn 1 none).run c
  return c

theorem reachable_widowed {c : Connection} {w : World Script}
    (h : widowed { servers := {} } = (some c, w)) : ∃ tasks, Reachable stubborn ⟨c, w, tasks⟩ := by
  obtain ⟨⟨b, c₁⟩, w₁, h₁, h⟩ := bind_eq_some.1 h
  obtain ⟨_, w₂, h₂, h⟩ := bind_eq_some.1 h
  obtain ⟨⟨report, c₃⟩, w₃, h₃, h⟩ := bind_eq_some.1 h
  cases h
  cases h₂
  have hnew : Reachable stubborn ⟨c₁, w₁, _⟩ :=
    (Reachable.start (d := stubborn) {} 0 {}).alone .establish rfl
      (by rw [Job.run_atomic]; exact h₁)
  exact ⟨_, (hnew.step (.drift _ (w₁.servers.setHost "db1:3306"
    { ScriptedHost.plain with reachable := false }) w₁.now w₁.blacklist)).alone
      (.failOver 1 none) rfl h₃⟩

/-- The servers when the replica is lost as well. -/
def withoutReplica (masterBack : Bool) (servers : Script) : Script :=
  (servers.setHost "db1:3306" { ScriptedHost.plain with reachable := masterBack }).setHost
    "db2:3306" { ScriptedHost.plain with reachable := false }

/-- As long as the master is away as well, both passes are made, and none of them has a master. -/
theorem master_ends_passes_of_widowed : ∃ (s : Scene Script) (x : Opening Script),
    Reachable stubborn s ∧ (Occasion.recover 2 false).Forsakes s.connection ∧
      x ∈ (Occasion.recover 2 false).openings stubborn s.connection s.world ∧
      (x.rounds stubborn).length = 2 ∧ x.Rests stubborn ∧
      ¬Lingers stubborn (.recover 2 false) s.connection x := by
  have hx : widowed.yields { servers := {} } (fun c w => c.roleOf 2 = some .replica &&
      c.master.isNone && ((Occasion.recover 2 false).openings stubborn c
        { w with servers := withoutReplica false w.servers }).any fun x =>
          (x.rounds stubborn).length == 2 && x.connection.master.isNone &&
            (x.rounds stubborn).tail.all (·.election.connection.master.isNone)) = true := by
    decide +kernel
  obtain ⟨c, w, hy, hx⟩ := exists_of_yields hx
  simp only [Bool.and_eq_true, decide_eq_true_eq, Option.isNone_iff_eq_none, List.any_eq_true,
    beq_iff_eq, List.all_eq_true] at hx
  obtain ⟨⟨hrole, hmissing⟩, x, hmem, ⟨hlen, hvacant⟩, hnone⟩ := hx
  obtain ⟨tasks, h⟩ := reachable_widowed hy
  have h' := h.step (.drift _ (withoutReplica false w.servers) w.now w.blacklist)
  have hrests : x.Rests stubborn := by
    constructor
    case begun =>
      intro hm
      rw [hvacant] at hm
      cases hm
    case bound =>
      intro p hp hm
      rw [hnone p hp] at hm
      cases hm
  exact ⟨_, x, h', ⟨⟨2, false, rfl, hrole⟩, hmissing⟩, hmem, hlen, hrests,
    ((master_ends_passes_iff h' (.recover 2 false)).2 x hmem).1 hrests⟩

/-- When the master is back, it is bound in the first pass, and the second one tries the replica
again. -/
theorem replica_sought_beside_master : ¬∀ (s : Scene Script) (o : Occasion) (x : Opening Script),
    Reachable stubborn s → x ∈ o.openings stubborn s.connection s.world → x.Rests stubborn := by
  intro claim
  have hx : widowed.yields { servers := {} } (fun c w => ((Occasion.recover 2 false).openings
      stubborn c { w with servers := withoutReplica true w.servers }).any fun x =>
        (x.rounds stubborn).tail.any fun p => p.election.connection.master.isSome &&
          !(stubborn.unbound p.election.connection).isEmpty) = true := by
    decide +kernel
  obtain ⟨c, w, hy, hx⟩ := exists_of_yields hx
  obtain ⟨x, hmem, hx⟩ := List.any_eq_true.1 hx
  obtain ⟨p, hp, hx⟩ := List.any_eq_true.1 hx
  obtain ⟨hmaster, hwaits⟩ := Bool.and_eq_true_iff.1 hx
  obtain ⟨tasks, h⟩ := reachable_widowed hy
  have h' := h.step (.drift _ (withoutReplica true w.servers) w.now w.blacklist)
  have hnone := (claim _ _ x h' hmem).bound p hp hmaster
  rw [hnone] at hwaits
  cases hwaits

end Widowed

end Failover
