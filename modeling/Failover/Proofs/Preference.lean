import Failover.Proofs.Tour

/-!
# Which hosts an election tries first

In each pass the hosts without a live session are tried in the order in which they are configured,
those last that are excluded when the pass begins. Nothing but the answer to a lookup changes this
order: the host that it names, if it still waits, is next (`passes_follow_preference`). So where no
host is named, a pass for the master alone binds the first host that is found to be one, and
tries none after it.
-/

namespace Failover

open Act World

variable {σ : Type}

/-- A master is wanted, and nothing else will do. -/
structure Goal.ForMasterAlone (g : Goal) : Prop where
  wanted : g.wantsMaster = true
  only : g.wantsReplica = false
  plain : g.replicaSuffices = false

section Tour

variable {d : Deployment} {e : Election} {t : Try} {ts : List Try} {waiting left : List Host}

theorem Goal.ForMasterAlone.isOver_iff (hg : e.goal.ForMasterAlone) :
    e.IsOver ↔ e.connection.masterDown = false ∧ e.connection.replicaDown = false := by
  unfold Election.IsOver
  rw [Goal.isEnough_eq hg.only hg.plain, hg.wanted]
  simp

/-- A host that is no master changes neither the slots nor the goal. -/
theorem Election.after_of_not_master (hg : e.goal.ForMasterAlone)
    (ht : t.role? ≠ some .master) :
    (e.after t).connection = e.connection ∧ (e.after t).goal = e.goal := by
  rcases t with ⟨h, x⟩ | ⟨h, ⟨n, probe, (_ | _) | x | _⟩, lookup, rest⟩
  · exact ⟨rfl, rfl⟩
  · exact absurd rfl ht
  · have hno : e.goal.wants .replica = false := hg.only
    simp [after, hno]
  · exact ⟨rfl, rfl⟩
  · exact ⟨rfl, rfl⟩

/-- A host that is a master is bound, and the election is over. -/
theorem Election.after_of_master (hg : e.goal.ForMasterAlone) (ht : t.role? = some .master) :
    ∃ n, .opened t.host n ∈ t.events ∧
      (e.after t).connection.master = some ⟨t.host, n⟩ ∧ (e.after t).IsOver := by
  rcases t with ⟨h, x⟩ | ⟨h, ⟨n, probe, (_ | _) | x | _⟩, lookup, rest⟩ <;>
    simp only [Try.role?, reduceCtorEq, Option.some.injEq] at ht
  have hwants : e.goal.wants .master = true := hg.wanted
  refine ⟨n, List.mem_cons_self, ?_, .inl ?_⟩
  · simp only [after, hwants, if_true]
    exact e.connection.slot_fill_self ⟨h, n⟩ .master
  · simp only [after, hwants, if_true]
    have henough : e.goal.masterFound.isEnough = !e.goal.masterFound.wantsMaster :=
      Goal.isEnough_eq hg.only hg.plain
    exact henough

/-- Only binding a session may stay unanswered. -/
theorem Try.Fits.not_stalls (h : t.Fits d e) (hg : e.goal.ForMasterAlone)
    (ht : t.role? ≠ some .master) : ∀ x ∈ t.events, ¬x.Stalls := by
  rintro _ hx ⟨n, database, rfl⟩
  cases h with
  | refused h x => simp [events] at hx
  | met h q lookup rest _ treated =>
    have hno : ∀ r, q.verdict = .role r → e.goal.wants r = false := by
      rintro (_ | _) hr
      · rcases q with ⟨_, _, _⟩
        cases hr
        exact absurd rfl ht
      · exact hg.only
    rw [events, treated.hungUp hno] at hx
    rcases q with ⟨_, _ | _, _⟩ <;> rcases lookup with _ | _ <;> simp [Question.events] at hx

/-- A search for the master alone ends with the first host that is one, which is bound. -/
theorem Tour.master_cases (h : Tour d waiting e ts left) (hg : e.goal.ForMasterAlone) :
    (∃ before t n, ts = before ++ [t] ∧ (∀ t' ∈ before, t'.role? ≠ some .master) ∧
      t.role? = some .master ∧ .opened t.host n ∈ t.events ∧
      (ts.foldl Election.after e).connection.master = some ⟨t.host, n⟩ ∧
      (ts.foldl Election.after e).IsOver) ∨
    ((∀ t ∈ ts, t.role? ≠ some .master) ∧
      (ts.foldl Election.after e).connection = e.connection ∧
      (ts.foldl Election.after e).goal = e.goal ∧ ∀ x ∈ ts.flatMap Try.events, ¬x.Stalls) := by
  induction h with
  | stop waiting e => exact .inr ⟨by simp, rfl, rfl, by simp⟩
  | @next waiting queue left e t ts fits reordered goesOn rest ih =>
    by_cases ht : t.role? = some .master
    · obtain ⟨n, hopened, hmaster, hover⟩ := e.after_of_master hg ht
      have hlast : ts = [] := by
        by_contra hne
        exact goesOn hne hover
      subst hlast
      exact .inl ⟨[], t, n, rfl, by simp, ht, hopened, hmaster, hover⟩
    obtain ⟨hc, hgoal⟩ := e.after_of_not_master hg ht
    have hg' : (e.after t).goal.ForMasterAlone := by rwa [hgoal]
    rcases ih hg' with ⟨before, t', n, rfl, hbefore, hmaster⟩ | ⟨hnone, hc', hgoal', hends⟩
    · exact .inl ⟨t :: before, t', n, rfl, List.forall_mem_cons.2 ⟨ht, hbefore⟩, hmaster⟩
    · right
      refine ⟨List.forall_mem_cons.2 ⟨ht, hnone⟩, hc'.trans hc, hgoal'.trans hgoal, ?_⟩
      intro x hx
      rw [List.flatMap_cons, List.mem_append] at hx
      rcases hx with hx | hx
      · exact fits.not_stalls hg ht x hx
      · exact hends x hx

end Tour

section Rounds

variable [Cluster σ] {d : Deployment} {c : Connection} {g : Goal} {w : World σ}

/-- No pass begins while the wanted master and a replica are both there. -/
theorem Campaign.not_both {first : Bool} {n : Nat} {e : Election} {events : List Event}
    {ps : List (Round σ)} {y : Option (Election × Bool) × World σ}
    (h : Campaign d first n e w events ps y) (ho : e.connection.closed = false)
    (hup : ¬(e.connection.masterDown = false ∧ e.connection.replicaDown = false)) :
    ∀ p ∈ ps, p.election.goal.wantsMaster = true →
      ¬(p.election.connection.masterDown = false ∧ p.election.connection.replicaDown = false) := by
  have hkept := h.keeps (I := fun e => e.connection.closed = false ∧ (e.goal.wantsMaster = true →
    ¬(e.connection.masterDown = false ∧ e.connection.replicaDown = false))) ?_ ?_
    ⟨ho, fun _ => hup⟩
  · exact fun p hp => (hkept p hp).2
  · rintro e e' asked ⟨ho, hup⟩ hasked
    refine ⟨hasked.closed.trans ho, ?_⟩
    cases hasked with
    | idle => exact hup
    | stays => exact hup
    | promoted => exact nofun
  · rintro p e' ⟨ho, hup⟩ hrun
    obtain ⟨ts, left, haccount⟩ := p.exists_account (d := d) ho
    refine ⟨(haccount.closed hrun).trans ho, ?_⟩
    have hend := haccount.result _ hrun
    rcases ts with _ | ⟨t, ts⟩
    · rwa [show e' = p.election from hend.election]
    · exact fun _ hboth => hend.goesOn rfl (List.cons_ne_nil _ _) (.inr hboth)

/-- An election does nothing but what it does in its passes and in asking the live replica again,
and one that ends in a pass comes to what this pass comes to. -/
theorem elect_of_round {p : Round σ} (hp : p ∈ rounds d c g w) :
    w.since p.world ++ p.events d <+: w.since (elect d c g w).2 ∧
      ((∀ e', (p.run d).1 ≠ some (e', false)) →
        (elect d c g w).1 = (p.run d).1.map fun z => z.1.answer z.2) := by
  obtain ⟨hopen, hdown, -⟩ := campaign_of_mem hp
  obtain ⟨events, y, hcampaign, hnotes, hanswer⟩ :=
    campaign_elect (d := d) (c := c) (g := g) (w := w) (by rw [hopen, hdown]; rfl)
  obtain ⟨before, hbefore, hfront⟩ := hcampaign.leads_up hopen p hp
  have hlog : w.Notes [] (log .debug s!"Starting election with {g.text}" w).2 := notes_of_eq rfl
  have hworld : w.Notes before p.world := hlog.trans hbefore
  refine ⟨by rwa [hworld.since, hnotes.since], ?_⟩
  intro hends
  rw [hanswer, hcampaign.eq_run hp hends]

/-- Where hosts are tried in sequence, an election tries those of its passes, and each pass tries
them in the order of preference by the blacklist at the instant when it begins, but for the hosts
that replicas name. Where none is named, a pass for the master alone tries the hosts up to the first
that is found to be a master and binds that one, and the election is over with it, unless the
selection of the database on it stays unanswered. If there is none, it tries all and binds none. -/
theorem passes_follow_preference (hseq : d.IsSequential) :
    hostsTried (w.since (elect d c g w).2) =
      (rounds d c g w).flatMap (hostsTried <| ·.events d) ∧
    ∀ p ∈ rounds d c g w, w.since p.world ++ p.events d <+: w.since (elect d c g w).2 ∧
    ∃ ts left, p.events d = ts.flatMap Try.events ∧
    Tour d (d.preference p.election.connection p.world.blacklist p.world.now) p.election ts left ∧
    (p.election.goal.ForMasterAlone → (∀ t ∈ ts, t.hint d = none) →
      d.preference p.election.connection p.world.blacklist p.world.now =
        hostsTried (p.events d) ++ left ∧
      ((∃ before t n, ts = before ++ [t] ∧ (∀ t' ∈ before, t'.role? ≠ some .master) ∧
          t.role? = some .master ∧ .opened t.host n ∈ t.events ∧
          (∀ x, (p.run d).1 = some x →
            x.2 = true ∧ x.1.connection.master = some ⟨t.host, n⟩) ∧
          ((p.run d).1 = none ↔ ∃ x ∈ p.events d, x.Stalls) ∧
          (∀ x, (elect d c g w).1 = some x →
            x.1 = .found ∧ x.2.1.master = some ⟨t.host, n⟩) ∧
          ((elect d c g w).1 = none ↔ ∃ x ∈ p.events d, x.Stalls)) ∨
        (left = [] ∧ (∀ t ∈ ts, t.role? ≠ some .master) ∧
          ∃ x, (p.run d).1 = some (x, false) ∧ x.connection = p.election.connection))) := by
  have htried : hostsTried (w.since (elect d c g w).2) =
      (rounds d c g w).flatMap (hostsTried <| ·.events d) := by
    obtain ⟨events, hnotes, hevents⟩ := notes_elect d c g w
    rw [hnotes.since, hevents]
  refine ⟨htried, ?_⟩
  intro p hp
  obtain ⟨hfront, hanswer⟩ := elect_of_round hp
  obtain ⟨hopen, hdown, w', events, y, hcampaign⟩ := campaign_of_mem hp
  obtain ⟨ts, left, haccount⟩ := p.exists_account (d := d) (hcampaign.stays_open hopen p hp)
  obtain ⟨order, -, horder, htour⟩ := haccount.follows
  obtain rfl := horder hseq
  refine ⟨hfront, ts, left, haccount.events, htour, ?_⟩
  intro hg hnone
  refine ⟨by rw [haccount.events, htour.hostsTried, htour.eq_of_unnamed hnone], ?_⟩
  rcases htour.master_cases hg with
    ⟨before, t, n, hts, hbefore, ht, hopened, hmaster, hover⟩ | ⟨hno, hc, hgoal, hends⟩
  · left
    have hbound : ∀ x, (p.run d).1 = some x →
        x.2 = true ∧ x.1.connection.master = some ⟨t.host, n⟩ := by
      intro x hx
      have hend := haccount.result x hx
      rw [← hend.election] at hmaster hover
      refine ⟨?_, hmaster⟩
      by_contra hf
      refine hend.goesOn (by simpa using hf) ?_ hover
      simp [hts]
    have hlast : ∀ e', (p.run d).1 ≠ some (e', false) := by
      intro e' hx
      cases (hbound _ hx).1
    have helect := hanswer hlast
    refine ⟨before, t, n, hts, hbefore, ht, hopened, hbound, haccount.stalls, ?_, ?_⟩
    · intro x hx
      obtain ⟨⟨e', ended⟩, hrun, rfl⟩ := Option.map_eq_some_iff.1 (helect.symm.trans hx)
      obtain ⟨rfl, hm⟩ : ended = true ∧ e'.connection.master = some ⟨t.host, n⟩ := hbound _ hrun
      exact ⟨rfl, hm⟩
    · rw [helect, Option.map_eq_none_iff, haccount.stalls]
  · right
    have hboth := hcampaign.not_both hopen (by simpa using hdown) p hp hg.wanted
    rcases hrun : (p.run d).1 with _ | x
    · obtain ⟨x, hx, hstalls⟩ := haccount.stalls.1 hrun
      rw [haccount.events] at hx
      exact absurd hstalls (hends x hx)
    have hend := haccount.result x hrun
    have hx : x.2 = false := by
      by_contra htrue
      have hover := hend.isOver (by simpa using htrue)
      have hg' : (ts.foldl Election.after p.election).goal.ForMasterAlone := by rwa [hgoal]
      rw [hend.election, hg'.isOver_iff, hc] at hover
      exact hboth hover
    rw [← hend.election] at hc
    refine ⟨hend.done hx, hno, x.1, ?_, hc⟩
    rw [← hx]

end Rounds

section Named

/-- A cluster of three hosts. -/
def fleet : Deployment where
  config :=
    { topology := .aurora
      hosts := ["db1", "db2", "db3"]
      failover := { retriesAllDown := 1 } }
  hosts := [⟨⟨"db1", 3306⟩, none⟩, ⟨⟨"db2", 3306⟩, none⟩, ⟨⟨"db3", 3306⟩, none⟩]

/-- The first host is a replica and names the last one as the master. The others take writes. -/
def naming : Script where
  hosts := [("db1:3306", { ScriptedHost.plain with
    probe := [ScriptedHost.variableAnswer (some "ON")]
    lookup := [ScriptedHost.serverIdAnswer (some "db3")] })]

/-- The host that is named is tried before the one that stands in front of it. -/
theorem named_host_is_next : ∃ (w : World Script) (p : Round Script) (ts : List Try)
    (left : List Host), fleet.IsSequential ∧ p ∈ rounds fleet (.new true) .both w ∧
      hostsTried (w.since (elect fleet (.new true) .both w).2) =
        (rounds fleet (.new true) .both w).flatMap (hostsTried <| ·.events fleet) ∧
      (hostsTried (w.since (elect fleet (.new true) .both w).2)).map (·.name) = ["db1", "db3"] ∧
      w.since p.world ++ p.events fleet <+: w.since (elect fleet (.new true) .both w).2 ∧
      fleet.preference p.election.connection p.world.blacklist p.world.now = fleet.hosts ∧
      (hostsTried (p.events fleet)).map (·.name) = ["db1", "db3"] ∧
      p.events fleet = ts.flatMap Try.events ∧
      Tour fleet fleet.hosts p.election ts left := by
  let w : World Script := { servers := naming }
  let p : Round Script := ⟨⟨.new true, .both, none⟩,
    (log .debug s!"Starting election with {Goal.both.text}" w).2⟩
  have hseq : fleet.IsSequential := fun h => nomatch h.1
  have hmem : p ∈ rounds fleet (.new true) .both w := List.mem_cons_self
  have hnames : (hostsTried (w.since (elect fleet (.new true) .both w).2)).map (·.name) =
      ["db1", "db3"] := by
    decide +kernel
  have horder : fleet.preference p.election.connection p.world.blacklist p.world.now =
      fleet.hosts := by
    decide +kernel
  have htried : (hostsTried (p.events fleet)).map (·.name) = ["db1", "db3"] := by
    decide +kernel
  obtain ⟨htie, hrounds⟩ := passes_follow_preference (d := fleet) (c := .new true) (g := .both)
    (w := w) hseq
  obtain ⟨hfront, ts, left, hevents, htour, -⟩ := hrounds p hmem
  rw [horder] at htour
  exact ⟨w, p, ts, left, hseq, hmem, htie, hnames, hfront, horder, htried, hevents, htour⟩

end Named

end Failover
