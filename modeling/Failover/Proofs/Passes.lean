import Failover.Offline
import Failover.Proofs.Tour

/-!
# How many attempts an election makes

In each pass every host without a live session has its turn once, unless the election is over
before (`Round.Fair`). An election gives up only when its passes are used up or when one begins
without a host to try, and then it has tried all of them in each pass (`passes_of_election`). If
all are refused, this gives the number of attempts, except where there is enough to begin with: then
the first attempt is the last one.
-/

namespace Failover

open Act World

variable {σ : Type}

def Event.openedSession : Event → Option SessionId
  | .opened _ n => some n
  | _ => none

def Event.judgedSession : Event → Option SessionId
  | .judged n _ => some n
  | _ => none

/-- The sessions that were opened, in a row. -/
def sessionsOpened (events : List Event) : List SessionId := events.filterMap Event.openedSession

/-- The sessions that were asked for their role, in a row. -/
def sessionsJudged (events : List Event) : List SessionId := events.filterMap Event.judgedSession

/-- What a pass does with the hosts without a live session. -/
structure Round.Fair [Cluster σ] (d : Deployment) (p : Round σ) : Prop where
  /-- Each entry is tried at most once, and no other host is. -/
  once : ∃ left, (hostsTried (p.events d) ++ left).Perm (d.unbound p.election.connection)
  /-- If the pass runs to its end, each entry is tried. -/
  all : ∀ e', (p.run d).1 = some (e', false) →
    (hostsTried (p.events d)).Perm (d.unbound p.election.connection)
  /-- Each session that is opened is asked for its role, once and in turn. -/
  judged : sessionsJudged (p.events d) = sessionsOpened (p.events d)

section Fair

variable {d : Deployment} {e e' : Election} {t : Try}

theorem Event.Binds.sessions {n : SessionId} {slot : Option Slot} {x : Event}
    (h : x.Binds n slot) : x.judgedSession = none ∧ x.openedSession = none := by
  cases h with
  | selects _ _ => exact ⟨rfl, rfl⟩
  | ousts h =>
    obtain ⟨s, -, rfl⟩ := h
    exact ⟨rfl, rfl⟩

theorem Treated.sessions {n : SessionId} {v : Verdict} {rest : List Event}
    (h : Treated e n v rest) : sessionsJudged rest = [] ∧ sessionsOpened rest = [] := by
  have none (x : Event) (hx : x ∈ rest) : x.judgedSession = none ∧ x.openedSession = none := by
    rcases h.binds_or_closes x hx with ⟨slot, hb⟩ | rfl
    · exact hb.sessions
    · exact ⟨rfl, rfl⟩
  exact ⟨List.filterMap_eq_nil_iff.2 fun x hx => (none x hx).1,
    List.filterMap_eq_nil_iff.2 fun x hx => (none x hx).2⟩

/-- The session that an attempt opens is asked for its role. -/
theorem Try.Fits.sessions (h : t.Fits d e) :
    sessionsJudged t.events = sessionsOpened t.events := by
  cases h with
  | refused h x => rfl
  | met h q lookup rest _ treated =>
    have hjudged : sessionsJudged (Try.met h q lookup rest).events =
        [] ++ [q.session] ++ sessionsJudged rest :=
      Try.filterMap_met (fun _ _ _ => rfl) h q lookup rest
    have hopened : sessionsOpened (Try.met h q lookup rest).events =
        [q.session] ++ [] ++ sessionsOpened rest :=
      Try.filterMap_met (fun _ _ _ => rfl) h q lookup rest
    rw [hjudged, hopened, treated.sessions.1, treated.sessions.2]
    rfl

theorem Tour.sessions {waiting left : List Host} {ts : List Try}
    (h : Tour d waiting e ts left) :
    sessionsJudged (ts.flatMap Try.events) = sessionsOpened (ts.flatMap Try.events) := by
  induction h with
  | stop => rfl
  | next fits _ _ _ ih =>
    unfold sessionsJudged sessionsOpened at ih ⊢
    rw [List.flatMap_cons, List.filterMap_append, List.filterMap_append, ih]
    exact congrArg (· ++ _) fits.sessions

variable [Cluster σ]

theorem Round.fair {p : Round σ} (ho : p.election.connection.closed = false) : p.Fair d := by
  obtain ⟨ts, left, haccount⟩ := p.exists_account (d := d) ho
  obtain ⟨order, hperm, -, htour⟩ := haccount.follows
  have htried : (hostsTried (p.events d) ++ left).Perm (d.unbound p.election.connection) := by
    rw [haccount.events, htour.hostsTried]
    exact htour.perm.trans hperm
  refine ⟨⟨left, htried⟩, ?_, ?_⟩
  · intro e' hrun
    have hleft : left = [] := (haccount.result _ hrun).done rfl
    simpa [hleft] using htried
  · rw [haccount.events, htour.sessions]

theorem fair_of_rounds {c : Connection} {g : Goal} {w : World σ} :
    ∀ p ∈ rounds d c g w, p.Fair d := by
  intro p hp
  obtain ⟨hopen, -, w', events, y, hcampaign⟩ := campaign_of_mem hp
  exact p.fair (hcampaign.stays_open hopen p hp)

end Fair

section Campaign

variable [Cluster σ] {d : Deployment} {first : Bool} {n : Nat} {e : Election} {w : World σ}
  {events : List Event} {ps : List (Round σ)} {y : Option (Election × Bool) × World σ}

/-- An election is given up when all passes have run to their end, or when one begins without a host
to try. -/
theorem Campaign.gives_up (h : Campaign d first n e w events ps y) {e' : Election}
    (hy : y.1 = some (e', false)) : (∀ p ∈ ps, ∃ x, (p.run d).1 = some (x, false)) ∧
      (ps.length = n ∨ ∃ p, ps.getLast? = some p ∧ d.unbound p.election.connection = []) := by
  induction h with
  | spent => exact ⟨fun p hp => absurd hp List.not_mem_nil, .inl rfl⟩
  | enough => cases hy
  | last begins _ ends =>
    refine ⟨?_, .inr ⟨_, rfl, ends _ hy⟩⟩
    intro p hp
    rw [List.mem_singleton.1 hp]
    exact ⟨e', hy⟩
  | @more first n e e₁ w w' asked later p ps y begins _ result _ _ ih =>
    obtain ⟨hfull, hend⟩ := ih hy
    constructor
    · rw [List.forall_mem_cons, result]
      exact ⟨⟨e₁, rfl⟩, hfull⟩
    · rcases hend with hlen | ⟨q, hlast, hnone⟩
      · left
        rw [List.length_cons, hlen]
      · right
        refine ⟨q, ?_, hnone⟩
        rw [List.getLast?_cons, hlast]
        rfl

/-- The replica has not become the master. -/
theorem Reasked.eq_of_unpromoted {e' : Election} {asked : List Event} (h : Reasked e asked e')
    (hno : ∀ m, .judged m (.role .master) ∉ asked) : e' = e := by
  cases h with
  | idle => rfl
  | stays => rfl
  | promoted s q rest _ _ _ verdict _ =>
    refine absurd ?_ (hno q.session)
    simp [Question.events, verdict]

/-- Attempts that are all refused. -/
theorem refused_of_not_opened {ts : List Try}
    (hno : ∀ h m, .opened h m ∉ ts.flatMap Try.events) (t : Try) (ht : t ∈ ts) :
    ∃ h x, t = .refused h x := by
  cases t with
  | refused h x => exact ⟨h, x, rfl⟩
  | met h q lookup rest =>
    refine absurd ?_ (hno h q.session)
    exact List.mem_flatMap.2 ⟨_, ht, List.mem_cons_self⟩

theorem foldl_after_of_refused {ts : List Try} (hts : ∀ t ∈ ts, ∃ h x, t = .refused h x) :
    ∀ e : Election, (ts.foldl Election.after e).connection = e.connection ∧
      (ts.foldl Election.after e).goal = e.goal := by
  induction ts with
  | nil => exact fun _ => ⟨rfl, rfl⟩
  | cons t ts ih =>
    obtain ⟨h, x, rfl⟩ := hts t List.mem_cons_self
    exact fun e => ih (fun t ht => hts t (List.mem_cons_of_mem _ ht)) _

/-- A pass in which all are refused runs to its end, and leaves the slots and the goal as they
are. -/
theorem Round.runs_out {p : Round σ} (ho : p.election.connection.closed = false)
    (hover : ¬p.election.IsOver) (hno : ∀ h m, .opened h m ∉ p.events d) :
    ∃ x, (p.run d).1 = some (x, false) ∧ x.connection = p.election.connection ∧
      x.goal = p.election.goal := by
  obtain ⟨ts, left, haccount⟩ := p.exists_account (d := d) ho
  rw [haccount.events] at hno
  have hrefused := refused_of_not_opened hno
  obtain ⟨hc, hg⟩ := foldl_after_of_refused hrefused p.election
  rcases hrun : (p.run d).1 with _ | x
  · obtain ⟨x, hx, n, database, rfl⟩ := haccount.stalls.1 hrun
    rw [haccount.events] at hx
    obtain ⟨t, ht, hx⟩ := List.mem_flatMap.1 hx
    obtain ⟨h, e, rfl⟩ := hrefused t ht
    simp [Try.events] at hx
  · have hend := haccount.result x hrun
    have hx : x.2 = false := by
      by_contra htrue
      have := hend.isOver (by simpa using htrue)
      rw [hend.election] at this
      unfold Election.IsOver at this hover
      rw [hc, hg] at this
      exact hover this
    refine ⟨x.1, ?_, ?_, ?_⟩
    · rw [← hx]
    · rw [hend.election, hc]
    · rw [hend.election, hg]

/-- If all are refused and the replica is not found to be the master, the passes are used up. -/
theorem Campaign.length_hostsTried (h : Campaign d first n e w events ps y)
    (ho : e.connection.closed = false) (hover : ¬e.IsOver)
    (hopened : ∀ h m, .opened h m ∉ events) (hjudged : ∀ m, .judged m (.role .master) ∉ events) :
    (hostsTried events).length = n * (d.unbound e.connection).length := by
  induction h with
  | spent => simp [hostsTried]
  | enough begins enough =>
    rw [begins.reasked.eq_of_unpromoted hjudged] at enough
    exact absurd (.inl enough) hover
  | @last first n e w asked p begins _ ends =>
    have heq := begins.reasked.eq_of_unpromoted fun m hm =>
      hjudged m (List.mem_append_left _ hm)
    have hround : ∀ h m, .opened h m ∉ p.events d := fun h m hm =>
      hopened h m (List.mem_append_right _ hm)
    rw [← heq] at ho hover ⊢
    obtain ⟨x, hx, -, -⟩ := p.runs_out (d := d) ho hover hround
    have htried := ((p.fair (d := d) ho).all x hx).length_eq
    rw [ends x hx] at htried ⊢
    rw [hostsTried_append, begins.reasked.hostsTried, List.nil_append, htried]
    simp
  | @more first n e e₁ w w' asked later p ps y begins _ result _ rest ih =>
    have heq := begins.reasked.eq_of_unpromoted fun m hm =>
      hjudged m (by simp [hm])
    have hround : ∀ h m, .opened h m ∉ p.events d := fun h m hm => hopened h m (by simp [hm])
    rw [← heq] at ho hover ⊢
    obtain ⟨x, hx, hc, hg⟩ := p.runs_out (d := d) ho hover hround
    obtain rfl : x = e₁ := by
      rw [result] at hx
      simpa using hx.symm
    have htried := ((p.fair (d := d) ho).all x hx).length_eq
    have hlater := ih (hc ▸ ho) (by unfold Election.IsOver at hover ⊢; rwa [hc, hg])
      (fun h m hm => hopened h m (by simp [hm])) fun m hm => hjudged m (by simp [hm])
    simp only [hostsTried_append, begins.reasked.hostsTried, List.nil_append, List.length_append,
      htried, hlater, hc]
    rw [Nat.succ_mul, Nat.add_comm]

end Campaign

section Elect

variable [Cluster σ] {d : Deployment} {c : Connection} {g : Goal} {w : World σ}

theorem not_mem_of_sessionsOpened {events : List Event} (h : sessionsOpened events = [])
    (x : Host) (n : SessionId) : .opened x n ∉ events := fun hm =>
  nomatch List.filterMap_eq_nil_iff.1 h _ hm

theorem not_mem_of_sessionsJudged {events : List Event} (h : sessionsJudged events = [])
    (n : SessionId) (v : Verdict) : .judged n v ∉ events := fun hm =>
  nomatch List.filterMap_eq_nil_iff.1 h _ hm

/-- An election for roles that are down makes its attempts in its passes, so many at most, and each
of them gives every host without a live session its turn. It gives up only after all passes, or when
one begins without such a host. So if there is not enough to begin with and all are refused, it
makes as many attempts as there are such hosts, in each pass. -/
theorem passes_of_election (hopen : c.closed = false)
    (hdown : ∀ r, g.wants r = true → c.isDown r = true) :
    hostsTried (w.since (elect d c g w).2) =
      (rounds d c g w).flatMap (hostsTried <| ·.events d) ∧
    (∀ p ∈ rounds d c g w, p.Fair d) ∧ (rounds d c g w).length ≤ g.passesIn d ∧
    (∀ e x w', elect d c g w = (some (.exhausted e, x), w') →
      (∀ p ∈ rounds d c g w,
        (hostsTried (p.events d)).Perm (d.unbound p.election.connection)) ∧
      ((rounds d c g w).length = g.passesIn d ∨ ∃ p, (rounds d c g w).getLast? = some p ∧
        d.unbound p.election.connection = [])) ∧
    (g.isEnough = false → sessionsOpened (w.since (elect d c g w).2) = [] →
      (∀ n, .judged n (.role .master) ∉ w.since (elect d c g w).2) →
      (hostsTried (w.since (elect d c g w).2)).length =
        g.passesIn d * (d.unbound c).length) := by
  have hwanted (henough : g.isEnough = false) : (!c.masterDown && !c.replicaDown) = false := by
    rcases Goal.wants_of_isEnough henough with hm | hr
    · have hm : c.masterDown = true := hdown .master hm
      simp [hm]
    · have hr : c.replicaDown = true := hdown .replica hr
      simp [hr]
  cases hup : c.closed || !c.masterDown && !c.replicaDown with
  | true =>
    obtain ⟨hnone, hnotes, hfound⟩ := elect_of_idle (d := d) (g := g) (w := w) hup
    rw [hnone, hnotes.since]
    refine ⟨rfl, fun p hp => absurd hp List.not_mem_nil, Nat.zero_le _, ?_, ?_⟩
    · intro e x w' hx
      rw [hx, hopen] at hfound
      cases hfound
    · intro henough
      rw [hopen, hwanted henough] at hup
      cases hup
  | false =>
    obtain ⟨events, y, hcampaign, hnotes, hends⟩ := campaign_elect (d := d) (g := g) (w := w) hup
    obtain ⟨-, htried⟩ := hcampaign.notes hopen
    rw [hnotes.since]
    refine ⟨htried, fair_of_rounds, length_rounds_le d c g w, ?_, ?_⟩
    · intro e x w' hx
      obtain ⟨e', hy, -⟩ := exists_of_answer (hends.symm.trans (congrArg Prod.fst hx))
      obtain ⟨hfull, hlast⟩ := hcampaign.gives_up hy
      refine ⟨?_, hlast⟩
      intro p hp
      obtain ⟨e₁, hrun⟩ := hfull p hp
      exact (fair_of_rounds p hp).all e₁ hrun
    · intro henough hopened hjudged
      refine hcampaign.length_hostsTried hopen ?_ (not_mem_of_sessionsOpened hopened) hjudged
      rintro (h | ⟨hm, hr⟩)
      · cases henough.symm.trans h
      · have hmr := hwanted henough
        simp_all

end Elect

section Offline

/-- The pair, with two passes before an election gives up. -/
def stubborn : Deployment :=
  { pair with config := { pair.config with failover := { retriesAllDown := 2 } } }

/-- On a machine without a network both hosts are tried in both passes. -/
theorem passes_of_offline : ∃ (c : Connection) (w : World Offline), c.closed = false ∧
    (∀ r, Goal.both.wants r = true → c.isDown r = true) ∧ Goal.both.isEnough = false ∧
    sessionsOpened (w.since (elect stubborn c .both w).2) = [] ∧
    (rounds stubborn c .both w).length = 2 ∧
    (hostsTried (w.since (elect stubborn c .both w).2)).length = 2 * 2 := by
  have hdown : ∀ r, Goal.both.wants r = true → (Connection.new true).isDown r = true := by
    intro r _
    cases r <;> rfl
  have hopened : sessionsOpened (World.since { servers := Offline.mk }
      (elect stubborn (.new true) .both { servers := Offline.mk }).2) = [] := by decide +kernel
  have hjudged : sessionsJudged (World.since { servers := Offline.mk }
      (elect stubborn (.new true) .both { servers := Offline.mk }).2) = [] := by decide +kernel
  obtain ⟨-, -, -, -, hcount⟩ := passes_of_election (d := stubborn) (c := .new true) (g := .both)
    (w := { servers := Offline.mk }) rfl hdown
  refine ⟨.new true, { servers := Offline.mk }, rfl, hdown, rfl, hopened, by decide +kernel, ?_⟩
  exact hcount rfl hopened fun n => not_mem_of_sessionsJudged hjudged n _

/-- An election that is content without the master it wants, and has no other wish, ends with its
first attempt. -/
theorem attempts_cut_short : ¬∀ (d : Deployment) (c : Connection) (g : Goal) (w : World Offline),
    c.closed = false → (∀ r, g.wants r = true → c.isDown r = true) →
    sessionsOpened (w.since (elect d c g w).2) = [] →
    (∀ n, .judged n (.role .master) ∉ w.since (elect d c g w).2) →
    (hostsTried (w.since (elect d c g w).2)).length = g.passesIn d * (d.unbound c).length := by
  intro claim
  have hopened : sessionsOpened (World.since { servers := Offline.mk }
      (elect pair (.new true) Goal.masterOnly.orReplicaOnly { servers := Offline.mk }).2) = [] := by
    decide +kernel
  have hjudged : sessionsJudged (World.since { servers := Offline.mk }
      (elect pair (.new true) Goal.masterOnly.orReplicaOnly { servers := Offline.mk }).2) = [] := by
    decide +kernel
  have hcount := claim pair (.new true) Goal.masterOnly.orReplicaOnly { servers := Offline.mk } rfl
    (fun r _ => by cases r <;> rfl) hopened fun n => not_mem_of_sessionsJudged hjudged n _
  revert hcount
  decide +kernel

end Offline

end Failover
