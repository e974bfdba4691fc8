import Failover.Pool
import Failover.Proofs.Retention
import Failover.Proofs.Setup

/-!
# What a failed connect leaves open

An election for roles whose slot is empty closes no session but those that it opened and does not
bind (`Tends`). When a connection cannot be set up, it is dropped as it is, with the session in its
replica's slot if there is one: that session is not closed, and it is the only one
(`sessions_of_failed_connect`).
-/

namespace Failover

open Act World

variable {σ α : Type}

section Numbers

/-! ## The numbers of the sessions -/

/-- The sessions that were opened are numbered in a row. -/
def World.Numbers (w w' : World σ) : Prop :=
  ∃ k events, w'.opened = w.opened + k ∧ w.Notes events w' ∧
    sessionsOpened events = List.range' (w.opened + 1) k

theorem World.Numbers.trans {u v w : World σ} (h : u.Numbers v) (h' : v.Numbers w) :
    u.Numbers w := by
  obtain ⟨k, xs, hk, hxs, hx⟩ := h
  obtain ⟨m, ys, hm, hys, hy⟩ := h'
  refine ⟨k + m, xs ++ ys, by rw [hm, hk, Nat.add_assoc], hxs.trans hys, ?_⟩
  have happend : sessionsOpened (xs ++ ys) = sessionsOpened xs ++ sessionsOpened ys :=
    List.filterMap_append
  rw [happend, hx, hy, hk, Nat.add_right_comm, List.range'_append_1]

theorem numbers_of_same {w w' : World σ} (ho : w'.opened = w.opened)
    (hj : w'.journal = w.journal) : w.Numbers w' :=
  ⟨0, [], ho, notes_of_eq hj, rfl⟩

theorem World.SparesHosts.numbers {w w' : World σ} (h : w.SparesHosts w') : w.Numbers w' := by
  obtain ⟨events, hnotes, hspares⟩ := h.adds.notes
  refine ⟨0, events, h.opened, hnotes, List.filterMap_eq_nil_iff.2 fun x hx => ?_⟩
  have hx := hspares x hx
  cases x <;> first | rfl | cases hx

variable [Cluster σ] {d : Deployment}

theorem Errand.numbers {x : Act σ α} (h : Errand d α x) : x.Always World.Numbers := by
  cases h with
  | connects h =>
    refine always_of_meets fun w => meets_connect_of ?_ ?_
    · intro _ _ _ _
      exact ⟨0, _, rfl, notes_of_cons rfl, rfl⟩
    · intro _ _ _
      exact ⟨1, _, rfl, notes_of_cons rfl, rfl⟩
  | blacklists h =>
    exact always_of_meets fun w => (harmless_blacklist h).meets fun _ _ hw =>
      numbers_of_same hw.opened hw.journal
  | chore h => exact fun w => (h.sparesHosts w).numbers

theorem Act.Errands.numbers {x : Act σ α} (h : x.Errands d) : x.Always World.Numbers := by
  induction h with
  | kind h => exact h.numbers
  | pure a => exact fun w => numbers_of_same rfl rfl
  | bind _ _ ihx ihf => exact always_bind (fun _ _ _ => World.Numbers.trans) ihx ihf

/-- No session is opened twice. -/
theorem Act.Errands.nodup {x : Act σ α} (h : x.Errands d) {w : World σ} {events : List Event}
    (hnotes : w.Notes events (x w).2) : (sessionsOpened events).Nodup := by
  obtain ⟨k, events', -, hnotes', hrange⟩ := h.numbers w
  obtain rfl : events = events' := hnotes.since.symm.trans hnotes'.since
  rw [hrange]
  exact List.nodup_range'

end Numbers

section Tends

/-! ## What becomes of the sessions -/

/-- While the slots came to be what they are, only sessions that were opened meanwhile have been
closed, the others of them are in a slot, and no slot was given up. If no two of them have the same
number, then those in the slots are not closed. -/
structure Tends (c : Connection) (events : List Event) (c' : Connection) : Prop where
  own : ∀ n, .closed n ∈ events → n ∈ sessionsOpened events
  kept : ∀ r s, c.slot? r = some s → ∃ q, c'.slot? q = some s
  cared : ∀ n ∈ sessionsOpened events, .closed n ∈ events ∨ ∃ r, n ∈ sessionIn (c'.slot? r)
  live : (sessionsOpened events).Nodup → ∀ r s, c'.slot? r = some s →
    (∃ q, c.slot? q = some s) ∨ s.session ∈ sessionsOpened events ∧ .closed s.session ∉ events

variable {d : Deployment} {c c' c'' : Connection} {e e' : Election} {events xs ys : List Event}

theorem sessionsOpened_append (xs ys : List Event) :
    sessionsOpened (xs ++ ys) = sessionsOpened xs ++ sessionsOpened ys := List.filterMap_append

theorem Tends.trans (h : Tends c xs c') (h' : Tends c' ys c'') : Tends c (xs ++ ys) c'' := by
  refine ⟨?_, ?_, ?_, ?_⟩
  · intro n hn
    rw [sessionsOpened_append, List.mem_append]
    exact (List.mem_append.1 hn).imp (h.own n) (h'.own n)
  · intro r s hs
    obtain ⟨q, hq⟩ := h.kept r s hs
    exact h'.kept q s hq
  · intro n hn
    rw [sessionsOpened_append, List.mem_append] at hn
    rw [List.mem_append]
    rcases hn with hn | hn
    · rcases h.cared n hn with hclosed | ⟨r, hr⟩
      · exact .inl (.inl hclosed)
      · obtain ⟨s, hs, rfl⟩ := mem_sessionIn.1 hr
        obtain ⟨q, hq⟩ := h'.kept r s hs
        exact .inr ⟨q, mem_sessionIn.2 ⟨s, hq, rfl⟩⟩
    · exact (h'.cared n hn).imp .inr id
  · intro hnodup r s hs
    rw [sessionsOpened_append] at hnodup ⊢
    obtain ⟨hx, hy, hdisjoint⟩ := List.nodup_append.1 hnodup
    rw [List.mem_append, List.mem_append, not_or]
    rcases h'.live hy r s hs with ⟨q, hq⟩ | ⟨hopened, hlive⟩
    · rcases h.live hx q s hq with hold | ⟨hopened, hlive⟩
      · exact .inl hold
      · refine .inr ⟨.inl hopened, hlive, ?_⟩
        intro hn
        exact hdisjoint _ hopened _ (h'.own _ hn) rfl
    · exact .inr ⟨.inr hopened, fun hn => hdisjoint _ (h.own _ hn) _ hopened rfl, hlive⟩

/-- Nothing is opened or closed, and the slots at most change their roles. -/
theorem tends_of_idle (hopened : sessionsOpened events = [])
    (hclosed : ∀ n, .closed n ∉ events)
    (hkept : ∀ r s, c.slot? r = some s → ∃ q, c'.slot? q = some s)
    (hsame : ∀ r s, c'.slot? r = some s → ∃ q, c.slot? q = some s) : Tends c events c' where
  own n hn := absurd hn (hclosed n)
  kept := hkept
  cared := by simp [hopened]
  live _ r s hs := .inl (hsame r s hs)

theorem Tends.refl (c : Connection) : Tends c [] c :=
  tends_of_idle rfl (by simp) (fun r _ hs => ⟨r, hs⟩) fun r _ hs => ⟨r, hs⟩

theorem Tends.route (h : Tends c events c') : Tends c events c'.route := by
  have hroute : Tends c' [] c'.route :=
    tends_of_idle rfl (by simp) (fun r _ hs => ⟨r, (c'.slot_route r).trans hs⟩)
      fun r _ hs => ⟨r, (c'.slot_route r).symm.trans hs⟩
  simpa using h.trans hroute

/-- There is room for what is wanted. -/
structure Election.Roomy (e : Election) : Prop where
  vacant : Vacant e.connection e.goal
  master : e.connection.masterDown = true → e.connection.master = none

theorem Connection.master_fill_of_down {r : Role} {s : Slot}
    (h : c.masterDown = true → c.master = none) (hdown : (c.fill r s).masterDown = true) :
    (c.fill r s).master = none := by
  cases r with
  | master => cases (c.masterDown_fill_master s).symm.trans hdown
  | replica =>
    rw [c.masterDown_fill_replica] at hdown
    exact (c.slot_fill_of_ne s (r := .replica) (q := .master) (by decide)).trans (h hdown)

/-- One stretch of an election. -/
structure Stretch (e : Election) (events : List Event) (e' : Election) : Prop where
  tends : Tends e.connection events e'.connection
  roomy : e'.Roomy
  wants : ∀ r, e'.goal.wants r = true → e.goal.wants r = true
  closed : e'.connection.closed = e.connection.closed

theorem Stretch.refl (h : e.Roomy) : Stretch e [] e := ⟨Tends.refl _, h, fun _ => id, rfl⟩

theorem Stretch.trans {e'' : Election} (h : Stretch e xs e') (h' : Stretch e' ys e'') :
    Stretch e (xs ++ ys) e'' :=
  ⟨h.tends.trans h'.tends, h'.roomy, fun r hr => h.wants r (h'.wants r hr),
    h'.closed.trans h.closed⟩

section Met

variable {h : Host} {q : Question} {lookup : Option Reply} {rest : List Event} {n : SessionId}
  {r : Role}

theorem sessionsOpened_met (h : Host) (lookup : Option Reply)
    (treated : Treated e q.session q.verdict rest) :
    sessionsOpened (Try.met h q lookup rest).events = [q.session] := by
  have htried : sessionsOpened (Try.met h q lookup rest).events =
      [q.session] ++ [] ++ sessionsOpened rest :=
    Try.filterMap_met (fun _ _ _ => rfl) h q lookup rest
  rw [htried, treated.sessions.2]
  rfl

theorem closed_mem_met : .closed n ∈ (Try.met h q lookup rest).events ↔ .closed n ∈ rest := by
  rcases q with ⟨_, _ | _, _⟩ <;> rcases lookup with _ | _ <;>
    simp [Try.events, Question.events]

/-- A session is bound in a slot that was empty. -/
theorem tends_of_bound (hvacant : c.slot? r = none) (hopened : sessionsOpened events = [n])
    (hclosed : ∀ m, .closed m ∉ events) : Tends c events (c.fill r ⟨h, n⟩) := by
  have hself := c.slot_fill_self ⟨h, n⟩ r
  constructor
  case own => exact fun m hm => absurd hm (hclosed m)
  case kept =>
    intro q s hs
    have hne : q ≠ r := by
      rintro rfl
      cases hvacant.symm.trans hs
    exact ⟨q, (Connection.slot_fill_of_ne _ _ hne).trans hs⟩
  case cared =>
    intro m hm
    rw [hopened, List.mem_singleton] at hm
    exact .inr ⟨r, mem_sessionIn.2 ⟨_, hself, hm.symm⟩⟩
  case live =>
    intro _ q s hs
    rcases Connection.cases_slot_fill hs with ⟨rfl, rfl⟩ | ⟨-, hs⟩
    · exact .inr ⟨by rw [hopened]; exact List.mem_singleton_self _, hclosed _⟩
    · exact .inl ⟨q, hs⟩

/-- A session is hung up, and no slot changes. -/
theorem tends_of_hungUp (hopened : sessionsOpened events = [n])
    (hclosed : ∀ m, .closed m ∈ events ↔ m = n) : Tends c events c := by
  have hmem (m : SessionId) : m ∈ sessionsOpened events ↔ m = n := by
    rw [hopened, List.mem_singleton]
  constructor
  case own => exact fun m hm => (hmem m).2 ((hclosed m).1 hm)
  case kept => exact fun r _ hs => ⟨r, hs⟩
  case cared => exact fun m hm => .inl ((hclosed m).2 ((hmem m).1 hm))
  case live => exact fun _ r _ hs => .inl ⟨r, hs⟩

end Met

/-- The session of an attempt is closed unless it is bound, and no other one is, for there was none
in the slot in which it is bound. -/
theorem Try.Fits.stretch {t : Try} (h : t.Fits d e) (hroom : e.Roomy) :
    Stretch e t.events (e.after t) := by
  cases h with
  | refused h x =>
    have tends : Tends e.connection (Try.refused h x).events e.connection :=
      tends_of_idle rfl (by simp [events]) (fun r _ hs => ⟨r, hs⟩) fun r _ hs => ⟨r, hs⟩
    exact ⟨tends, ⟨hroom.vacant, hroom.master⟩, fun _ => id, rfl⟩
  | met h q lookup rest _ treated =>
    have hopened := sessionsOpened_met h lookup treated
    by_cases hbound : ∃ r, q.verdict = .role r ∧ e.goal.wants r = true
    · obtain ⟨r, hv, hw⟩ := hbound
      have hvacant := hroom.vacant r hw
      have hafter : e.after (.met h q lookup rest) =
          { e with connection := e.connection.fill r ⟨h, q.session⟩, goal := e.goal.found r } := by
        simp [Election.after, hv, hw]
      have hclosed (n : SessionId) : .closed n ∉ (Try.met h q lookup rest).events := by
        rw [closed_mem_met]
        intro hn
        rcases treated.bound r hv hw _ hn with _ | ⟨s, hs, -⟩
        cases hvacant.symm.trans hs
      rw [hafter]
      exact ⟨tends_of_bound hvacant hopened hclosed,
        ⟨hroom.vacant.fill, Connection.master_fill_of_down hroom.master⟩,
        fun _ => Goal.wants_of_found, Connection.closed_fill _ _ _⟩
    · have hno (r : Role) (hv : q.verdict = .role r) : e.goal.wants r = false :=
        Bool.eq_false_iff.2 fun hw => hbound ⟨r, hv, hw⟩
      obtain ⟨hc, hg⟩ : (e.after (.met h q lookup rest)).connection = e.connection ∧
          (e.after (.met h q lookup rest)).goal = e.goal := by
        rcases q with ⟨_, _, r | x | _⟩
        · simp [Election.after, hno r rfl]
        · exact ⟨rfl, rfl⟩
        · exact ⟨rfl, rfl⟩
      have hclosed (n : SessionId) :
          .closed n ∈ (Try.met h q lookup rest).events ↔ n = q.session := by
        rw [closed_mem_met, treated.hungUp hno]
        simp
      constructor
      case tends =>
        rw [hc]
        exact tends_of_hungUp hopened hclosed
      case roomy =>
        constructor
        · rw [hc, hg]
          exact hroom.vacant
        · rw [hc]
          exact hroom.master
      case wants =>
        rw [hg]
        exact fun _ => id
      case closed => rw [hc]

theorem Question.sessionsOpened_events (q : Question) : sessionsOpened q.events = [] :=
  q.filterMap_events fun _ _ _ => rfl

theorem Reasked.stretch (h : Reasked e events e') (hroom : e.Roomy) : Stretch e events e' := by
  have slots (r : Role) (s : Slot) (hs : e.connection.slot? r = some s) :
      ∃ q, e.connection.slot? q = some s := ⟨r, hs⟩
  have hclosed (q : Question) (n : SessionId) : .closed n ∉ q.events := by
    rcases q with ⟨_, _ | _, _⟩ <;> simp [Question.events]
  cases h with
  | idle => exact .refl hroom
  | stays s q _ _ _ =>
    exact ⟨tends_of_idle q.sessionsOpened_events (hclosed q) slots slots, hroom, fun _ => id, rfl⟩
  | promoted s q rest down replica _ _ ousts =>
    have hmaster : e.connection.master = none := hroom.master down
    have hrest : rest = [] := by
      refine List.eq_nil_iff_forall_not_mem.2 ?_
      intro x hx
      obtain ⟨s, hs, -⟩ := ousts x hx
      cases hmaster.symm.trans hs
    rw [hrest, List.append_nil]
    constructor
    case tends =>
      refine tends_of_idle q.sessionsOpened_events (hclosed q) ?_ ?_
      · intro r t ht
        cases r with
        | master => cases hmaster.symm.trans ht
        | replica =>
          obtain rfl : s = t := Option.some.inj (replica.symm.trans ht)
          exact ⟨.master, e.connection.slot_promote_master s⟩
      · intro r t ht
        obtain ⟨rfl, rfl⟩ := Connection.eq_of_slot_promote ht
        exact ⟨.replica, replica⟩
    case roomy =>
      refine ⟨Vacant.promote, ?_⟩
      intro hdown
      cases (e.connection.masterDown_promote s).symm.trans hdown
    case wants => exact fun _ => Goal.wants_of_found (r := .master)
    case closed => exact Connection.closed_promote _ _

/-- All passes of an election are one stretch. -/
theorem tracing_stretch (d : Deployment) :
    Tracing d fun e events e' => e.Roomy → Stretch e events e' where
  refl _ := .refl
  trans h h' hroom := (h hroom).trans (h' (h hroom).roomy)
  tries h hroom := h.stretch hroom
  asks h hroom := h.stretch hroom

end Tends

section Elections

/-! ## Elections that have room -/

variable [Cluster σ] {d : Deployment} {c : Connection} {g : Goal} {w : World σ}

/-- The passes of an election that is given up lack something. -/
theorem Campaign.lacks {first : Bool} {n : Nat} {e : Election} {events : List Event}
    {ps : List (Round σ)} {y : Option (Election × Bool) × World σ}
    (h : Campaign d first n e w events ps y) (ho : e.connection.closed = false)
    (henough : e.goal.isEnough = false) :
    ∀ e', y.1 = some (e', false) → e'.goal.isEnough = false := by
  have run {p : Round σ} (ho : p.election.connection.closed = false)
      (hwants : p.election.goal.isEnough = false) {e' : Election}
      (hx : (p.run d).1 = some (e', false)) :
      e'.goal.isEnough = false ∧ e'.connection.closed = false := by
    obtain ⟨ts, left, haccount⟩ := p.exists_account (d := d) ho
    have hend := haccount.result _ hx
    refine ⟨?_, (haccount.closed hx).trans ho⟩
    rcases ts with _ | ⟨t, ts⟩
    · rwa [show e' = p.election from hend.election]
    · exact Bool.eq_false_iff.2 fun h => hend.goesOn rfl (List.cons_ne_nil _ _) (.inl h)
  induction h with
  | spent =>
    rintro _ ⟨⟩
    exact henough
  | enough =>
    rintro _ ⟨⟩
  | last begins wanting _ =>
    have hwants := begins.wanting (fun _ => henough) wanting
    exact fun e' hx => (run (begins.reasked.closed.trans ho) hwants hx).1
  | more begins wanting result _ _ ih =>
    have hwants := begins.wanting (fun _ => henough) wanting
    obtain ⟨hlacks, ho'⟩ := run (begins.reasked.closed.trans ho) hwants (congrArg Prod.fst result)
    exact ih ho' hlacks

theorem meets_elect_stretch (hopen : c.closed = false) (hroom : Election.Roomy ⟨c, g, none⟩)
    (henough : g.isEnough = false) : (elect d c g).Meets w (fun x w' => ∃ events,
      w.Notes events w' ∧ Stretch ⟨c, g, none⟩ events ⟨x.2.1, x.2.2, none⟩ ∧
      ∀ e, x.1 = .exhausted e → x.2.2.isEnough = false) fun _ => True := by
  refine meets_iff.2 ⟨?_, fun _ _ => trivial⟩
  rintro ⟨outcome, c', g'⟩ w' hx
  have hfst : (elect d c g w).1 = some (outcome, c', g') := by rw [hx]
  have hsnd : (elect d c g w).2 = w' := by rw [hx]
  cases hup : c.closed || !c.masterDown && !c.replicaDown with
  | true =>
    obtain ⟨-, hnotes, hfound⟩ := elect_of_idle (d := d) (g := g) (w := w) hup
    rw [hsnd] at hnotes
    rw [hfst, hopen] at hfound
    obtain ⟨rfl, rfl, rfl⟩ : outcome = .found ∧ c' = c ∧ g' = g := by simpa using hfound
    exact ⟨[], hnotes, .refl hroom, nofun⟩
  | false =>
    obtain ⟨events, y, hcampaign, hnotes, hends⟩ := campaign_elect (d := d) (g := g) (w := w) hup
    rw [hsnd] at hnotes
    obtain ⟨e, hy, heq, -⟩ := exists_of_answer (hends.symm.trans hfst)
    obtain ⟨rfl, rfl⟩ : c' = e.connection ∧ g' = e.goal := by simpa using heq
    have hstretch := (tracing_stretch d).campaign hcampaign hopen _ hy hroom
    have hroom' : Election.Roomy ⟨e.connection, e.goal, none⟩ :=
      ⟨hstretch.roomy.vacant, hstretch.roomy.master⟩
    refine ⟨events, hnotes, ⟨hstretch.tends, hroom', hstretch.wants, hstretch.closed⟩, ?_⟩
    rintro _ rfl
    exact hcampaign.lacks hopen henough e hy

/-- Looking for both roles on a connection that has none. -/
theorem meets_seekBoth_tends (hopen : c.closed = false) (hvacant : ∀ r, c.slot? r = none) :
    (seekBoth d c).Meets w (fun c' w' => ∃ events, w.Notes events w' ∧ Tends c events c' ∧
      c'.closed = false ∧ (c'.masterDown = true → c'.master = none)) fun _ => True := by
  unfold seekBoth electAndRoute
  split
  swap
  · exact meets_pure ⟨[], Notes.refl w, Tends.refl c, hopen, fun _ => hvacant .master⟩
  refine meets_map (meets_bind (meets_elect_stretch (g := Goal.both.inOnePass) hopen
    ⟨fun r _ => hvacant r, fun _ => hvacant .master⟩ rfl) ?_)
  rintro ⟨outcome, c', g'⟩ w' ⟨events, hnotes, hstretch, -⟩
  refine meets_pure ⟨events, hnotes, hstretch.tends.route,
    c'.closed_route.trans (hstretch.closed.trans hopen), fun hdown => ?_⟩
  exact (c'.slot_route .master).trans (hstretch.roomy.master (c'.masterDown_route.symm.trans hdown))

/-- Looking for a master on a connection that has none. -/
theorem meets_electMaster_tends (hopen : c.closed = false) (hmaster : c.master = none) :
    (electMaster d c).Meets w (fun x w' => ∃ events, w.Notes events w' ∧ Tends c events x.2 ∧
      ∀ e, x.1 = .error e → x.2.master = none) fun _ => True := by
  have hroom : Election.Roomy ⟨c, .masterOnly, none⟩ := by
    refine ⟨?_, fun _ => hmaster⟩
    rintro (_ | _) hr
    · exact hmaster
    · cases hr
  unfold electMaster electAndRoute
  refine meets_bind (m := fun x w' => ∃ events, w.Notes events w' ∧ Tends c events x.2 ∧
    ∀ e, x.1 = .exhausted e → x.2.master = none) ?_ ?_
  · refine meets_bind (meets_elect_stretch hopen hroom rfl) ?_
    rintro ⟨outcome, c', g'⟩ w' ⟨events, hnotes, hstretch, hlacks⟩
    refine meets_pure ⟨events, hnotes, hstretch.tends.route, fun e he => ?_⟩
    have hwants : g'.wants .master = true := by
      rcases Goal.wants_of_isEnough (hlacks e he) with hm | hr
      · exact hm
      · cases hstretch.wants .replica hr
    exact (c'.slot_route .master).trans (hstretch.roomy.vacant .master hwants)
  · rintro ⟨_ | e, c'⟩ w' ⟨events, hnotes, htends, hnone⟩
    · exact meets_pure ⟨events, hnotes, htends, nofun⟩
    · exact meets_pure ⟨events, hnotes, htends, fun _ _ => hnone e rfl⟩

theorem meets_establish_tends (hopen : c.closed = false) (hvacant : ∀ r, c.slot? r = none) :
    (establish d c).Meets w (fun x w' => ∃ events, w.Notes events w' ∧ Tends c events x.2 ∧
      ∀ e, x.1 = .error e → x.2.master = none) fun _ => True := by
  unfold establish
  rw [electRoles_eq]
  refine meets_bind (m := fun x w' => ∃ events, w.Notes events w' ∧ Tends c events x.2 ∧
    ∀ e, x.1 = .error e → x.2.master = none) ?_ ?_
  · refine meets_bind (meets_seekBoth_tends hopen hvacant) ?_
    rintro c₁ w₁ ⟨xs, hxs, htends, hopen₁, hmaster⟩
    split
    next hdown =>
      refine (meets_electMaster_tends hopen₁ (hmaster hdown)).mono ?_ fun _ h => h
      rintro x w' ⟨ys, hys, htends', hnone⟩
      exact ⟨xs ++ ys, hxs.trans hys, htends.trans htends', hnone⟩
    next => exact meets_pure ⟨xs, hxs, htends, nofun⟩
  · rintro ⟨_ | _, c'⟩ w' ⟨events, hnotes, htends, hnone⟩
    · exact meets_pure ⟨events, hnotes, htends, hnone⟩
    · refine meets_bind_harmless (harmless_log _ _) fun _ w₂ h₂ => ?_
      exact meets_pure ⟨events, hnotes.still h₂, htends, nofun⟩

end Elections

section Connect

/-! ## Connections that could not be set up -/

variable [Cluster σ]

/-- When a connection could not be set up, all sessions that were opened for it have been closed but
for the one in its replica's slot. -/
theorem sessions_of_failed_connect {p p' : Pool σ} {e : Error}
    (h : p.connect = (some (.error e), p')) : ∃ c : Connection,
      establish p.deployment (.new p.deployment.hasReplicas) p.world =
        (some (.error e, c), p'.world) ∧ c.master = none ∧
      (∀ s, c.replica = some s → s.session ∈ sessionsOpened (p.world.since p'.world)) ∧
      (∀ n ∈ sessionsOpened (p.world.since p'.world), .closed n ∈ p.world.since p'.world ↔
        n ∉ sessionIn c.replica) ∧
      ((∀ n ∈ sessionsOpened (p.world.since p'.world), .closed n ∈ p.world.since p'.world) ↔
        c.replica = none) := by
  unfold Pool.connect at h
  rcases hrun : establish p.deployment (.new p.deployment.hasReplicas) p.world with
    ⟨_ | ⟨answer, c⟩, w⟩ <;> rw [hrun] at h
  · cases h
  obtain ⟨rfl, rfl⟩ : answer = .error e ∧
      p' = { p with world := w, connections := p.connections ++ [none] } := by
    simp only [Prod.mk.injEq, Option.some.injEq] at h
    obtain ⟨rfl, rfl⟩ := h
    exact ⟨rfl, rfl⟩
  have hvacant (r : Role) : (Connection.new p.deployment.hasReplicas).slot? r = none := by
    cases r <;> rfl
  obtain ⟨events, hnotes, htends, hmaster⟩ :=
    (meets_establish_tends (d := p.deployment) (w := p.world) rfl hvacant).value hrun
  have hmaster : c.master = none := hmaster e rfl
  have hnodup : (sessionsOpened events).Nodup := by
    refine (Electing.establish.errands (Connection.new p.deployment.hasReplicas)).nodup
      (w := p.world) (d := p.deployment) ?_
    rwa [hrun]
  dsimp only
  rw [hnotes.since]
  have hlive (s : Slot) (hs : c.replica = some s) :
      s.session ∈ sessionsOpened events ∧ .closed s.session ∉ events := by
    rcases htends.live hnodup .replica s hs with ⟨q, hq⟩ | hnew
    · cases (hvacant q).symm.trans hq
    · exact hnew
  have hiff (n : SessionId) (hn : n ∈ sessionsOpened events) :
      .closed n ∈ events ↔ n ∉ sessionIn c.replica := by
    refine ⟨?_, fun hout => (htends.cared n hn).resolve_right ?_⟩
    · intro hclosed hin
      obtain ⟨s, hs, rfl⟩ := mem_sessionIn.1 hin
      exact (hlive s hs).2 hclosed
    · rintro ⟨r, hr⟩
      cases r with
      | master =>
        rw [Connection.slot?, hmaster, sessionIn_none] at hr
        cases hr
      | replica => exact hout hr
  refine ⟨c, rfl, hmaster, fun s hs => (hlive s hs).1, hiff, ?_, ?_⟩
  · intro hall
    rcases hc : c.replica with _ | s
    · rfl
    · exact absurd (hall _ (hlive s hc).1) (hlive s hc).2
  · intro hnone n hn
    rw [hiff n hn, hnone, sessionIn_none]
    exact Set.notMem_empty n

end Connect

section Orphaned

/-- A pool for a cluster without a master. -/
def orphanage : Pool Script where
  deployment := cloud
  world :=
    { servers := orphaned
      log := [⟨.debug, "Driver ready for aurora topology with 2 host(s)"⟩] }

theorem start_orphanage : Pool.start cloud.config orphaned = .ok orphanage := by
  have hcloud : Deployment.ofConfig cloud.config = .ok cloud := by cbv
  unfold Pool.start
  rw [hcloud]
  cbv

/-- The connect to the orphaned cluster fails, and the only session that it opened is not closed. -/
theorem connect_orphanage : ∃ (e : Error) (p : Pool Script),
    orphanage.connect = (some (.error e), p) ∧
      sessionsOpened (orphanage.world.since p.world) = [1] ∧
      .closed 1 ∉ orphanage.world.since p.world := by
  have hx : orphanage.connect.1.map Except.isOk = some false ∧
      sessionsOpened (orphanage.world.since orphanage.connect.2.world) = [1] ∧
      (orphanage.world.since orphanage.connect.2.world).any (Event.ends 1) = false := by
    decide +kernel
  obtain ⟨hfails, hopened, hopen⟩ := hx
  rcases hconnect : orphanage.connect with ⟨_ | e | _, p⟩ <;>
    rw [hconnect] at hfails hopened hopen
  · cases hfails
  · refine ⟨e, p, rfl, hopened, ?_⟩
    intro hclosed
    exact Bool.false_ne_true (hopen.symm.trans (List.any_eq_true.2 ⟨_, hclosed, rfl⟩))
  · cases hfails

/-- The replica's session is the one that is left open. -/
theorem replica_left_open : ∃ (e : Error) (p : Pool Script) (c : Connection) (s : Slot),
    Pool.start cloud.config orphaned = .ok orphanage ∧
      orphanage.connect = (some (.error e), p) ∧ c.master = none ∧ c.replica = some s ∧
      s.session ∈ sessionsOpened (orphanage.world.since p.world) ∧
      .closed s.session ∉ orphanage.world.since p.world := by
  obtain ⟨e, p, hconnect, hopened, hopen⟩ := connect_orphanage
  obtain ⟨c, -, hmaster, hslot, hiff, hall⟩ := sessions_of_failed_connect hconnect
  rcases hc : c.replica with _ | s
  · exact absurd (hall.2 hc 1 (by rw [hopened]; exact List.mem_singleton_self _)) hopen
  have hs := hslot s hc
  refine ⟨e, p, c, s, start_orphanage, hconnect, hmaster, hc, hs, ?_⟩
  intro hclosed
  exact (hiff s.session hs).1 hclosed (mem_sessionIn.2 ⟨s, hc, rfl⟩)

/-- A failed connect does not close all that it opened. -/
theorem failed_connect_leaks : ¬∀ (config : Config) (servers : Script) (p p' : Pool Script)
    (e : Error), Pool.start config servers = .ok p → p.connect = (some (.error e), p') →
      ∀ n ∈ sessionsOpened (p.world.since p'.world), .closed n ∈ p.world.since p'.world := by
  intro claim
  obtain ⟨e, p, hconnect, hopened, hopen⟩ := connect_orphanage
  refine hopen (claim _ _ _ p e start_orphanage hconnect 1 ?_)
  rw [hopened]
  exact List.mem_singleton_self _

end Orphaned

end Failover
