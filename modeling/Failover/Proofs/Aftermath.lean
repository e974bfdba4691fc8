import Failover.Proofs.Preference

/-!
# What an election leaves in the blacklist

What came of the attempts at a host is read off the journal: each has failed at some instant, or it
has not (`attemptsAt`). The last one decides what the blacklist says of the host (`settled`), for
each attempt forgets what was known before it, and records its own failure if there is one. Besides
that, the table only changes when a pass begins: a host that is looked up then and whose failure is
too old is dropped (`Round.Drops`). So what an election leaves of a host follows from its passes
(`failures_after_election`). A failure that the election recorded itself may grow too old for one of
its later passes, and is dropped as well (`own_failure_outdated`).
-/

namespace Failover

open Act World

variable {σ α β : Type}

/-! ## The outcomes of attempts -/

/-- What was noted on the way from one world to another, oldest first, with the instants. -/
def World.entriesSince (w w' : World σ) : List Entry :=
  (w'.journal.take (w'.journal.length - w.journal.length)).reverse

/-- The instant at which the session was closed. -/
def Entry.closingOf (n : SessionId) (entry : Entry) : Option Nat :=
  match entry.event with
  | .closed m => if m = n then some entry.time else none
  | _ => none

/-- The instant at which a session was given up after this verdict. -/
def Verdict.failure (n : SessionId) : Verdict → List Entry → Option Nat
  | .role _, _ => none
  | .failed _, later | .unanswered, later => later.findSome? (·.closingOf n)

/-- The instant at which a session was given up because it showed no role. -/
def failureOf (n : SessionId) : List Entry → Option Nat
  | [] => none
  | entry :: later =>
    match entry.event.verdictOn n with
    | some v => v.failure n later
    | none => failureOf n later

/-- The attempts at an endpoint, oldest first, each with the instant at which it failed. -/
def attemptsAt (x : Endpoint) : List Entry → List (Option Nat)
  | [] => []
  | entry :: later =>
    match entry.event with
    | .refused h _ => (if h.toEndpoint = x then [some entry.time] else []) ++ attemptsAt x later
    | .opened h n => (if h.toEndpoint = x then [failureOf n later] else []) ++ attemptsAt x later
    | _ => attemptsAt x later

/-- What becomes of the failure of a host by these attempts: the last one decides. -/
def settled (x : Endpoint) (outcomes : List (Option Nat)) (failure : Option Failure) :
    Option Failure :=
  match outcomes.getLast? with
  | none => failure
  | some last => last.map fun t => ⟨x, t, t⟩

section Outcomes

variable {x : Endpoint} {h : Host} {n : SessionId} {entries later : List Entry}

theorem attemptsAt_append_of_not_isAttempt (h : ∀ e ∈ entries, e.event.isAttempt = false) :
    attemptsAt x (entries ++ later) = attemptsAt x later := by
  induction entries with
  | nil => rfl
  | cons entry entries ih =>
    have hrest := ih fun e he => h e (List.mem_cons_of_mem _ he)
    have hentry := h entry List.mem_cons_self
    obtain ⟨t, event⟩ := entry
    cases event with
    | refused h a => cases hentry
    | opened h n => cases hentry
    | _ => exact hrest

/-- A host is tried as often as the events tell. -/
theorem attemptsAt_eq_nil_iff :
    attemptsAt x entries = [] ↔ ∀ h ∈ hostsTried (entries.map Entry.event), h.toEndpoint ≠ x := by
  induction entries with
  | nil => simp [attemptsAt, hostsTried]
  | cons entry entries ih =>
    obtain ⟨t, event⟩ := entry
    cases event <;> simp_all [attemptsAt, hostsTried, Event.attempted]

@[simp] theorem settled_nil (failure : Option Failure) : settled x [] failure = failure := rfl

theorem settled_singleton (outcome : Option Nat) (failure : Option Failure) :
    settled x [outcome] failure = outcome.map fun t => ⟨x, t, t⟩ := rfl

theorem settled_append (xs ys : List (Option Nat)) (failure : Option Failure) :
    settled x (xs ++ ys) failure = settled x ys (settled x xs failure) := by
  unfold settled
  rw [List.getLast?_append]
  cases ys.getLast? <;> rfl

end Outcomes

/-- The attempts at an endpoint came to this in the meantime, whatever came later. -/
def World.Reports (x : Endpoint) (outcomes : List (Option Nat)) (w w' : World σ) : Prop :=
  ∃ entries, w'.journal = entries.reverse ++ w.journal ∧
    ∀ later, attemptsAt x (entries ++ later) = outcomes ++ attemptsAt x later

/-- What the blacklist says of an endpoint was settled by the attempts at it. -/
def World.Settles (x : Endpoint) (w w' : World σ) : Prop :=
  ∃ outcomes, w.Reports x outcomes w' ∧
    w'.blacklist.get? x = settled x outcomes (w.blacklist.get? x)

/-- No host was tried, and the blacklist was left alone. -/
structure World.Overlooks (w w' : World σ) : Prop where
  adds : w.Adds (fun e => e.isAttempt = false) w'
  blacklist : w'.blacklist = w.blacklist

section Relations

variable {x : Endpoint} {u v w : World σ} {xs ys : List (Option Nat)}

theorem World.Reports.trans (h : u.Reports x xs v) (h' : v.Reports x ys w) :
    u.Reports x (xs ++ ys) w := by
  obtain ⟨es, hj, hes⟩ := h
  obtain ⟨es', hj', hes'⟩ := h'
  refine ⟨es ++ es', by simp [hj', hj], ?_⟩
  intro later
  rw [List.append_assoc, hes, hes', List.append_assoc]

theorem World.Adds.reports (h : u.Adds (fun e => e.isAttempt = false) v) : u.Reports x [] v := by
  obtain ⟨new, hj, hn⟩ := h
  refine ⟨new.reverse, by rw [hj, List.reverse_reverse], ?_⟩
  intro later
  exact attemptsAt_append_of_not_isAttempt fun e he => hn e (List.mem_reverse.1 he)

theorem World.entriesSince_eq {new : List Entry} (h : v.journal = new ++ u.journal) :
    u.entriesSince v = new.reverse := by
  unfold entriesSince
  rw [h, List.length_append, Nat.add_sub_cancel, List.take_left]

theorem World.map_entriesSince (u v : World σ) :
    (u.entriesSince v).map Entry.event = u.since v := List.map_reverse

theorem World.Reports.attemptsAt (h : u.Reports x xs v) :
    attemptsAt x (u.entriesSince v) = xs := by
  obtain ⟨es, hj, hes⟩ := h
  rw [entriesSince_eq hj, List.reverse_reverse]
  simpa [Failover.attemptsAt] using hes []

theorem World.Overlooks.settles (h : u.Overlooks v) : u.Settles x v :=
  ⟨[], h.adds.reports, by rw [h.blacklist, settled_nil]⟩

theorem framing_overlooks : Framing (Overlooks (σ := σ)) where
  refl w := ⟨.refl w, rfl⟩
  logs _ _ := ⟨adds_of_eq rfl, rfl⟩
  trans h h' := ⟨h.adds.trans h'.adds, h'.blacklist.trans h.blacklist⟩
  now h := ⟨h.adds, h.blacklist⟩

theorem framing_settles (x : Endpoint) : Framing (Settles (σ := σ) x) where
  refl w := (framing_overlooks.refl w).settles
  logs w line := (framing_overlooks.logs w line).settles
  trans := by
    rintro u v w ⟨xs, hxs, hx⟩ ⟨ys, hys, hy⟩
    exact ⟨xs ++ ys, hxs.trans hys, by rw [settled_append, hy, hx]⟩
  now h := h

end Relations

/-! ## What leaves the blacklist alone -/

section Overlooks

variable [Cluster σ] {d : Deployment}

omit [Cluster σ] in
theorem overlooks_note {event : Event} (h : event.isAttempt = false) :
    (note event : Act σ Unit).Always Overlooks :=
  always_change fun _ => ⟨adds_cons rfl h, rfl⟩

omit [Cluster σ] in
theorem overlooks_keep (h : Handle) : (keep h : Act σ Unit).Always Overlooks :=
  always_change fun _ => ⟨adds_of_eq rfl, rfl⟩

theorem overlooks_call (n : SessionId) (r : Request) : (call n r : Act σ _).Always Overlooks := by
  apply always_call
  intro w reply servers now
  exact ⟨adds_cons rfl rfl, rfl⟩

theorem overlooks_hangUp (n : SessionId) : (hangUp n : Act σ _).Always Overlooks := by
  apply always_hangUp
  intro w servers now
  exact ⟨adds_cons rfl rfl, rfl⟩

theorem overlooks_handleClose (h : Handle) : (h.close : Act σ Unit).Always Overlooks :=
  framing_overlooks.handleClose overlooks_keep overlooks_hangUp h

theorem overlooks_closeSlot (slot : Option Slot) :
    (closeSlot slot : Act σ Unit).Always Overlooks :=
  framing_overlooks.closeSlot overlooks_keep overlooks_hangUp slot

theorem overlooks_replace (c c' : Connection) (h : Handle) (slot : Option Slot) (text : String) :
    (do
      followCatalog c h
      closeSlot slot
      log .info text
      keep h
      return c' : Act σ Connection).Always Overlooks :=
  framing_overlooks.bind (framing_overlooks.followCatalog fun _ => overlooks_call _ _) fun _ =>
    framing_overlooks.bind (overlooks_closeSlot slot) fun _ =>
      framing_overlooks.bind (framing_overlooks.log _ _) fun _ =>
        framing_overlooks.bind (overlooks_keep h) fun _ => framing_overlooks.pure c'

theorem overlooks_place (h : Host) (n : SessionId) (r : Role) (e : Election) :
    (place h n r e : Act σ Election).Always Overlooks := by
  have closes (x : Handle) (c : Connection) :
      (do x.close; return c : Act σ Connection).Always Overlooks :=
    framing_overlooks.bind (overlooks_handleClose x) fun _ => framing_overlooks.pure c
  unfold place
  dsimp only
  split
  · refine framing_overlooks.bind ?_ fun _ => framing_overlooks.pure _
    unfold bindMaster
    split
    · exact closes _ _
    · exact overlooks_replace _ _ _ _ _
  split
  · refine framing_overlooks.bind ?_ fun _ => framing_overlooks.pure _
    unfold bindReplica
    split
    · exact closes _ _
    · exact overlooks_replace _ _ _ _ _
  · refine framing_overlooks.bind (framing_overlooks.log _ _) fun _ =>
      framing_overlooks.bind ?_ fun _ => framing_overlooks.pure e
    unfold discard
    exact framing_overlooks.bind (overlooks_hangUp n) fun _ => framing_overlooks.pure ()

theorem overlooks_namedMaster (h : Host) (n : SessionId) (waiting : List Host) :
    (namedMaster d h n waiting : Act σ _).Always Overlooks :=
  framing_overlooks.namedMaster (overlooks_call _ _)

theorem overlooks_recheckReplica (c : Connection) (g : Goal) :
    (recheckReplica d c g : Act σ (Connection × Goal)).Always Overlooks := by
  have logged (level : LogLevel) (text : String) (x : Connection × Goal) :
      (do log level text; return x : Act σ _).Always Overlooks :=
    framing_overlooks.bind (framing_overlooks.log _ _) fun _ => framing_overlooks.pure x
  unfold recheckReplica
  split
  · exact framing_overlooks.pure _
  split
  swap
  · exact framing_overlooks.pure _
  refine framing_overlooks.bind (framing_overlooks.ask _) fun x => ?_
  split
  swap
  · exact framing_overlooks.pure _
  refine framing_overlooks.bind (framing_overlooks.judge (overlooks_call _ _) fun _ =>
    overlooks_note rfl) fun v => ?_
  split
  · exact framing_overlooks.bind (overlooks_keep _) fun _ =>
      framing_overlooks.bind (framing_overlooks.log _ _) fun _ =>
        framing_overlooks.bind (overlooks_closeSlot _) fun _ => framing_overlooks.pure _
  · exact framing_overlooks.pure _
  · exact logged _ _ _
  · exact logged _ _ _

theorem overlooks_reconsider (first : Bool) (e : Election) :
    (reconsider d first e : Act σ Election).Always Overlooks := by
  unfold reconsider
  dsimp only
  rw [← apply_ite (· >>= _)]
  refine framing_overlooks.bind ?_ fun x => framing_overlooks.pure _
  split
  · exact framing_overlooks.pure _
  · exact overlooks_recheckReplica _ _

theorem overlooks_order (t : Topology) (l : LoadBalance) (hosts : List Host) :
    (t.order l hosts : Act σ _).Always Overlooks := by
  have shuffles : ∀ xs : List Host, (shuffle xs : Act σ _).Always Overlooks := by
    intro xs
    induction xs with
    | nil => exact framing_overlooks.pure _
    | cons x xs ih =>
      unfold shuffle
      refine framing_overlooks.bind ih fun ys => framing_overlooks.bind ?_ fun k =>
        framing_overlooks.pure _
      exact fun w => ⟨adds_of_eq rfl, rfl⟩
  unfold Topology.order
  split_ifs
  · exact shuffles hosts
  · exact framing_overlooks.pure _

end Overlooks

/-! ## One attempt -/

/-- A session was opened to the host and asked for its role, and the failure of the host was
forgotten. What comes of it is up to the verdict. -/
structure World.Asks (x : Endpoint) (h : Host) (n : SessionId) (v : Verdict) (w w' : World σ) :
    Prop where
  reports : ∃ entries, w'.journal = entries.reverse ++ w.journal ∧ ∀ later,
    attemptsAt x (entries ++ later) =
      (if h.toEndpoint = x then [v.failure n later] else []) ++ attemptsAt x later
  blacklist : w'.blacklist.get? x = if x = h.toEndpoint then none else w.blacklist.get? x

section Attempts

variable [Cluster σ] {d : Deployment} {x : Endpoint} {h : Host} {n : SessionId} {w w₁ : World σ}
  {stuck : World σ → Prop}

omit [Cluster σ] in
/-- A host that was tried in vain is blacklisted. -/
theorem settles_blacklist
    (hr : w.Reports x (if h.toEndpoint = x then [some w₁.now] else []) w₁)
    (hb : h.toEndpoint ≠ x → w₁.blacklist.get? x = w.blacklist.get? x) :
    (Act.blacklist h).Meets w₁ (fun _ w' => w.Settles x w') stuck := by
  refine ⟨_, hr, ?_⟩
  change (w₁.blacklist.record h.toEndpoint w₁.now w₁.now).get? x = _
  rw [Blacklist.get?_record]
  by_cases hx : h.toEndpoint = x
  · subst hx
    rw [if_pos rfl, if_pos rfl, settled_singleton, Nat.sub_self, Nat.sub_zero]
    rfl
  · rw [if_neg (Ne.symm hx), if_neg hx, hb hx, settled_nil]

/-- What is known once the session of an attempt was asked for its role. -/
theorem meets_judge_asks {t : Nat} (hj : w₁.journal = ⟨t, .opened h n⟩ :: w.journal)
    (hb : w₁.blacklist.get? x = if x = h.toEndpoint then none else w.blacklist.get? x) :
    (d.config.topology.judge d.connectTimeout h n).Meets w₁ (fun v w' => w.Asks x h n v w')
      stuck := by
  refine meets_judged fun v w' hv => ?_
  cases hv with
  | declared r _ =>
    refine ⟨⟨[⟨t, .opened h n⟩, ⟨w₁.now, .judged n (.role r)⟩], ?_, ?_⟩, hb⟩
    · simp [noting, hj]
    · intro later
      simp [attemptsAt, failureOf, Event.verdictOn]
  | @probed v reply servers now _ _ _ =>
    refine ⟨⟨[⟨t, .opened h n⟩, ⟨w₁.now, .called n (.query roleProbe) reply⟩, ⟨now, .judged n v⟩],
      ?_, ?_⟩, hb⟩
    · simp [noting, hj]
    · intro later
      simp [attemptsAt, failureOf, Event.verdictOn]

omit [Cluster σ] in
/-- A session in a role is no failure, whatever becomes of it. -/
theorem World.Asks.overlooks {r : Role} {w₂ : World σ} (ha : w.Asks x h n (.role r) w₁)
    (hw : w₁.Overlooks w₂) : w.Settles x w₂ := by
  obtain ⟨entries, hj, hentries⟩ := ha.reports
  have hr : w.Reports x (if h.toEndpoint = x then [none] else []) w₁ := ⟨entries, hj, hentries⟩
  refine ⟨_, hr.trans hw.adds.reports, ?_⟩
  rw [List.append_nil, hw.blacklist, ha.blacklist]
  by_cases hx : h.toEndpoint = x
  · rw [if_pos hx, if_pos hx.symm, settled_singleton]
    rfl
  · rw [if_neg hx, if_neg (Ne.symm hx), settled_nil]

/-- A session without a role is hung up, and its host blacklisted. -/
theorem World.Asks.drop {v : Verdict} {a : α} (ha : w.Asks x h n v w₁) (hv : ∀ r, v ≠ .role r) : (do
    discard (hangUp n)
    Act.blacklist h
    return a : Act σ α).Meets w₁ (fun _ w' => w.Settles x w') stuck := by
  obtain ⟨entries, hj, hentries⟩ := ha.reports
  refine meets_bind (m := fun _ w' => w'.blacklist = w₁.blacklist ∧
    w.Reports x (if h.toEndpoint = x then [some w'.now] else []) w')
    (meets_discard (meets_hangUp_of fun wait o servers _ => ?_)) ?_
  · refine ⟨rfl, entries ++ [⟨w₁.now + wait, .closed n⟩], ?_, ?_⟩
    · simp [noting, hj]
    · intro later
      have hfailure : v.failure n (⟨w₁.now + wait, .closed n⟩ :: later) = some (w₁.now + wait) := by
        cases v with
        | role r => exact absurd rfl (hv r)
        | failed e => simp [Verdict.failure, Entry.closingOf]
        | unanswered => simp [Verdict.failure, Entry.closingOf]
      rw [List.append_assoc, List.singleton_append, hentries, hfailure]
      rfl
  · rintro _ w₂ ⟨hb, hr⟩
    refine meets_bind (settles_blacklist hr fun hx => ?_) fun _ _ hw => meets_pure hw
    rw [hb, ha.blacklist, if_neg (Ne.symm hx)]

/-- Each attempt settles what is known of its host, and of no other one. What is done with a session
in a role has nothing to do with it. -/
theorem settles_tryHost (h : Host) (waiting : List Host) (e : Election) :
    (tryHost d h waiting e : Act σ _).Always (Settles x) := by
  refine always_of_meets fun w => ?_
  unfold tryHost
  refine meets_bind (m := fun o w₁ => w₁.blacklist = w.blacklist ∧
    (∀ a, o = .error a → w.Reports x (if h.toEndpoint = x then [some w₁.now] else []) w₁) ∧
    ∀ n, o = .ok n → ∃ t, w₁.journal = ⟨t, .opened h n⟩ :: w.journal)
    (meets_connect_of ?_ fun wait servers _ => ?_) ?_
  · intro wait a servers _
    refine ⟨rfl, ?_, by rintro n ⟨⟩⟩
    intro _ _
    exact ⟨[⟨w.now + wait, .refused h a⟩], rfl, fun _ => rfl⟩
  · refine ⟨rfl, by rintro a ⟨⟩, ?_⟩
    rintro _ ⟨⟩
    exact ⟨_, rfl⟩
  rintro (a | n) w₁ ⟨hb, hrefused, hopened⟩ <;> dsimp only
  · have hr := hrefused a rfl
    refine meets_bind (m := fun _ w' => w' = _) (meets_change rfl) fun _ w₂ h₂ => ?_
    subst h₂
    exact meets_bind (settles_blacklist hr fun _ => by rw [← hb]) fun _ _ hw => meets_pure hw
  obtain ⟨t, hj⟩ := hopened n rfl
  refine meets_bind meets_forgive ?_
  rintro _ w₂ ⟨hj₂, hb₂⟩
  refine meets_bind (meets_judge_asks (hj₂.trans hj) (hb ▸ hb₂ x)) ?_
  rintro (r | a | _) w₃ h₃ <;> dsimp only
  · have rest : (do
        log .debug s!"{h.text} classified as {r.name}"
        let named ← if r = .replica && e.goal.wantsMaster then namedMaster d h n waiting
          else pure none
        return (← place h n r e, named) : Act σ _).Always Overlooks := by
      have placed (named : Option Endpoint) :
          (do return (← place h n r e, named) : Act σ _).Always Overlooks :=
        framing_overlooks.bind (overlooks_place h n r e) fun _ => framing_overlooks.pure _
      refine framing_overlooks.bind (framing_overlooks.log _ _) fun _ => ?_
      split
      · exact framing_overlooks.bind (overlooks_namedMaster h n waiting) placed
      · exact placed none
    exact (rest.meets w₃).mono (fun _ _ => h₃.overlooks) fun _ => h₃.overlooks
  · refine meets_bind (m := fun _ w' => w' = _) (meets_change rfl) fun _ w₄ h₄ => ?_
    subst h₄
    exact World.Asks.drop ⟨h₃.reports, h₃.blacklist⟩ fun r hr => by cases hr
  · exact h₃.drop fun r hr => by cases hr

theorem settles_sweep : ∀ (waiting : List Host) (e : Election),
    (sweep d waiting e : Act σ _).Always (Settles x)
  | [], e => by
    unfold sweep
    exact (framing_settles x).pure _
  | h :: waiting, e => by
    unfold sweep
    refine (framing_settles x).bind (settles_tryHost h waiting e) fun y => ?_
    obtain ⟨e', named⟩ := y
    dsimp only
    split_ifs
    · exact (framing_settles x).bind ((framing_settles x).log _ _) fun _ =>
        (framing_settles x).pure _
    · exact (framing_settles x).pure _
    · exact settles_sweep _ _
termination_by waiting => waiting.length
decreasing_by simp [length_bringForward]

end Attempts

/-! ## One pass -/

/-- The pass looks the endpoint up when it begins, and a failure of this instant is too old by
then. -/
def Round.Drops (d : Deployment) (p : Round σ) (x : Endpoint) (since : Nat) : Prop :=
  (∃ h ∈ d.unbound p.election.connection, h.toEndpoint = x) ∧
    d.config.failover.blacklistTimeout ≤ p.world.now - since

instance {d : Deployment} {p : Round σ} {x : Endpoint} {since : Nat} :
    Decidable (p.Drops d x since) :=
  inferInstanceAs (Decidable (_ ∧ _))

/-- The attempts at an endpoint in the pass. -/
def Round.attemptsAt [Cluster σ] (d : Deployment) (p : Round σ) (x : Endpoint) :
    List (Option Nat) :=
  Failover.attemptsAt x (p.world.entriesSince (p.run d).2)

/-- What the pass leaves of a failure. -/
def Round.leaves [Cluster σ] (d : Deployment) (x : Endpoint) (failure : Option Failure)
    (p : Round σ) : Option Failure :=
  settled x (p.attemptsAt d x) (failure.filter fun f => ¬p.Drops d x f.since)

/-- The attempts at an endpoint were those in the passes, and they settled what the blacklist says
of it. -/
structure World.Passes [Cluster σ] (d : Deployment) (x : Endpoint) (ps : List (Round σ))
    (w w' : World σ) : Prop where
  reports : w.Reports x (ps.flatMap (·.attemptsAt d x)) w'
  blacklist : w'.blacklist.get? x = ps.foldl (Round.leaves d x) (w.blacklist.get? x)

section Pass

variable {d : Deployment} {x : Endpoint} {stuck : World σ → Prop}

/-- The hosts are looked up one after another, all at the same instant. -/
theorem meets_splitExcluded_get? {timeout : Nat} : ∀ {hosts : List Host} {w : World σ},
    (splitExcluded timeout hosts).Meets w (fun _ w' => w'.journal = w.journal ∧ w'.now = w.now ∧
      ∀ f, w'.blacklist.get? x = some f ↔ w.blacklist.get? x = some f ∧
        ¬((∃ h ∈ hosts, h.toEndpoint = x) ∧ timeout ≤ w.now - f.since)) stuck
  | [], w => meets_pure ⟨rfl, rfl, fun f => by simp⟩
  | h :: rest, w => by
    unfold splitExcluded
    refine meets_bind (m := fun _ w' => w'.journal = w.journal ∧ w'.now = w.now ∧
      ∀ f, w'.blacklist.get? x = some f ↔ w.blacklist.get? x = some f ∧
        ¬(h.toEndpoint = x ∧ timeout ≤ w.now - f.since)) ?_ ?_
    · exact ⟨rfl, rfl, fun _ => Blacklist.get?_lookup_iff⟩
    rintro _ w₁ ⟨hj₁, hnow₁, hb₁⟩
    refine meets_bind meets_splitExcluded_get? ?_
    rintro _ w₂ ⟨hj₂, hnow₂, hb₂⟩
    refine meets_pure ⟨hj₂.trans hj₁, hnow₂.trans hnow₁, fun f => ?_⟩
    have hcons : (∃ h' ∈ h :: rest, h'.toEndpoint = x) ↔
        h.toEndpoint = x ∨ ∃ h' ∈ rest, h'.toEndpoint = x := by simp
    rw [hb₂, hb₁, hnow₁, hcons, or_and_right, not_or, and_assoc]

variable [Cluster σ]

/-- Putting the hosts in order drops what is too old, and changes nothing else. -/
theorem always_passOrder (e : Election) : (passOrder d e.connection : Act σ _).Always fun w w' =>
    w.Reports x [] w' ∧ w'.blacklist.get? x = (w.blacklist.get? x).filter fun f =>
      ¬(⟨e, w⟩ : Round σ).Drops d x f.since := by
  refine always_of_meets fun w => ?_
  unfold passOrder
  refine meets_bind (meets_splitExcluded_get? (x := x)) ?_
  rintro ⟨fresh, excluded⟩ w₁ ⟨hj, -, hb⟩
  have drops {w₂ : World σ} (hw : w₁.Overlooks w₂) : w.Reports x [] w₂ ∧
      w₂.blacklist.get? x = (w.blacklist.get? x).filter fun f =>
        ¬(⟨e, w⟩ : Round σ).Drops d x f.since := by
    refine ⟨Reports.trans (adds_of_eq hj).reports hw.adds.reports, Option.ext fun f => ?_⟩
    rw [hw.blacklist, hb]
    simp [Option.filter_eq_some_iff, Round.Drops, Deployment.unbound]
  exact ((framing_overlooks.bind (overlooks_order _ _ fresh) fun hs =>
    framing_overlooks.pure (hs ++ excluded)).meets w₁).mono (fun _ _ => drops) fun _ => drops

theorem Round.passes (p : Round σ) : p.world.Passes d x [p] (p.run d).2 := by
  have hpass : (onePass d p.election).Always fun w w' => ∃ outcomes, w.Reports x outcomes w' ∧
      w'.blacklist.get? x = settled x outcomes ((w.blacklist.get? x).filter fun f =>
        ¬(⟨p.election, w⟩ : Round σ).Drops d x f.since) := by
    refine always_of_meets fun w => ?_
    unfold onePass
    refine meets_bind (((always_passOrder p.election).meets w).mono (fun _ _ h => h)
      fun _ ⟨hr, hb⟩ => ⟨[], hr, hb⟩) ?_
    rintro order w₁ ⟨hr₁, hb₁⟩
    have settles {w₂ : World σ} (h : w₁.Settles x w₂) : ∃ outcomes, w.Reports x outcomes w₂ ∧
        w₂.blacklist.get? x = settled x outcomes ((w.blacklist.get? x).filter fun f =>
          ¬(⟨p.election, w⟩ : Round σ).Drops d x f.since) := by
      obtain ⟨outcomes, hr₂, hb₂⟩ := h
      exact ⟨outcomes, hr₁.trans hr₂, by rw [hb₂, hb₁]⟩
    exact ((settles_sweep order p.election).meets w₁).mono (fun _ _ => settles) fun _ => settles
  obtain ⟨outcomes, hr, hb⟩ := hpass p.world
  obtain rfl : p.attemptsAt d x = outcomes := hr.attemptsAt
  exact ⟨by rwa [List.flatMap_singleton], hb⟩

end Pass

/-! ## The passes in a row -/

section Election

variable [Cluster σ] {d : Deployment} {x : Endpoint} {u v w : World σ} {ps qs : List (Round σ)}

theorem World.Overlooks.passes (h : u.Overlooks v) : u.Passes d x [] v :=
  ⟨h.adds.reports, by rw [h.blacklist]; rfl⟩

theorem World.Passes.trans (h : u.Passes d x ps v) (h' : v.Passes d x qs w) :
    u.Passes d x (ps ++ qs) w :=
  ⟨by simpa using h.reports.trans h'.reports, by rw [h'.blacklist, h.blacklist, List.foldl_append]⟩

theorem World.Passes.andThen {y : Act σ α} {g : α → Act σ β} (h : w.Passes d x ps (y w).2)
    (hg : ∀ a, (g a).Always Overlooks) : w.Passes d x ps ((y >>= g) w).2 := by
  rw [bind_apply]
  rcases hy : y w with ⟨_ | a, w'⟩ <;> rw [hy] at h
  · exact h
  · exact List.append_nil ps ▸ h.trans (hg a w').passes

theorem passes_roundsFrom (n : Nat) (first : Bool) (e : Election) (w : World σ) :
    w.Passes d x (roundsFrom d first n e w) (passes d first n e w).2 := by
  induction n generalizing first e w with
  | zero => exact (framing_overlooks.refl w).passes
  | succ n ih =>
    obtain ⟨asked, p, hasks, -⟩ := exists_begins (d := d) first e w
    have hbegins : w.Passes d x [] p.world := by
      have hw := overlooks_reconsider (d := d) first e w
      rw [hasks] at hw
      exact hw.passes
    have hround : w.Passes d x [p] (p.run d).2 := hbegins.trans p.passes
    rw [passes_succ, bind_apply, roundsFrom, hasks]
    dsimp only
    split
    · exact hbegins
    rw [bind_apply]
    rcases hrun : onePass d p.election p.world with ⟨_ | ⟨e', _ | _⟩, w'⟩
    all_goals
      have hrun' : p.run d = _ := hrun
      rw [hrun'] at hround
    · exact hround
    · dsimp only
      cases (d.unbound p.election.connection).isEmpty with
      | true => exact hround
      | false => exact hround.trans (ih false e' w')
    · exact hround

/-- The blacklist after an election follows from its passes. -/
theorem passes_elect (d : Deployment) (c : Connection) (g : Goal) (w : World σ) (x : Endpoint) :
    w.Passes d x (rounds d c g w) (elect d c g w).2 := by
  unfold elect rounds
  have hlog := framing_overlooks.logs w ⟨.debug, s!"Starting election with {g.text}"⟩
  rw [bind_apply]
  cases hc : c.closed with
  | true => exact hlog.passes
  | false =>
    cases hup : !c.masterDown && !c.replicaDown with
    | true => exact hlog.passes
    | false =>
      refine hlog.passes.trans ((passes_roundsFrom _ true _ _).andThen fun y => ?_)
      dsimp only
      split
      · exact framing_overlooks.pure _
      · exact framing_overlooks.bind (framing_overlooks.log _ _) fun _ => framing_overlooks.pure _

end Election

/-! ## What is left of a host -/

/-- What is left of a host in the blacklist after some passes. -/
structure Aftermath [Cluster σ] (d : Deployment) (x : Endpoint) (ps : List (Round σ))
    (w w' : World σ) : Prop where
  /-- The host is tried in the passes only. -/
  attempts : attemptsAt x (w.entriesSince w') = ps.flatMap (·.attemptsAt d x)
  /-- A host that was tried is blacklisted if its last attempt failed, since the instant of that
  failure, unless this was too old when a later pass looked the host up. -/
  tried : ∀ last, (attemptsAt x (w.entriesSince w')).getLast? = some last →
    ∃ before p after, ps = before ++ p :: after ∧ (p.attemptsAt d x).getLast? = some last ∧
      (∀ q ∈ after, q.attemptsAt d x = []) ∧ ∀ f, w'.blacklist.get? x = some f ↔
        ∃ t, last = some t ∧ f = ⟨x, t, t⟩ ∧ ∀ q ∈ after, ¬q.Drops d x t
  /-- A host that was not tried is blacklisted as before, unless its failure was too old when a pass
  looked the host up. -/
  untried : attemptsAt x (w.entriesSince w') = [] → ∀ f, w'.blacklist.get? x = some f ↔
    w.blacklist.get? x = some f ∧ ∀ p ∈ ps, ¬p.Drops d x f.since
  /-- A host that has a live session in each pass, or is none of the configured ones, is not tried,
  and nothing becomes of it. -/
  passedOver : (∀ p ∈ ps, ∀ h ∈ d.unbound p.election.connection, h.toEndpoint ≠ x) →
    attemptsAt x (w.entriesSince w') = [] ∧ w'.blacklist.get? x = w.blacklist.get? x

section Aftermath

variable [Cluster σ] {d : Deployment} {x : Endpoint} {ps : List (Round σ)} {w w' : World σ}

/-- A host that is not tried in a pass can only be dropped in it. -/
theorem foldl_leaves_of_untried {failure : Option Failure} {f : Failure}
    (hps : ∀ p ∈ ps, p.attemptsAt d x = []) : ps.foldl (Round.leaves d x) failure = some f ↔
      failure = some f ∧ ∀ p ∈ ps, ¬p.Drops d x f.since := by
  induction ps generalizing failure with
  | nil => simp
  | cons p ps ih =>
    obtain ⟨hp, hrest⟩ := List.forall_mem_cons.1 hps
    have hleaves : Round.leaves d x failure p = some f ↔
        failure = some f ∧ ¬p.Drops d x f.since := by
      unfold Round.leaves
      rw [hp, settled_nil, Option.filter_eq_some_iff, decide_eq_true_eq]
    rw [List.foldl_cons, ih hrest, hleaves, List.forall_mem_cons, and_assoc]

/-- The pass of the last attempt. -/
theorem exists_last_of_flatMap {ι : Type} {outcomes : ι → List (Option Nat)} {last : Option Nat} :
    ∀ {xs : List ι}, (xs.flatMap outcomes).getLast? = some last → ∃ before p after,
      xs = before ++ p :: after ∧ (outcomes p).getLast? = some last ∧ ∀ q ∈ after, outcomes q = []
  | [], h => nomatch h
  | p :: xs, h => by
    rw [List.flatMap_cons, List.getLast?_append] at h
    cases hrest : (xs.flatMap outcomes).getLast? with
    | none =>
      rw [hrest, Option.none_or] at h
      exact ⟨[], p, xs, rfl, h, List.flatMap_eq_nil_iff.1 (List.getLast?_eq_none_iff.1 hrest)⟩
    | some last' =>
      rw [hrest, Option.some_or] at h
      obtain ⟨before, q, after, rfl, hq⟩ := exists_last_of_flatMap (hrest.trans h)
      exact ⟨p :: before, q, after, rfl, hq⟩

theorem Round.attemptsAt_of_bound {p : Round σ} (ho : p.election.connection.closed = false)
    (hx : ∀ h ∈ d.unbound p.election.connection, h.toEndpoint ≠ x) : p.attemptsAt d x = [] := by
  obtain ⟨ts, left, haccount⟩ := p.exists_account (d := d) ho
  obtain ⟨order, -, -, htour⟩ := haccount.follows
  have htried : hostsTried (p.events d) = ts.map Try.host := by
    rw [haccount.events, htour.hostsTried]
  unfold attemptsAt
  rw [attemptsAt_eq_nil_iff, map_entriesSince]
  intro h hh
  obtain ⟨t, ht, rfl⟩ := List.mem_map.1 (htried ▸ hh)
  exact hx _ (haccount.listed t ht)

theorem World.Passes.aftermath (h : w.Passes d x ps w')
    (ho : ∀ p ∈ ps, p.election.connection.closed = false) : Aftermath d x ps w w' := by
  have hattempts := h.reports.attemptsAt
  have untried (hnone : attemptsAt x (w.entriesSince w') = []) (f : Failure) :
      w'.blacklist.get? x = some f ↔
        w.blacklist.get? x = some f ∧ ∀ p ∈ ps, ¬p.Drops d x f.since := by
    rw [hattempts, List.flatMap_eq_nil_iff] at hnone
    rw [h.blacklist, foldl_leaves_of_untried hnone]
  refine ⟨hattempts, ?_, untried, ?_⟩
  · intro last hlast
    rw [hattempts] at hlast
    obtain ⟨before, p, after, rfl, hp, hafter⟩ := exists_last_of_flatMap hlast
    refine ⟨before, p, after, rfl, hp, hafter, ?_⟩
    intro f
    have hleaves (failure : Option Failure) :
        Round.leaves d x failure p = last.map fun t => ⟨x, t, t⟩ := by
      unfold Round.leaves settled
      rw [hp]
    rw [h.blacklist, List.foldl_append, List.foldl_cons, foldl_leaves_of_untried hafter, hleaves,
      Option.map_eq_some_iff]
    constructor
    · rintro ⟨⟨t, rfl, rfl⟩, hkept⟩
      exact ⟨t, rfl, rfl, hkept⟩
    · rintro ⟨t, rfl, rfl, hkept⟩
      exact ⟨⟨t, rfl, rfl⟩, hkept⟩
  · intro hbound
    have hnone : attemptsAt x (w.entriesSince w') = [] := by
      rw [hattempts, List.flatMap_eq_nil_iff]
      exact fun p hp => Round.attemptsAt_of_bound (ho p hp) (hbound p hp)
    refine ⟨hnone, Option.ext ?_⟩
    intro f
    rw [untried hnone f]
    refine and_iff_left_of_imp ?_
    rintro - p hp ⟨⟨y, hy, hyx⟩, -⟩
    exact hbound p hp y hy hyx

/-- Whatever the servers do, what an election leaves of a host in the blacklist follows from the
last attempt at it, and from the passes that looked it up since. -/
theorem failures_after_election (d : Deployment) (c : Connection) (g : Goal) (w : World σ)
    (x : Endpoint) : Aftermath d x (rounds d c g w) w (elect d c g w).2 := by
  refine (passes_elect d c g w x).aftermath fun p hp => ?_
  obtain ⟨hopen, -, w', events, y, hcampaign⟩ := campaign_of_mem hp
  exact hcampaign.stays_open hopen p hp

end Aftermath

/-- A cluster with a blacklist that forgets fast. -/
def forgetful : Deployment :=
  { fleet with config := { fleet.config with
      failover := { retriesAllDown := 2, blacklistTimeout := 1000 } } }

/-- The master fails the next connect, one replica is down, and the other one does not answer. -/
def faltering : Script where
  hosts := [
    ("db1:3306", { ScriptedHost.plain with
      connectFailures := [.connectionFailed "db1:3306" "Connection reset by peer"] }),
    ("db2:3306", { ScriptedHost.plain with reachable := false }),
    ("db3:3306", { ScriptedHost.plain with stall := some "SHOW" })]

/-- The one attempt at a host fails in the first pass. When the second pass begins, that is too
long ago, and the host is dropped although it is not tried again. -/
theorem own_failure_outdated : ¬∀ (d : Deployment) (c : Connection) (g : Goal) (w : World Script)
    (x : Endpoint) (last : Option Nat),
    (attemptsAt x (w.entriesSince (elect d c g w).2)).getLast? = some last → ∀ f,
      (elect d c g w).2.blacklist.get? x = some f ↔ ∃ t, last = some t ∧ f = ⟨x, t, t⟩ := by
  intro h
  let w : World Script := { servers := faltering }
  have hlast : (attemptsAt ⟨"db2", 3306⟩
      (w.entriesSince (elect forgetful (.new true) .masterOnly w).2)).getLast? =
        some (some 0) := by
    decide +kernel
  have hnone : (elect forgetful (.new true) .masterOnly w).2.blacklist.get? ⟨"db2", 3306⟩ =
      none := by
    decide +kernel
  have hsome := (h forgetful _ _ w _ _ hlast ⟨⟨"db2", 3306⟩, 0, 0⟩).2 ⟨0, rfl, rfl⟩
  cases hnone.symm.trans hsome

end Failover
