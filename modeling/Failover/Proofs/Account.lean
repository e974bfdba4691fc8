import Failover.Proofs.Attempt
import Failover.Proofs.Course

/-!
# The account of an attempt

All that an attempt does to the servers is in the journal, and what it does to the election follows
from that: from the events of an attempt (`Try`) one reads off the host, the role it was found in,
the host that is tried next (`Try.hint`) and how the election stands after it (`Election.after`).
An attempt that never comes to an end has an account as well: its last events are those of binding
the session.
-/

namespace Failover

open Act World

variable {σ α β : Type}

/-- What was noted on the way from one world to another, oldest first. -/
def World.Notes (events : List Event) (w w' : World σ) : Prop :=
  ∃ new, w'.journal = new ++ w.journal ∧ new.map Entry.event = events.reverse

namespace World

variable {u v w : World σ} {xs ys : List Event}

theorem notes_of_eq (h : v.journal = u.journal) : u.Notes [] v := ⟨[], h, rfl⟩

theorem notes_of_cons {x : Event} {t : Nat} (h : v.journal = ⟨t, x⟩ :: u.journal) : u.Notes [x] v :=
  ⟨[⟨t, x⟩], h, rfl⟩

theorem Notes.refl (w : World σ) : w.Notes [] w := notes_of_eq rfl

theorem Notes.trans (h : u.Notes xs v) (h' : v.Notes ys w) : u.Notes (xs ++ ys) w := by
  obtain ⟨new, hj, hn⟩ := h
  obtain ⟨new', hj', hn'⟩ := h'
  exact ⟨new' ++ new, by rw [hj', hj, List.append_assoc], by simp [hn, hn']⟩

theorem Notes.since (h : u.Notes xs v) : u.since v = xs := by
  obtain ⟨new, hj, hn⟩ := h
  rw [since_eq hj, hn, List.reverse_reverse]

theorem Notes.still [Cluster σ] (h : u.Notes xs v) (hw : v.Still w) : u.Notes xs w := by
  obtain ⟨new, hj, hn⟩ := h
  exact ⟨new, by rw [hw.journal, hj], hn⟩

theorem Still.andNotes [Cluster σ] (hw : u.Still v) (h : v.Notes xs w) : u.Notes xs w :=
  List.nil_append xs ▸ (notes_of_eq hw.journal).trans h

theorem Adds.notes {kind : Event → Prop} (h : u.Adds kind v) :
    ∃ xs, u.Notes xs v ∧ ∀ x ∈ xs, kind x := by
  obtain ⟨new, hj, hn⟩ := h
  refine ⟨(new.map Entry.event).reverse, ⟨new, hj, (List.reverse_reverse _).symm⟩, ?_⟩
  intro x hx
  obtain ⟨e, he, rfl⟩ := List.mem_map.1 (List.mem_reverse.1 hx)
  exact hn e he

end World

/-- A session that was asked for its role, with the reply to the probe if one was sent. -/
structure Question where
  session : SessionId
  probe : Option Reply
  verdict : Verdict

def Question.events (q : Question) : List Event :=
  (q.probe.map (.called q.session (.query roleProbe))).toList ++ [.judged q.session q.verdict]

/-- What came of trying a host. -/
inductive Try
  | refused (host : Host) (e : Error)
  /-- A session was opened and asked for its role, and the master was looked up on it if need be.
  The rest is what was done to bind the session or to close it. -/
  | met (host : Host) (asked : Question) (lookup : Option Reply) (rest : List Event)

/-- The session in a slot is closed. -/
def Event.Ousts (slot : Option Slot) (e : Event) : Prop :=
  ∃ s, slot = some s ∧ e = .closed s.session

/-- What is done to bind a session: it is put on the database of the connection, and the one that
was in the slot is closed. -/
inductive Event.Binds (n : SessionId) (slot : Option Slot) : Event → Prop
  | selects (sql : String) (reply : Reply) : Binds n slot (.called n (.execute sql) reply)
  | ousts {e : Event} (h : e.Ousts slot) : Binds n slot e

/-- The host that a reply to the lookup names, if it comes in time. -/
def Reply.named (d : Deployment) : Reply → Option Host
  | .answer wait (.ok r) =>
    if wait ≤ d.connectTimeout then
      (lookupName r).bind fun name => d.hosts.find? (·.isLabelled name)
    else none
  | _ => none

namespace Try

def host : Try → Host
  | refused h _ | met h _ _ _ => h

/-- The role in which the host was found. -/
def role? : Try → Option Role
  | met _ { verdict := .role r, .. } _ _ => some r
  | _ => none

def events : Try → List Event
  | refused h e => [.refused h e]
  | met h q lookup rest => .opened h q.session :: (q.events ++
      (lookup.map (.called q.session (.query masterLookup))).toList ++ rest)

/-- The address of the host that is tried next if it waits. -/
def hint (d : Deployment) : Try → Option Endpoint
  | refused _ _ => none
  | met _ _ lookup _ => (lookup.bind (·.named d)).map Host.toEndpoint

end Try

section Events

variable {f : Event → Option β} (calls : ∀ n r reply, f (.called n r reply) = none)

include calls

/-- Calls aside, a question is one event. -/
theorem Question.filterMap_events (q : Question) :
    q.events.filterMap f = (f (.judged q.session q.verdict)).toList := by
  rcases q with ⟨n, _ | reply, v⟩ <;> cases hf : f (.judged n v) <;> simp [events, calls, hf]

/-- Calls aside, an attempt opens a session and asks for its role, before the rest. -/
theorem Try.filterMap_met (h : Host) (q : Question) (lookup : Option Reply) (rest : List Event) :
    (Try.met h q lookup rest).events.filterMap f = (f (.opened h q.session)).toList ++
      (f (.judged q.session q.verdict)).toList ++ rest.filterMap f := by
  have hlookup :
      (lookup.map (.called q.session (.query masterLookup))).toList.filterMap f = [] := by
    cases lookup <;> simp [calls]
  unfold events
  rw [List.filterMap_cons, List.filterMap_append, List.filterMap_append, q.filterMap_events calls,
    hlookup]
  cases f (.opened h q.session) <;> simp

end Events

/-- How an election stands after an attempt: a session in a role that is wanted is bound. -/
def Election.after (e : Election) : Try → Election
  | .refused _ x => { e with lastFailure := some x }
  | .met h q _ _ =>
    match q.verdict with
    | .role r =>
      if e.goal.wants r then
        { e with connection := e.connection.fill r ⟨h, q.session⟩, goal := e.goal.found r }
      else e
    | .failed x => { e with lastFailure := some x }
    | .unanswered => { e with lastFailure := some (.connectionTimeout h.text) }

@[simp] theorem Election.closed_after (e : Election) (t : Try) :
    (e.after t).connection.closed = e.connection.closed := by
  rcases t with ⟨h, x⟩ | ⟨h, ⟨n, probe, r | x | _⟩, lookup, rest⟩ <;> try rfl
  unfold after
  dsimp only
  split
  · exact Connection.closed_fill _ _ _
  · rfl

/-- What happens to a session that was asked for its role: it is bound if the role is wanted, and
hung up if not. -/
structure Treated (e : Election) (n : SessionId) (v : Verdict) (rest : List Event) : Prop where
  bound : ∀ r, v = .role r → e.goal.wants r = true →
    ∀ x ∈ rest, x.Binds n (e.connection.slot? r)
  hungUp : (∀ r, v = .role r → e.goal.wants r = false) → rest = [.closed n]

/-- An attempt as an election makes it. Only a replica is asked for the master, and only when one
is wanted. -/
inductive Try.Fits (d : Deployment) (e : Election) : Try → Prop
  | refused (h : Host) (x : Error) : Fits d e (.refused h x)
  | met (h : Host) (q : Question) (lookup : Option Reply) (rest : List Event)
      (looks : lookup.isSome = true ↔ d.config.topology = .aurora ∧
        q.verdict = .role .replica ∧ e.goal.wantsMaster = true)
      (treated : Treated e q.session q.verdict rest) : Fits d e (.met h q lookup rest)

/-- What asking the live replica again comes to: there is none to be asked, or it has another role
than a master, or it has become the master. -/
inductive Reasked (e : Election) : List Event → Election → Prop
  | idle : Reasked e [] e
  | stays (s : Slot) (q : Question) (replica : e.connection.replica = some s)
      (session : q.session = s.session) (verdict : q.verdict ≠ .role .master) :
      Reasked e q.events e
  | promoted (s : Slot) (q : Question) (rest : List Event) (down : e.connection.masterDown = true)
      (replica : e.connection.replica = some s) (session : q.session = s.session)
      (verdict : q.verdict = .role .master) (ousts : ∀ x ∈ rest, x.Ousts e.connection.master) :
      Reasked e (q.events ++ rest)
        { e with connection := e.connection.promote s, goal := e.goal.masterFound }

/-- The first host that is named goes to the front, and the others keep their order. -/
inductive Reordered (named : Option Endpoint) : List Host → List Host → Prop
  | same {waiting : List Host} (absent : ∀ x ∈ waiting, some x.toEndpoint ≠ named) :
      Reordered named waiting waiting
  | moved {before behind : List Host} {h : Host} (first : ∀ x ∈ before, some x.toEndpoint ≠ named)
      (is : some h.toEndpoint = named) :
      Reordered named (before ++ h :: behind) (h :: (before ++ behind))

section Reordered

variable {named : Option Endpoint} {waiting queue : List Host}

theorem reordered_bringForward (named : Option Endpoint) (waiting : List Host) :
    Reordered named waiting (bringForward named waiting) := by
  unfold bringForward
  split
  next h hf =>
    obtain ⟨hp, before, behind, rfl, hfirst⟩ := List.find?_eq_some_iff_append.1 hf
    have hb : ∀ x ∈ before, some x.toEndpoint ≠ named := by simpa using hfirst
    have hh : some h.toEndpoint = named := by simpa using hp
    rw [List.eraseP_append_right _ (by simpa using hb), List.eraseP_cons_of_pos (by simpa using hh)]
    exact .moved hb hh
  next hf => exact .same (by simpa using hf)

theorem Reordered.perm (h : Reordered named waiting queue) : queue.Perm waiting := by
  cases h with
  | same _ => exact .refl _
  | moved _ _ => exact List.perm_middle.symm

/-- Without a name nothing moves. -/
theorem Reordered.eq_of_none (h : Reordered none waiting queue) : queue = waiting := by
  cases h with
  | same _ => rfl
  | moved _ is => cases is

end Reordered

section Accounts

variable [Cluster σ] {d : Deployment} {h : Host} {n : SessionId} {w : World σ} {e : Election}

theorem meets_judge_account {t : Topology} {limit : Nat} {post : Verdict → World σ → Prop}
    {stuck : World σ → Prop}
    (hp : ∀ (q : Question) w', q.session = n → w.Notes q.events w' → post q.verdict w') :
    (t.judge limit h n).Meets w post stuck := by
  refine meets_judged fun v w' hv => ?_
  cases hv with
  | declared r _ => exact hp ⟨n, none, .role r⟩ _ rfl (notes_of_cons rfl)
  | @probed v reply servers now _ _ _ =>
    exact hp ⟨n, some reply, v⟩ _ rfl
      ((notes_of_cons (v := { w.noting (.called n (.query roleProbe) reply) with
        servers := servers, now := now }) rfl).trans (notes_of_cons rfl))

/-- What comes of looking the master up for so long. -/
theorem meets_lookup : (within d.connectTimeout
    (d.config.topology.reportedMaster n d.hosts)).Meets w (fun x w' => ∃ lookup : Option Reply,
      w.Notes (lookup.map (.called n (.query masterLookup))).toList w' ∧
      (lookup.isSome = true ↔ d.config.topology = .aurora) ∧
      lookup.bind (·.named d) = match x with
        | some (.ok master) => master
        | _ => none) fun _ => False := by
  refine meets_within ?_
  unfold Topology.reportedMaster
  split
  next ht =>
    have noted (reply : Reply) (servers : σ) (now : Nat) : w.Notes
        ((some reply).map (.called n (.query masterLookup))).toList
        { w.noting (.called n (.query masterLookup) reply) with servers := servers, now := now } :=
      notes_of_cons rfl
    refine meets_bind (m := fun result w' => ∃ wait servers,
      w' = { w.noting (.called n (.query masterLookup) (.answer wait result)) with
        servers := servers, now := w.now + wait })
      (meets_call (fun wait result servers _ => ⟨wait, servers, rfl⟩) fun servers _ => ?_) ?_
    · exact ⟨some .silence, noted _ _ _, by simp [ht], rfl⟩
    rintro (x | r) w' ⟨wait, servers, rfl⟩
    · apply meets_pure
      constructor
      · intro _
        exact ⟨_, noted _ _ _, by simp [ht], rfl⟩
      · intro _
        exact ⟨_, noted _ _ _, by simp [ht], rfl⟩
    · apply meets_pure
      constructor
      · intro htime
        refine ⟨_, noted _ _ _, by simp [ht], ?_⟩
        simp [Reply.named, Nat.le_of_add_le_add_left htime]
      · intro htime
        refine ⟨_, noted _ _ _, by simp [ht], ?_⟩
        simp [Reply.named, Nat.not_le.2 (Nat.lt_of_add_lt_add_left htime)]
  next ht =>
    apply meets_pure
    constructor
    · intro _
      exact ⟨none, Notes.refl w, by simpa using ht, rfl⟩
    · intro htime
      exact absurd htime (Nat.not_lt.2 (Nat.le_add_right _ _))

/-- A replica is asked for the master only where it can name it, and a host that does not wait is
named to no effect. -/
theorem meets_namedMaster_account {waiting : List Host} {stuck : World σ → Prop} :
    (namedMaster d h n waiting).Meets w (fun named w' => ∃ lookup : Option Reply,
      w.Notes (lookup.map (.called n (.query masterLookup))).toList w' ∧
      (lookup.isSome = true ↔ d.config.topology = .aurora) ∧
      Reordered ((lookup.bind (·.named d)).map Host.toEndpoint) waiting
        (bringForward named waiting)) stuck := by
  unfold namedMaster
  refine meets_bind (meets_lookup.mono (fun _ _ h => h) fun _ h => h.elim) ?_
  rintro x w₁ ⟨lookup, hnotes, hlooks, hnamed⟩
  have unnamed (hx : lookup.bind (·.named d) = none) (w₂ : World σ) (h₂ : w₁.Still w₂) :
      ∃ lookup : Option Reply, w.Notes (lookup.map (.called n (.query masterLookup))).toList w₂ ∧
        (lookup.isSome = true ↔ d.config.topology = .aurora) ∧
        Reordered ((lookup.bind (·.named d)).map Host.toEndpoint) waiting
          (bringForward none waiting) := by
    refine ⟨lookup, hnotes.still h₂, hlooks, ?_⟩
    rw [hx]
    exact reordered_bringForward none waiting
  rcases x with _ | x | _ | master <;> dsimp only at hnamed ⊢
  · exact meets_bind_harmless (harmless_log _ _) fun _ w₂ h₂ => meets_pure (unnamed hnamed w₂ h₂)
  · exact meets_bind_harmless (harmless_log _ _) fun _ w₂ h₂ => meets_pure (unnamed hnamed w₂ h₂)
  · exact meets_pure (unnamed hnamed w₁ (Still.refl w₁))
  have hhint : (lookup.bind (·.named d)).map Host.toEndpoint = some master.toEndpoint := by
    rw [hnamed]
    rfl
  split
  next found hf =>
    have heq : found.toEndpoint = master.toEndpoint := by simpa using List.find?_some hf
    refine meets_bind_harmless (harmless_log _ _) fun _ w₂ h₂ => ?_
    refine meets_pure ⟨lookup, hnotes.still h₂, hlooks, ?_⟩
    rw [hhint, ← heq]
    exact reordered_bringForward _ waiting
  next hf =>
    refine meets_pure ⟨lookup, hnotes, hlooks, ?_⟩
    rw [hhint]
    have habsent : ∀ x ∈ waiting, some x.toEndpoint ≠ some master.toEndpoint := by simpa using hf
    have hsame := (reordered_bringForward none waiting).eq_of_none
    rw [hsame]
    exact .same habsent

theorem framing_adds (kind : Event → Prop) : Framing (World.Adds (σ := σ) kind) :=
  framing_of_still (fun h => adds_of_eq h.journal) Adds.trans fun h => h

theorem meets_closeSlot_ousts {slot : Option Slot} {stuck : World σ → Prop} :
    (closeSlot slot).Meets w (fun _ w' => w.Adds (·.Ousts slot) w') stuck := by
  cases slot with
  | none => exact meets_pure (Adds.refl w)
  | some s =>
    refine meets_closeSession_of (fun _ => Adds.refl w) ?_
    rintro x w' hx _ ⟨_, _, t, hj⟩
    refine adds_cons hj ⟨s, rfl, ?_⟩
    rw [session_of_get? hx]

/-- All that is noted while a session is bound. -/
theorem adds_bind (c : Connection) (x : Handle) (slot : Option Slot) (text : String) : (do
    followCatalog c x
    closeSlot slot
    log .info text
    keep x : Act σ Unit).Always (Adds (·.Binds x.session slot)) := by
  have hR := framing_adds (σ := σ) (·.Binds x.session slot)
  have selects (sql : String) : (call x.session (.execute sql) : Act σ _).Always
      (Adds (·.Binds x.session slot)) := by
    apply always_call
    intro w reply servers now
    exact adds_cons rfl (.selects sql reply)
  have closes : (closeSlot slot : Act σ _).Always (Adds (·.Binds x.session slot)) :=
    always_of_meets fun w => meets_closeSlot_ousts.mono (fun _ _ h => h.mono fun _ => .ousts)
      fun _ h => h
  exact hR.bind (hR.followCatalog selects) fun _ => hR.bind closes fun _ =>
    hR.bind (hR.log _ _) fun _ => always_change fun w => adds_of_eq rfl

theorem meets_place_account {r : Role} {q : Question} (lookup : Option Reply)
    (ho : e.connection.closed = false) (hv : q.verdict = .role r) (hn : q.session = n) :
    (place h n r e).Meets w
      (fun x w' => ∃ rest, w.Notes rest w' ∧ Treated e n (.role r) rest ∧
        x = e.after (.met h q lookup rest))
      fun w' => ∃ rest, w.Notes rest w' ∧ Treated e n (.role r) rest := by
  subst hn
  have unwanted (hr : e.goal.wants r = false) : (do
      log .debug s!"{h.text} is a {r.name}, not wanted by this election"
      discard (hangUp q.session)
      return e : Act σ Election).Meets w (fun x w' => ∃ rest, w.Notes rest w' ∧
        Treated e q.session (.role r) rest ∧ x = e.after (.met h q lookup rest))
      fun w' => ∃ rest, w.Notes rest w' ∧ Treated e q.session (.role r) rest := by
    refine meets_bind_harmless (harmless_log _ _) fun _ w₁ h₁ => ?_
    refine meets_bind (m := fun _ w' => w₁.Notes [.closed q.session] w')
      (meets_discard (meets_hangUp_of fun _ _ _ _ => notes_of_cons rfl)) fun _ w₂ h₂ => ?_
    refine meets_pure ⟨_, h₁.andNotes h₂, ⟨?_, fun _ => rfl⟩, ?_⟩
    · rintro _ ⟨⟩ hw
      cases hr.symm.trans hw
    · simp [Election.after, hv, hr]
  have wanted (hr : e.goal.wants r = true) {text : String} : (do
      followCatalog e.connection { session := q.session, host := h, role := r }
      closeSlot (e.connection.slot? r)
      log .info text
      keep { session := q.session, host := h, role := r }
      return e.connection.fill r ⟨h, q.session⟩ : Act σ Connection).Meets w
      (fun c w' => c = e.connection.fill r ⟨h, q.session⟩ ∧
        ∃ rest, w.Notes rest w' ∧ Treated e q.session (.role r) rest)
      fun w' => ∃ rest, w.Notes rest w' ∧ Treated e q.session (.role r) rest := by
    have treated (w' : World σ) (hw : w.Adds (·.Binds q.session (e.connection.slot? r)) w') :
        ∃ rest, w.Notes rest w' ∧ Treated e q.session (.role r) rest := by
      obtain ⟨rest, hnotes, hbinds⟩ := hw.notes
      refine ⟨rest, hnotes, ?_, ?_⟩
      · rintro _ ⟨⟩ _
        exact hbinds
      · intro hno
        cases (hno r rfl).symm.trans hr
    have hbind := ((adds_bind (σ := σ) e.connection { session := q.session, host := h, role := r }
      (e.connection.slot? r) text).meets w).mono (fun _ w' hw => treated w' hw) treated
    simpa only [bind_assoc] using meets_bind hbind fun _ w' hw => meets_pure ⟨rfl, hw⟩
  have after (hr : e.goal.wants r = true) (rest : List Event) :
      { e with goal := e.goal.found r, connection := e.connection.fill r ⟨h, q.session⟩ } =
        e.after (.met h q lookup rest) := by
    simp [Election.after, hv, hr]
  unfold place
  dsimp only
  cases hr : e.goal.wants r with
  | true =>
    cases r with
    | master =>
      have hw : e.goal.wantsMaster = true := hr
      simp only [hw, Bool.true_and, decide_true, if_true]
      unfold bindMaster
      rw [ho]
      refine meets_bind (wanted hr) ?_
      rintro _ w' ⟨rfl, rest, hnotes, htreated⟩
      exact meets_pure ⟨rest, hnotes, htreated, after hr rest⟩
    | replica =>
      have hw : e.goal.wantsReplica = true := hr
      simp only [hw, Bool.true_and, reduceCtorEq, decide_false, Bool.and_false, Bool.false_eq_true,
        decide_true, if_true, if_false]
      unfold bindReplica
      rw [ho]
      refine meets_bind (wanted hr) ?_
      rintro _ w' ⟨rfl, rest, hnotes, htreated⟩
      exact meets_pure ⟨rest, hnotes, htreated, after hr rest⟩
  | false =>
    cases r with
    | master =>
      have hw : e.goal.wantsMaster = false := hr
      simpa [hw] using unwanted hr
    | replica =>
      have hw : e.goal.wantsReplica = false := hr
      simpa [hw] using unwanted hr

/-- What is noted of a connect. -/
def Event.ofConnect (h : Host) : Except Error SessionId → Event
  | .ok n => .opened h n
  | .error x => .refused h x

/-- Trying a host has an account, whether it comes to an end or not: a session without a role is
hung up, and its host blacklisted. -/
theorem meets_tryHost_account {waiting : List Host} (ho : e.connection.closed = false) :
    (tryHost d h waiting e).Meets w
      (fun x w' => ∃ t : Try, t.host = h ∧ t.Fits d e ∧ w.Notes t.events w' ∧
        x.1 = e.after t ∧ Reordered (t.hint d) waiting (bringForward x.2 waiting))
      fun w' => ∃ t : Try, t.host = h ∧ t.Fits d e ∧ w.Notes t.events w' := by
  unfold tryHost
  refine meets_bind (m := fun o w' => w.Notes [.ofConnect h o] w')
    (meets_connect_of (fun _ _ _ _ => notes_of_cons rfl) fun _ _ _ => notes_of_cons rfl) ?_
  have unnamed := reordered_bringForward none waiting
  rintro (x | n) w₁ h₁ <;> dsimp only [Event.ofConnect] at h₁ ⊢
  · refine meets_bind_harmless (harmless_log _ _) fun _ w₂ h₂ => ?_
    refine meets_bind_harmless (harmless_blacklist h) fun _ w₃ h₃ => ?_
    exact meets_pure ⟨.refused h x, rfl, .refused h x, h₁.still (h₂.trans h₃), rfl, unnamed⟩
  refine meets_bind_harmless (harmless_forgive h) fun _ w₂ h₂ => ?_
  refine meets_bind (m := fun v w' => ∃ q : Question, q.session = n ∧ q.verdict = v ∧
    w.Notes (.opened h n :: q.events) w')
    (meets_judge_account fun q w' hn hw => ⟨q, hn, rfl, (h₁.still h₂).trans hw⟩) ?_
  have useless {q : Question} {x : Error} {w₃ : World σ} (hq : q.session = n)
      (h₃ : w.Notes (.opened h n :: q.events) w₃) (hv : ∀ r, q.verdict ≠ .role r)
      (hx : ∀ rest, e.after (.met h q none rest) = { e with lastFailure := some x }) : (do
        discard (hangUp n)
        blacklist h
        return ({ e with lastFailure := some x }, none) : Act σ (Election × Option Endpoint)).Meets
        w₃ (fun x w' => ∃ t : Try, t.host = h ∧ t.Fits d e ∧ w.Notes t.events w' ∧
          x.1 = e.after t ∧ Reordered (t.hint d) waiting (bringForward x.2 waiting))
        fun w' => ∃ t : Try, t.host = h ∧ t.Fits d e ∧ w.Notes t.events w' := by
    refine meets_bind (m := fun _ w' => w₃.Notes [.closed n] w')
      (meets_discard (meets_hangUp_of fun _ _ _ _ => notes_of_cons rfl)) fun _ w₄ h₄ => ?_
    refine meets_bind_harmless (harmless_blacklist h) fun _ w₅ h₅ => ?_
    refine meets_pure ⟨.met h q none [.closed n], rfl, .met _ _ _ _ ?_ ?_, ?_, (hx _).symm,
      unnamed⟩
    · simp [hv .replica]
    · constructor
      · intro r hr
        exact absurd hr (hv r)
      · intro _
        rw [hq]
    · simpa [Try.events, hq] using h₃.trans (h₄.still h₅)
  rintro v w₃ ⟨q, hq, hv, h₃⟩
  rcases v with r | x | _ <;> dsimp only
  · refine meets_bind_harmless (harmless_log _ _) fun _ w₄ h₄ => ?_
    have placed (named : Option Endpoint) (lookup : Option Reply) (w₅ : World σ)
        (h₅ : w₄.Notes (lookup.map (.called n (.query masterLookup))).toList w₅)
        (hlooks : lookup.isSome = true ↔ d.config.topology = .aurora ∧
          q.verdict = .role .replica ∧ e.goal.wantsMaster = true)
        (hnamed : Reordered ((lookup.bind (·.named d)).map Host.toEndpoint) waiting
          (bringForward named waiting)) : (do
        return (← place h n r e, named) : Act σ _).Meets w₅
          (fun x w' => ∃ t : Try, t.host = h ∧ t.Fits d e ∧ w.Notes t.events w' ∧
            x.1 = e.after t ∧ Reordered (t.hint d) waiting (bringForward x.2 waiting))
          fun w' => ∃ t : Try, t.host = h ∧ t.Fits d e ∧ w.Notes t.events w' := by
      have fits {rest : List Event} (ht : Treated e n (.role r) rest) :
          (Try.met h q lookup rest).Fits d e :=
        .met _ _ _ _ hlooks (by rwa [hv, hq])
      have notes {rest : List Event} {w₆ : World σ} (h₆ : w₅.Notes rest w₆) :
          w.Notes (Try.met h q lookup rest).events w₆ := by
        simpa [Try.events, hq] using ((h₃.still h₄).trans h₅).trans h₆
      refine meets_bind ((meets_place_account lookup ho hv hq).mono
        (fun x w' hx => hx) ?_) ?_
      · rintro w' ⟨rest, hrest, htreated⟩
        exact ⟨.met h q lookup rest, rfl, fits htreated, notes hrest⟩
      · rintro x w' ⟨rest, hrest, htreated, rfl⟩
        exact meets_pure ⟨.met h q lookup rest, rfl, fits htreated, notes hrest, rfl, hnamed⟩
    split_ifs with hasks
    · obtain ⟨hr, hwants⟩ : r = .replica ∧ e.goal.wantsMaster = true := by simpa using hasks
      refine meets_bind meets_namedMaster_account ?_
      rintro named w₅ ⟨lookup, h₅, hlooks, hnamed⟩
      exact placed named lookup w₅ h₅ (by rw [hlooks, hv, hr]; simp [hwants]) hnamed
    · refine meets_bind (m := fun named w' => named = none ∧ w' = w₄) (meets_pure ⟨rfl, rfl⟩) ?_
      rintro _ w₅ ⟨rfl, rfl⟩
      refine placed none none w₅ (Notes.refl w₅) ?_ unnamed
      have hno : ¬(d.config.topology = .aurora ∧ q.verdict = .role .replica ∧
          e.goal.wantsMaster = true) := by
        rintro ⟨-, hr, hwants⟩
        rw [hv] at hr
        cases hr
        simp [hwants] at hasks
      simpa using hno
  · refine meets_bind_harmless (harmless_log _ _) fun _ w₄ h₄ => ?_
    exact useless hq (h₃.still h₄) (by simp [hv]) fun _ => by simp [Election.after, hv]
  · exact useless hq h₃ (by simp [hv]) fun _ => by simp [Election.after, hv]

/-- Asking the live replica again always comes to an end. -/
theorem meets_recheckReplica_account : (recheckReplica d e.connection e.goal).Meets w
    (fun x w' => ∃ events, w.Notes events w' ∧
      Reasked e events { e with connection := x.1, goal := x.2 }) fun _ => False := by
  unfold recheckReplica
  split_ifs with hneed
  · exact meets_pure ⟨[], Notes.refl w, .idle⟩
  have hdown : e.connection.masterDown = true := by
    simp only [Bool.or_eq_true, Bool.not_eq_true', not_or, Bool.not_eq_false] at hneed
    exact hneed.1
  split
  swap
  · exact meets_pure ⟨[], Notes.refl w, .idle⟩
  next s hrep =>
  refine meets_bind (m := fun _ w' => w' = w) (meets_ask rfl) ?_
  rintro (_ | h) w rfl <;> dsimp only
  · exact meets_pure ⟨[], Notes.refl w, .idle⟩
  refine meets_bind (m := fun v w' => ∃ q : Question, q.session = s.session ∧ q.verdict = v ∧
    w.Notes q.events w') (meets_judge_account fun q w' hn hw => ⟨q, hn, rfl, hw⟩) ?_
  rintro v w₁ ⟨q, hq, hv, h₁⟩
  have stays (w' : World σ) (hw : w₁.Still w') (hno : v ≠ .role .master) :
      ∃ events, w.Notes events w' ∧ Reasked e events e :=
    ⟨q.events, h₁.still hw, .stays s q hrep hq (hv ▸ hno)⟩
  rcases v with (_ | _) | x | _ <;> dsimp only
  · refine meets_bind (m := fun _ w' => w₁.Notes [] w') (meets_change (notes_of_eq rfl))
      fun _ w₂ h₂ => ?_
    refine meets_bind_harmless (harmless_log _ _) fun _ w₃ h₃ => ?_
    refine meets_bind meets_closeSlot_ousts fun _ w₄ h₄ => ?_
    obtain ⟨rest, hrest, housts⟩ := h₄.notes
    refine meets_pure ⟨q.events ++ rest, ?_, .promoted s q rest hdown hrep hq hv housts⟩
    simpa using ((h₁.trans h₂).still h₃).trans hrest
  · exact meets_pure (stays w₁ (Still.refl w₁) nofun)
  · exact meets_bind_harmless (harmless_log _ _) fun _ w₂ h₂ =>
      meets_pure (stays w₂ h₂ nofun)
  · exact meets_bind_harmless (harmless_log _ _) fun _ w₂ h₂ =>
      meets_pure (stays w₂ h₂ nofun)

end Accounts

end Failover
