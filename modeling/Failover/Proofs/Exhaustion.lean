import Failover.Proofs.Lingering
import Failover.Proofs.Preference

/-!
# What an election reports when it is given up

An election keeps the error of the last attempt that failed, through attempts that bind a session or
meet a role that is not wanted, and through the questions to the live replica in between; and it
wants a master for as long as none was found (`Recalls`). This holds of one attempt and of one
question, and so of all passes in a row. When the election is given up it reports what it keeps as a
connection exception (`exhaustion_report`).
-/

namespace Failover

open Act World

variable {σ : Type}

theorem Error.isConnectionException_iff {e : Error} :
    e.isConnectionException = true ↔ ['0', '8'] <+: e.sqlState.toList := by
  unfold isConnectionException
  split
  next rest h => simp [h]
  next h =>
    simp only [Bool.false_eq_true, false_iff]
    rintro ⟨rest, hrest⟩
    exact h rest hrest.symm

/-- The report that is made of the last failure. -/
theorem Error.exhausted_of (role : Role) (source : Option Error) : ∃ sqlState,
    Error.exhausted role source =
      .noActiveConnection role ((source.map Error.code).getD 0) sqlState source ∧
    ['0', '8'] <+: sqlState.toList ∧
    sqlState = match source with
      | some x => if ['0', '8'] <+: x.sqlState.toList then x.sqlState else "08000"
      | none => "08000" := by
  cases source with
  | none => exact ⟨"08000", rfl, by decide, rfl⟩
  | some x =>
    unfold exhausted
    by_cases hx : ['0', '8'] <+: x.sqlState.toList
    · have hclass := isConnectionException_iff.2 hx
      exact ⟨x.sqlState, by simp [hclass], hx, by simp [hx]⟩
    · have hclass := Bool.eq_false_iff.2 fun h => hx (isConnectionException_iff.1 h)
      exact ⟨"08000", by simp [hclass, connectionException], by decide, by simp [hx]⟩

/-- The error that an attempt at the host ends with after this verdict. -/
def Verdict.errorOn (h : Host) : Verdict → Option Error
  | .role _ => none
  | .failed e => some e
  | .unanswered => some (.connectionTimeout h.text)

/-- The attempts, oldest first: the host, and the error if the attempt failed. A session that was
opened has failed if the first verdict on it is no role. -/
def attemptsIn : List Event → List (Host × Option Error)
  | [] => []
  | .refused h e :: later => (h, some e) :: attemptsIn later
  | .opened h n :: later =>
    (h, (later.findSome? (·.verdictOn n)).bind (·.errorOn h)) :: attemptsIn later
  | _ :: later => attemptsIn later

/-- The error of the last attempt that failed. -/
def lastError (attempts : List (Host × Option Error)) : Option Error :=
  (attempts.filterMap Prod.snd).getLast?

section Attempts

variable {events later : List Event} {xs ys : List (Host × Option Error)}

theorem attemptsIn_append_of_not_isAttempt (h : ∀ x ∈ events, x.isAttempt = false) :
    attemptsIn (events ++ later) = attemptsIn later := by
  induction events with
  | nil => rfl
  | cons x events ih =>
    have hx := h x List.mem_cons_self
    have hrest := ih fun y hy => h y (List.mem_cons_of_mem x hy)
    cases x <;> simp_all [attemptsIn, Event.isAttempt]

@[simp] theorem lastError_append (xs ys : List (Host × Option Error)) :
    lastError (xs ++ ys) = (lastError ys).or (lastError xs) := by
  simp [lastError, List.getLast?_append]

@[simp] theorem lastError_singleton (h : Host) (x : Option Error) : lastError [(h, x)] = x := by
  cases x <;> rfl

theorem lastError_eq_none_iff : lastError xs = none ↔ ∀ a ∈ xs, a.2 = none := by
  simp [lastError]

end Attempts

/-- What an election remembers of what was done: the error of the last attempt that failed, and
whether a master was found. -/
structure Recalls (e : Election) (events : List Event) (e' : Election) : Prop where
  lastFailure : ∃ attempts, (∀ later, attemptsIn (events ++ later) = attempts ++ attemptsIn later) ∧
    e'.lastFailure = (lastError attempts).or e.lastFailure
  wantsMaster : e'.goal.wantsMaster = true ↔
    e.goal.wantsMaster = true ∧ Role.master ∉ events.filterMap Event.roleFound

section Recalls

variable {d : Deployment} {e e' e'' : Election} {t : Try} {xs ys events : List Event}

theorem Recalls.refl (e : Election) : Recalls e [] e :=
  ⟨⟨[], fun _ => rfl, rfl⟩, by simp⟩

theorem Recalls.trans (h : Recalls e xs e') (h' : Recalls e' ys e'') :
    Recalls e (xs ++ ys) e'' := by
  obtain ⟨as, has, hlast⟩ := h.lastFailure
  obtain ⟨bs, hbs, hlast'⟩ := h'.lastFailure
  refine ⟨⟨as ++ bs, ?_, ?_⟩, ?_⟩
  · intro later
    rw [List.append_assoc, has, hbs, List.append_assoc]
  · rw [hlast', hlast, lastError_append, Option.or_assoc]
  · rw [h'.wantsMaster, h.wantsMaster, List.filterMap_append, List.mem_append, not_or, and_assoc]

/-- The error of an attempt that failed. -/
def Try.error? : Try → Option Error
  | refused _ e => some e
  | met h q _ _ => q.verdict.errorOn h

theorem Election.lastFailure_after (e : Election) (t : Try) :
    (e.after t).lastFailure = t.error?.or e.lastFailure := by
  rcases t with ⟨h, x⟩ | ⟨h, ⟨n, probe, r | x | _⟩, lookup, rest⟩ <;> try rfl
  unfold after
  dsimp only
  split <;> rfl

theorem Election.wantsMaster_after (e : Election) (t : Try) : (e.after t).goal.wantsMaster = true ↔
    e.goal.wantsMaster = true ∧ Role.master ∉ t.role?.toList := by
  rcases t with ⟨h, x⟩ | ⟨h, ⟨n, probe, (_ | _) | x | _⟩, lookup, rest⟩
  · simp [after, Try.role?]
  · cases hw : e.goal.wantsMaster <;>
      simp [after, Try.role?, Goal.wants, hw, Goal.found, Goal.masterFound]
  · cases hw : e.goal.wantsReplica <;>
      simp [after, Try.role?, Goal.wants, hw, Goal.found, Goal.replicaFound]
  · simp [after, Try.role?]
  · simp [after, Try.role?]

theorem Question.findSome?_events (q : Question) (later : List Event) :
    (q.events ++ later).findSome? (·.verdictOn q.session) = some q.verdict := by
  rcases q with ⟨n, _ | reply, v⟩ <;> simp [Question.events, Event.verdictOn]

theorem Question.not_isAttempt (q : Question) : ∀ x ∈ q.events, x.isAttempt = false := by
  rcases q with ⟨n, _ | reply, v⟩ <;> simp [Question.events, Event.isAttempt]

theorem Treated.not_isAttempt {n : SessionId} {v : Verdict} {rest : List Event}
    (h : Treated e n v rest) : ∀ x ∈ rest, x.isAttempt = false := by
  intro x hx
  rcases h.binds_or_closes x hx with ⟨slot, hbinds | ⟨s, -, rfl⟩⟩ | rfl <;> rfl

theorem Try.Fits.attemptsIn (h : t.Fits d e) (later : List Event) :
    attemptsIn (t.events ++ later) = (t.host, t.error?) :: attemptsIn later := by
  cases h with
  | refused h x => rfl
  | met h q lookup rest _ treated =>
    have hrest : ∀ x ∈ q.events ++
        (lookup.map (.called q.session (.query masterLookup))).toList ++ rest,
        x.isAttempt = false := by
      intro x hx
      rcases List.mem_append.1 hx with hx | hx
      · rcases List.mem_append.1 hx with hx | hx
        · exact q.not_isAttempt x hx
        · obtain ⟨reply, -, rfl⟩ := Option.map_eq_some_iff.1 (Option.mem_toList.1 hx)
          rfl
      · exact treated.not_isAttempt x hx
    unfold Try.events
    rw [List.cons_append, Failover.attemptsIn, attemptsIn_append_of_not_isAttempt hrest,
      List.append_assoc, List.append_assoc, q.findSome?_events]
    rfl

theorem Try.Fits.recalls (h : t.Fits d e) : Recalls e t.events (e.after t) := by
  refine ⟨⟨[(t.host, t.error?)], h.attemptsIn, ?_⟩, ?_⟩
  · rw [e.lastFailure_after, lastError_singleton]
  · rw [e.wantsMaster_after, h.rolesFound]

theorem Reasked.recalls (h : Reasked e events e') : Recalls e events e' := by
  have hroles (q : Question) : q.events.filterMap Event.roleFound =
      (Event.roleFound (.judged q.session q.verdict)).toList :=
    q.filterMap_events fun _ _ _ => rfl
  cases h with
  | idle => exact .refl e
  | stays s q _ _ verdict =>
    refine ⟨⟨[], fun later => attemptsIn_append_of_not_isAttempt q.not_isAttempt, rfl⟩, ?_⟩
    have hno : Event.roleFound (.judged q.session q.verdict) ≠ some .master := by
      rw [Ne, Event.roleFound_eq_some]
      rintro ⟨n, hn⟩
      exact verdict (Event.judged.inj hn).2
    rw [hroles, Option.mem_toList]
    exact (and_iff_left hno).symm
  | promoted s q rest _ _ _ verdict ousts =>
    have hevents : ∀ x ∈ q.events ++ rest, x.isAttempt = false := by
      intro x hx
      rcases List.mem_append.1 hx with hx | hx
      · exact q.not_isAttempt x hx
      · obtain ⟨s, -, rfl⟩ := ousts x hx
        rfl
    refine ⟨⟨[], fun later => attemptsIn_append_of_not_isAttempt hevents, rfl⟩, ?_⟩
    have hmaster : Role.master ∈ (q.events ++ rest).filterMap Event.roleFound := by
      rw [List.filterMap_append, hroles, verdict]
      exact List.mem_append_left _ (List.mem_singleton_self _)
    exact iff_of_false Bool.false_ne_true fun h => h.2 hmaster

theorem tracing_recalls (d : Deployment) : Tracing d Recalls where
  refl := .refl
  trans := .trans
  tries := Try.Fits.recalls
  asks := Reasked.recalls

end Recalls

section Report

variable [Cluster σ] {d : Deployment} {c c' : Connection} {g g' : Goal} {w w' : World σ}

/-- When an election on an open connection is given up, it reports a connection exception. This
names the master if that is still wanted, because none was found, and the replica otherwise. Its
source is the error of the last attempt that failed, if there is one, and it has the code of that
error and, if this is of class 08, its SQLSTATE. -/
theorem exhaustion_report {e : Error} (hopen : c.closed = false)
    (h : elect d c g w = (some (.exhausted e, c', g'), w')) :
    ∃ role code sqlState source, e = .noActiveConnection role code sqlState source ∧
      e.isConnectionException = true ∧ ['0', '8'] <+: sqlState.toList ∧
      role = (if g'.wantsMaster then .master else .replica) ∧
      (g'.wantsMaster = true ↔
        g.wantsMaster = true ∧ ∀ n, .judged n (.role .master) ∉ w.since w') ∧
      source = lastError (attemptsIn (w.since w')) ∧
      (source = none ↔ ∀ a ∈ attemptsIn (w.since w'), a.2 = none) ∧
      code = (source.map Error.code).getD 0 ∧
      sqlState = match source with
        | some x => if ['0', '8'] <+: x.sqlState.toList then x.sqlState else "08000"
        | none => "08000" := by
  have hfst : (elect d c g w).1 = some (.exhausted e, c', g') := by rw [h]
  have hsnd : (elect d c g w).2 = w' := by rw [h]
  have hdown : (c.closed || !c.masterDown && !c.replicaDown) = false := by
    cases hup : c.closed || !c.masterDown && !c.replicaDown with
    | false => rfl
    | true =>
      obtain ⟨-, -, hfound⟩ := elect_of_idle (d := d) (g := g) (w := w) hup
      rw [hfst, hopen] at hfound
      simp at hfound
  obtain ⟨events, y, hcampaign, hnotes, hends⟩ := campaign_elect (d := d) (g := g) (w := w) hdown
  rw [hsnd] at hnotes
  obtain ⟨last, hy, heq, hreport⟩ := exists_of_answer (hends.symm.trans hfst)
  obtain ⟨rfl, rfl⟩ : c' = last.connection ∧ g' = last.goal := by simpa using heq
  obtain rfl := hreport e rfl
  obtain ⟨⟨attempts, hattempts, hlast⟩, hwants⟩ :=
    (tracing_recalls d).campaign hcampaign hopen _ hy
  have hattempts : attemptsIn events = attempts := by simpa [attemptsIn] using hattempts []
  have hlast : last.lastFailure = lastError attempts := by simpa using hlast
  obtain ⟨sqlState, hform, hclass, hstate⟩ := Error.exhausted_of
    (if last.goal.wantsMaster then .master else .replica) last.lastFailure
  rw [mem_rolesFound, not_exists] at hwants
  rw [hnotes.since, hattempts, hform]
  exact ⟨_, _, sqlState, _, rfl, Error.isConnectionException_iff.2 hclass, hclass, rfl, hwants,
    hlast, hlast ▸ lastError_eq_none_iff, rfl, hstate⟩

end Report

section Denied

/-- The first host is down, the second one is a replica, and the last one turns the login down. -/
def denying : Script where
  hosts := [("db1:3306", { ScriptedHost.plain with reachable := false }),
    ("db2:3306", { ScriptedHost.plain with probe := [ScriptedHost.variableAnswer (some "ON")] }),
    ("db3:3306", { ScriptedHost.plain with
      connectFailures := [.query 1045 "28000" "Access denied"] })]

/-- The replica is bound, and the report has the code of the login that was turned down, but not its
SQLSTATE. -/
theorem report_of_denied : ∃ (e : Error) (c : Connection) (g : Goal) (w : World Script),
    elect fleet (.new true) .both { servers := denying } = (some (.exhausted e, c, g), w) ∧
      c.replica.isSome = true ∧ e.missingRole = some .master ∧ e.code = 1045 ∧
      e.sqlState = "08000" := by
  have hx : (elect fleet (.new true) .both).yields { servers := denying } (fun x w =>
      !x.1.isFound && x.2.1.replica.isSome && x.2.2.wantsMaster &&
        (lastError (attemptsIn (World.since { servers := denying } w))).any fun e =>
          e.code == 1045 && e.sqlState == "28000") = true := by
    decide +kernel
  obtain ⟨⟨outcome, c, g⟩, w, hrun, hx⟩ := exists_of_yields hx
  simp only [Bool.and_eq_true, Option.any_eq_true, beq_iff_eq] at hx
  obtain ⟨⟨⟨hunfound, hreplica⟩, hwants⟩, denied, hlast, hcode, hstate⟩ := hx
  cases outcome with
  | found => cases hunfound
  | exhausted e =>
    obtain ⟨role, code, sqlState, source, rfl, -, -, hrole, -, hsource, -, hcode', hstate'⟩ :=
      exhaustion_report rfl hrun
    obtain rfl : source = some denied := hsource.trans hlast
    refine ⟨_, c, g, w, hrun, hreplica, ?_, ?_, ?_⟩
    · simp [Error.missingRole, hrole, hwants]
    · exact hcode'.trans hcode
    · refine hstate'.trans ?_
      simp [hstate]

end Denied

end Failover
