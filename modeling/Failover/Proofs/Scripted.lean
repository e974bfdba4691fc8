import Failover.Proofs.Steady
import Failover.Script

/-!
# Scripts that stay the same

A script without stalls and failures whose canned answers do not run out into others is steady:
whatever a client does, each host goes on as it began.
-/

namespace Failover

open Act World

/-- Nothing about the host will change by what a client does. -/
structure ScriptedHost.IsSteady (h : ScriptedHost) : Prop where
  stall : h.stall = none
  connectFailures : h.connectFailures = []
  failures : h.failures = []
  probe : h.probe.length ≤ 1
  lookup : h.lookup.length ≤ 1

theorem Canned.take_of_length_le {α : Type} {default : α} {xs : Canned α} (h : xs.length ≤ 1) :
    (Canned.take default xs).2 = xs := by
  match xs with
  | [] => rfl
  | [a] => rfl
  | a :: b :: rest => simp at h

namespace Script

/-- The hosts of the script go on as they are. -/
def IsSteady (s : Script) : Prop := ∀ key, (s.host key).IsSteady

theorem isSteady_of_forall {s : Script} (h : ∀ x ∈ s.hosts, x.2.IsSteady) : s.IsSteady := by
  intro key
  unfold host
  cases hx : s.hosts.lookup key with
  | none => exact ⟨rfl, rfl, rfl, le_rfl, le_rfl⟩
  | some x =>
    obtain ⟨before, after, he, -⟩ := List.lookup_eq_some_iff.1 hx
    exact h (key, x) (by rw [he]; simp)

theorem isSteady_empty : ({} : Script).IsSteady :=
  isSteady_of_forall fun _ h => absurd h List.not_mem_nil

/-- The script as it is now, and what becomes of it. -/
def regime (s₀ : Script) : Regime Script where
  holds s := ∀ key, s.host key = s₀.host key
  serves s n e := ∃ x, s.session? n = some x ∧ x.host = e.text ∧ x.closed = false
  up e := (s₀.host e.text).reachable
  shown e := some (probedRole (Canned.take {} (s₀.host e.text).probe).1)

theorem host_setHost (s : Script) (key k : String) (h : ScriptedHost) :
    (s.setHost key h).host k = if k = key then h else s.host k := by
  have others (hk : k ≠ key) (xs : List (String × ScriptedHost)) :
      (xs.filter (·.1 ≠ key)).lookup k = xs.lookup k := by
    induction xs with
    | nil => rfl
    | cons x xs ih =>
      by_cases hx : x.1 = key
      · rw [List.filter_cons_of_neg (by simpa using hx), ih, List.lookup_cons,
          beq_eq_false_iff_ne.2 (hx ▸ hk)]
      · rw [List.filter_cons_of_pos (by simpa using hx), List.lookup_cons, List.lookup_cons, ih]
  unfold setHost host
  dsimp only
  rw [List.lookup_cons]
  by_cases hk : k = key
  · simp [hk]
  · rw [beq_eq_false_iff_ne.2 hk, others hk, if_neg hk]

section Calls

variable {s₀ s s' : Script} {n : SessionId}

theorem goes_setHost (hs : s₀.regime.holds s) (key : String) :
    s₀.regime.Goes ∅ s (s.setHost key (s.host key)) := by
  refine ⟨?_, fun m e _ h => h⟩
  intro k
  rw [host_setHost]
  split_ifs with hk
  · rw [hk, hs key]
  · exact hs k

/-- What comes of a call on a session that leads to a host. -/
structure Answers (s₀ : Script) (e : Endpoint) (r : Request)
    (result : Except Error QueryResult) : Prop where
  up : result.isOk = s₀.regime.up e
  probed : r = .query roleProbe → ∀ x, result = .ok x → s₀.regime.shown e = some (probedRole x)
  broken : ∀ x, result = .error x → x.isConnectionException = true

/-- A call changes nothing, and on a session that leads to a host it is answered at once. -/
theorem call_of_isSteady (hs₀ : s₀.IsSteady) (hs : s₀.regime.holds s) {r : Request} {reply : Reply}
    (hc : s.call n r = (reply, s')) : s₀.regime.Goes ∅ s s' ∧ ∀ e, s₀.regime.serves s n e →
      ∃ result, reply = .answer 0 result ∧ s₀.Answers e r result := by
  unfold Script.call at hc
  split at hc
  next hnone =>
    cases hc
    refine ⟨.refl hs, ?_⟩
    rintro e ⟨x, hx, -⟩
    cases hnone.symm.trans hx
  next x hx =>
  have hhost := hs₀ x.host
  rw [← hs x.host] at hhost
  have leads {e : Endpoint} (h : s₀.regime.serves s n e) : x.host = e.text ∧ x.closed = false := by
    obtain ⟨y, hy, ht, hopen⟩ := h
    obtain rfl : x = y := Option.some.inj (hx.symm.trans hy)
    exact ⟨ht, hopen⟩
  have up {e : Endpoint} (h : x.host = e.text) :
      s₀.regime.up e = (s.host x.host).reachable := by
    rw [hs x.host, h]
    rfl
  dsimp only at hc
  split at hc
  next hstall =>
    rw [hhost.stall] at hstall
    cases hstall
  split at hc
  next hclosed =>
    cases hc
    refine ⟨.refl hs, ?_⟩
    intro e he
    cases (leads he).2.symm.trans hclosed
  split at hc
  next hdown =>
    cases hc
    refine ⟨.refl hs, ?_⟩
    intro e he
    refine ⟨_, rfl, ?up, ?probed, ?broken⟩
    case up =>
      have hdown : (s.host x.host).reachable = false := by simpa using hdown
      exact ((up (leads he).1).trans hdown).symm
    case probed =>
      rintro - _ ⟨⟩
    case broken =>
      rintro _ ⟨⟩
      decide +kernel
  next hdown =>
  have hreach {e : Endpoint} (he : s₀.regime.serves s n e) : true = s₀.regime.up e := by
    rw [up (leads he).1]
    simpa using hdown
  split at hc
  next hf => cases hhost.failures.symm.trans hf
  split_ifs at hc with hping hprobe hlookup
  · cases hc
    refine ⟨.refl hs, ?_⟩
    intro e he
    refine ⟨_, rfl, hreach he, ?_, nofun⟩
    intro h
    rw [hping] at h
    cases h
  · rw [Canned.take_of_length_le hhost.probe] at hc
    cases hc
    refine ⟨goes_setHost hs _, ?_⟩
    intro e he
    refine ⟨_, rfl, hreach he, ?_, nofun⟩
    rintro - _ ⟨⟩
    rw [hs x.host, (leads he).1]
    rfl
  all_goals
    have hother : r ≠ .query roleProbe := by
      rintro rfl
      exact hprobe rfl
  · rw [Canned.take_of_length_le hhost.lookup] at hc
    cases hc
    refine ⟨goes_setHost hs _, ?_⟩
    intro e he
    exact ⟨_, rfl, hreach he, fun h => absurd h hother, nofun⟩
  · cases hc
    refine ⟨.refl hs, ?_⟩
    intro e he
    exact ⟨_, rfl, hreach he, fun h => absurd h hother, nofun⟩

/-- Opening a session to a host that is up makes it lead there. -/
theorem connect_of_isSteady (hs₀ : s₀.IsSteady) (hs : s₀.regime.holds s) {h : Host}
    {outcome : Except Error Unit} (hc : s.connect h n = (outcome, s')) :
    s₀.regime.Goes {n} s s' ∧ outcome.isOk = s₀.regime.up h.toEndpoint ∧
      (s₀.regime.up h.toEndpoint = true → s₀.regime.serves s' n h.toEndpoint) := by
  have hhost := hs₀ h.text
  have hup : s₀.regime.up h.toEndpoint = (s.host h.text).reachable := by
    rw [hs h.text]
    rfl
  rw [← hs h.text] at hhost
  unfold Script.connect at hc
  dsimp only at hc
  split at hc
  next hdown =>
    cases hc
    have hdown : (s.host h.text).reachable = false := by simpa using hdown
    refine ⟨.refl hs, (hup.trans hdown).symm, ?_⟩
    intro h
    cases (hup.symm.trans h).symm.trans hdown
  next hdown =>
    rw [hhost.connectFailures] at hc
    cases hc
    have hreach : (s.host h.text).reachable = true := by simpa using hdown
    refine ⟨⟨hs, ?_⟩, (hup.trans hreach).symm, ?_⟩
    · intro m e hm he
      obtain ⟨x, hx, hopen⟩ := he
      refine ⟨x, ?_, hopen⟩
      rw [session?, List.find?_cons_of_neg (by simpa using Ne.symm hm)]
      exact hx
    · intro _
      refine ⟨⟨n, h.text, false⟩, ?_, rfl, rfl⟩
      rw [session?, List.find?_cons_of_pos (by simp)]

theorem goes_close (hs : s₀.regime.holds s) : s₀.regime.Goes {n} s (s.close n).2 := by
  refine ⟨hs, ?_⟩
  intro m e hm he
  obtain ⟨x, hx, hopen⟩ := he
  refine ⟨x, ?_, hopen⟩
  have hm : m ≠ n := hm
  have hnumber : (fun y : ScriptedSession => decide (y.number = m)) ∘ (fun session =>
      if session.number = n then { session with closed := true } else session) =
        fun y => decide (y.number = m) := by
    funext y
    simp only [Function.comp]
    split_ifs <;> rfl
  have hx : s.sessions.find? (·.number = m) = some x := hx
  have hnum : x.number = m := by simpa using List.find?_some hx
  unfold close session?
  rw [List.find?_map, hnumber, hx, Option.map_some, if_neg (hnum ▸ hm)]

end Calls

/-- Among hosts that go on as they are, a client finds steady servers. -/
theorem steady_regime {s₀ : Script} (hs₀ : s₀.IsSteady) (limit : Nat) : s₀.regime.Steady limit where
  connects hs hc := connect_of_isSteady hs₀ hs (Prod.mk.inj hc).2
  calls hs hc := (call_of_isSteady hs₀ hs hc).1
  closes hs hc := by
    cases hc
    exact goes_close hs
  draws hs := .refl hs
  probes := by
    intro n e s reply s' hs hn hc
    obtain ⟨result, rfl, ha⟩ := (call_of_isSteady hs₀ hs hc).2 e hn
    rw [← ha.up]
    cases result with
    | error x => rfl
    | ok x => exact (ha.probed rfl x rfl).symm
  selects := by
    intro n e database s reply s' hs hn _ hc
    obtain ⟨result, rfl, -⟩ := (call_of_isSteady hs₀ hs hc).2 e hn
    exact ⟨0, result, rfl⟩

theorem obliging_regime {s₀ : Script} (hs₀ : s₀.IsSteady) (limit : Nat) :
    s₀.regime.Obliging limit where
  toSteady := steady_regime hs₀ limit
  calls_end := by
    intro n e r s reply s' hs hn hc
    obtain ⟨result, rfl, ha⟩ := (call_of_isSteady hs₀ hs hc).2 e hn
    exact ⟨0, result, rfl, ha.up, ha.broken⟩

end Script

end Failover
