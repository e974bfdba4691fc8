import Failover.Proofs.ModeSwitch

/-!
# Changes of mode that fail

A change of mode fails because the connection is closed, because a transaction holds it back, or
because no master is found on leaving read-only mode. A search for a master that finds none leaves
all sessions and the connection as they were (`Unavailing`). But it is made in the new mode, which
is then kept (`failed_switch_iff`).
-/

namespace Failover

open Act World

variable {σ : Type}

/-- An election for a master alone that began with `c₀` in `u`: while it has not found one, the
connection and the sessions that were there are as they were. -/
structure Unavailing (c₀ : Connection) (u : World σ) (c : Connection) (g : Goal) (w : World σ) :
    Prop where
  masterOnly : g.wantsReplica = false
  plain : g.replicaSuffices = false
  opened : u.opened ≤ w.opened
  connection : g.wantsMaster = true → c = c₀
  handle : g.wantsMaster = true → ∀ n ≤ u.opened, w.handles.get? n = u.handles.get? n

section Unavailing

variable {d : Deployment} {c₀ c : Connection} {u w : World σ}

theorem kept_unavailing : Kept d (Unavailing c₀ u) where
  attempt := by
    intro e e' w w' _ h ha
    cases ha with
    | unbound hc hg ho =>
      rw [hc, hg]
      refine ⟨h.masterOnly, h.plain, h.opened.trans ho.opened, h.connection, ?_⟩
      intro hw n hn
      rw [ho.handle n (hn.trans h.opened) (Set.notMem_empty n), h.handle hw n hn]
    | bound r s hw _ hc hg _ ho =>
      rw [hc, hg]
      cases r with
      | replica => cases h.masterOnly.symm.trans hw
      | master => exact ⟨h.masterOnly, h.plain, h.opened.trans ho.opened, nofun, nofun⟩
  beside := by
    intro c g w w' h hw
    refine ⟨h.masterOnly, h.plain, h.opened.trans hw.opened, h.connection, ?_⟩
    intro hm n hn
    rw [hw.handles, h.handle hm n hn]

theorem keptByRecheck_unavailing : KeptByRecheck d (Unavailing c₀ u) := by
  intro c c' g g' w w' _ h hr
  cases hr with
  | same hh ho =>
    refine ⟨h.masterOnly, h.plain, h.opened.trans ho.opened, h.connection, ?_⟩
    intro hm n hn
    rw [hh, h.handle hm n hn]
  | promoted s x _ _ _ _ ho =>
    exact ⟨h.masterOnly, h.plain, h.opened.trans ho.opened, nofun, nofun⟩

theorem meets_electAndRoute_unavailing [Cluster σ] (hs : Sound d c w) :
    (electAndRoute d c .masterOnly).Meets w (fun x w' => ∀ e, x.1 = .exhausted e →
      x.2 = c.route ∧ ∀ n ≤ w.opened, w'.handles.get? n = w.handles.get? n) fun _ => True := by
  have start : Unavailing c w c .masterOnly w := ⟨rfl, rfl, le_rfl, fun _ => rfl, fun _ _ _ => rfl⟩
  refine (meets_electAndRoute kept_unavailing (.inr keptByRecheck_unavailing) hs start rfl
    nofun).mono ?_ fun _ _ => trivial
  rintro ⟨outcome, _⟩ w' ⟨c', g', rfl, h⟩ e hx
  have hwants : g'.wantsMaster = true := by
    simpa [Goal.isEnough_eq h.kept.masterOnly h.kept.plain] using h.exhausted e hx
  exact ⟨congrArg Connection.route (h.kept.connection hwants), h.kept.handle hwants⟩

end Unavailing

/-- How a change of mode fails, and what of it is left. -/
inductive FailsToSwitch (c : Connection) : Error → Connection → Prop
  | closed : FailsToSwitch c .connectionClosed c
  | heldBack : FailsToSwitch c .transactionInProgress c
  /-- No master was found in the new mode. -/
  | noMaster (failure : Option Error) :
      FailsToSwitch c (.exhausted .master failure) { c with readOnly := false }

/-- The report that a role was looked for in vain says which one. -/
theorem Error.exhausted_eq (r : Role) (failure : Option Error) : ∃ code sqlState source,
    Error.exhausted r failure = .noActiveConnection r code sqlState source := by
  cases failure <;> exact ⟨_, _, _, rfl⟩

section Switch

variable [Cluster σ] {d : Deployment} {c : Connection} {w : World σ} {readOnly : Bool}

omit [Cluster σ] in
/-- A connection at rest is where routing it would lead. -/
theorem Settled.route_eq (hs : Settled d c w) : c.route = c := by
  unfold Connection.route
  split
  · rfl
  next hnone =>
    have vacant := hs.vacant (Option.not_isSome_iff_eq_none.1 hnone)
    have hm : c.master = none := vacant .master
    have hr : c.replica = none := vacant .replica
    have hcurrent : c.current = none := by rw [hs.rest, Connection.target, hm, hr]; rfl
    refine congrArg (fun r => { c with current := r }) (Eq.trans ?_ hcurrent.symm)
    simp [Connection.masterAvailable, Connection.replicaAvailable, hm, hr]

/-- What a call that fails says, and leaves behind. -/
def Fails {α : Type} (c : Connection) (w : World σ) (x : Except Error α × Connection)
    (w' : World σ) : Prop :=
  ∀ e, x.1 = .error e → FailsToSwitch c e x.2 ∧
    ∀ n ≤ w.opened, w'.handles.get? n = w.handles.get? n

omit [Cluster σ] in
theorem fails_ok {α : Type} {a : α} {c' : Connection} {w' : World σ} :
    Fails c w (.ok a, c') w' := nofun

/-- To enter read-only mode is no failure without a replica. -/
theorem meets_enterReadOnly : (enterMode d { c with readOnly := true }).Meets w (Fails c w)
    fun _ => True := by
  unfold enterMode
  simp only [if_true]
  split
  · exact meets_pure fails_ok
  split
  · exact meets_pure fails_ok
  refine meets_bind (m := fun _ _ => True)
    (meets_of_forall (fun _ _ => trivial) fun _ => trivial) ?_
  rintro ⟨outcome, c'⟩ w₁ -
  dsimp only
  split
  · exact meets_bind_harmless (harmless_log _ _) fun _ w₂ _ => meets_pure fails_ok
  · exact meets_pure fails_ok

/-- To leave it fails without a master, of which a vain search has left nothing but the mode. -/
theorem meets_leaveReadOnly (hs : Settled d c w) (isOpen : c.closed = false) :
    (enterMode d { c with readOnly := false }).Meets w (Fails c w) fun _ => True := by
  unfold enterMode
  simp only [Bool.false_eq_true, if_false]
  split
  · exact meets_pure fails_ok
  next hdown =>
  have hmaster : c.master = none := by
    rw [← Option.not_isSome_iff_eq_none, ← hs.coherent.masterAvailable]
    exact hdown
  have hs' : Settled d { c with readOnly := false } w :=
    hs.toSound.aimed (hs.rest.trans (by simp [Connection.target, hmaster]))
  unfold electMaster
  have wanted : ForMaster { c with readOnly := false } .masterOnly := by
    refine ⟨rfl, rfl, ?_⟩
    intro hf
    cases hf
  have helected := (meets_electAndRoute_unavailing hs'.toSound).and
    (meets_masterElection (g := .masterOnly) hs'.toSound isOpen rfl wanted)
  refine meets_bind (helected.mono (fun _ _ h => h) fun _ _ => trivial) ?_
  rintro ⟨_ | e, c'⟩ w₁ ⟨hsame, -, -, hcause⟩
  · exact meets_pure fails_ok
  obtain ⟨hc', hhandles⟩ := hsame e rfl
  obtain ⟨failure, rfl⟩ := hcause e rfl
  obtain rfl : c' = { c with readOnly := false } := hc'.trans hs'.route_eq
  refine meets_pure fun _ he => ?_
  cases he
  exact ⟨.noMaster failure, hhandles⟩

theorem meets_enterMode_fails (hs : Settled d c w) (isOpen : c.closed = false) :
    (enterMode d { c with readOnly }).Meets w (Fails c w) fun _ => True := by
  cases readOnly with
  | true => exact meets_enterReadOnly
  | false => exact meets_leaveReadOnly hs isOpen

theorem meets_switchMode_fails (hs : Settled d c w) :
    (switchMode d readOnly c).Meets w (Fails c w) fun _ => True := by
  unfold switchMode
  split
  · refine meets_pure fun _ he => ?_
    cases he
    exact ⟨.closed, fun _ _ => rfl⟩
  next isOpen =>
  refine meets_bind_harmless (harmless_isHeldBack readOnly c) fun held w₁ h₁ => ?_
  split
  · refine meets_pure fun _ he => ?_
    cases he
    exact ⟨.heldBack, fun _ _ => by rw [h₁.handles]⟩
  · refine (meets_enterMode_fails (hs.beside h₁.beside) (by simpa using isOpen)).mono
      ?_ fun _ _ => trivial
    intro x w₂ h e he
    obtain ⟨hf, hhandles⟩ := h e he
    exact ⟨hf, fun n hn => by rw [hhandles n (by rwa [h₁.opened]), h₁.handles]⟩

/-- A change of mode that fails leaves the slots, the route and all sessions as they were, and the
mode as well, except when it was to leave read-only mode and no master was found. -/
theorem failed_switch_iff {s : Scene σ} (hs : Reachable d s) {e : Error} {c' : Connection}
    {w' : World σ} (fails : ((Operation.setReadOnly readOnly).invoke d).run s.connection s.world =
      (some (.error e, c'), w')) :
    (e = .connectionClosed ∨ e = .transactionInProgress ∨
      ∃ failure, e = .exhausted .master failure) ∧
    c' = { s.connection with readOnly := c'.readOnly } ∧
    (∀ n, (s.world.handles.get? n).isSome = true →
      w'.handles.get? n = s.world.handles.get? n) ∧
    (c'.readOnly = s.connection.readOnly ↔
      ¬(s.connection.readOnly = true ∧ ∃ failure, e = .exhausted .master failure)) := by
  have settled := hs.atRest.settled
  rw [run_setReadOnly, map_eq_pure_bind] at fails
  obtain ⟨⟨_ | ⟨⟩, c₁⟩, w₁, hswitch, hpure⟩ := bind_eq_some.1 fails <;> cases hpure
  obtain ⟨hf, hhandles⟩ := (meets_switchMode_fails settled).value hswitch e rfl
  have handles (n : SessionId) (hn : (s.world.handles.get? n).isSome = true) :
      w'.handles.get? n = s.world.handles.get? n := by
    obtain ⟨x, hx⟩ := Option.isSome_iff_exists.1 hn
    exact hhandles n (settled.orderly.known n x hx)
  have refused {e : Error} (he : ∀ code sqlState source,
      e ≠ .noActiveConnection .master code sqlState source) :
      ¬(s.connection.readOnly = true ∧ ∃ failure, e = .exhausted .master failure) := by
    rintro ⟨-, failure, hfailure⟩
    obtain ⟨code, sqlState, source, heq⟩ := Error.exhausted_eq .master failure
    exact he code sqlState source (hfailure.trans heq)
  cases hf with
  | closed => exact ⟨.inl rfl, rfl, handles, iff_of_true rfl (refused nofun)⟩
  | heldBack => exact ⟨.inr (.inl rfl), rfl, handles, iff_of_true rfl (refused nofun)⟩
  | noMaster failure =>
    refine ⟨.inr (.inr ⟨failure, rfl⟩), rfl, handles, ?_⟩
    cases s.connection.readOnly <;> simp

end Switch

section Stranded

/-! ## A master lost in read-only mode -/

/-- The pair in read-only mode, with a replica that was never there and a master that is gone. -/
def marooned : Act Script Connection := do
  let (_, c) ← established
  let (_, c) ← ((Operation.setReadOnly true).invoke pair).run c
  change fun w =>
    { w with
      servers := w.servers.setHost "db1:3306" { ScriptedHost.plain with reachable := false } }
  let (_, c) ← (execute pair .ping).run c
  return c

/-- The replica of the pair cannot be reached. -/
def lonely : Script where
  hosts := [("db2:3306", { ScriptedHost.plain with reachable := false })]

theorem reachable_marooned {c : Connection} {w : World Script}
    (h : marooned { servers := lonely } = (some c, w)) :
    ∃ tasks, Reachable pair ⟨c, w, tasks⟩ := by
  obtain ⟨⟨b, c₁⟩, w₁, h₁, h⟩ := bind_eq_some.1 h
  obtain ⟨⟨switched, c₂⟩, w₂, h₂, h⟩ := bind_eq_some.1 h
  obtain ⟨_, w₃, h₃, h⟩ := bind_eq_some.1 h
  obtain ⟨⟨pinged, c₄⟩, w₄, h₄, h⟩ := bind_eq_some.1 h
  cases h
  cases h₃
  have hs := ((reachable_established h₁).alone (.operation (.setReadOnly true)) rfl h₂).step
    (.drift _ (w₂.servers.setHost "db1:3306" { ScriptedHost.plain with reachable := false })
      w₂.now w₂.blacklist)
  exact ⟨_, hs.alone (.execute .ping) rfl h₄⟩

/-- Leaving read-only mode fails there, and the mode is left all the same. -/
theorem exists_failed_switch : ∃ (s : Scene Script) (e : Error) (c' : Connection)
    (w' : World Script), Reachable pair s ∧
      ((Operation.setReadOnly false).invoke pair).run s.connection s.world =
        (some (.error e, c'), w') ∧ s.connection.readOnly = true ∧ c'.readOnly = false := by
  have hx : marooned.yields { servers := lonely } (fun c w => c.readOnly &&
      (((Operation.setReadOnly false).invoke pair).run c).yields w fun x _ =>
        !x.1.isOk && !x.2.readOnly) = true := by
    decide +kernel
  obtain ⟨c, w, hy, hx⟩ := exists_of_yields hx
  obtain ⟨mode, hx⟩ := Bool.and_eq_true_iff.1 hx
  obtain ⟨⟨⟨e⟩ | ⟨_⟩, c'⟩, w', hrun, hx⟩ := exists_of_yields hx
  · obtain ⟨tasks, hs⟩ := reachable_marooned hy
    exact ⟨_, e, c', w', hs, hrun, mode, by simpa [Except.isOk, Except.toBool] using hx⟩
  · cases hx

theorem failed_switch_of_marooned : ∃ (s : Scene Script) (e : Error) (c' : Connection)
    (w' : World Script), Reachable pair s ∧
      ((Operation.setReadOnly false).invoke pair).run s.connection s.world =
        (some (.error e, c'), w') ∧ (∃ failure, e = .exhausted .master failure) ∧
      s.connection.readOnly = true ∧ c' = { s.connection with readOnly := false } := by
  obtain ⟨s, e, c', w', hs, hrun, before, after⟩ := exists_failed_switch
  obtain ⟨-, hc', -, hiff⟩ := failed_switch_iff hs hrun
  have hchanged : ¬c'.readOnly = s.connection.readOnly := by
    rw [before, after]
    exact Bool.false_ne_true
  obtain ⟨-, hexhausted⟩ := not_not.1 (hiff.not.1 hchanged)
  rw [after] at hc'
  exact ⟨s, e, c', w', hs, hrun, hexhausted, before, hc'⟩

theorem failed_switch_changes_mode : ¬∀ (s : Scene Script) (readOnly : Bool) (e : Error)
    (c' : Connection) (w' : World Script), Reachable pair s →
      ((Operation.setReadOnly readOnly).invoke pair).run s.connection s.world =
        (some (.error e, c'), w') →
      c'.readOnly = s.connection.readOnly := by
  intro claim
  obtain ⟨s, e, c', w', hs, hrun, before, after⟩ := exists_failed_switch
  have hsame := claim s false e c' w' hs hrun
  rw [before, after] at hsame
  cases hsame

end Stranded

end Failover
