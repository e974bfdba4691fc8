import Failover.Proofs.Interleaving
import Failover.Script

/-!
# What holds at all times

However the tasks of a connection are interleaved and whatever the servers do, the connection is
routed by its slots and its mode alone (`routing_of_reachable`), and a write is run on a session
only if that is the master's by the last verdict on it, or if the application asked for read-only
routing (`writes_run_on_masters`).
-/

namespace Failover

open Act World

variable {σ : Type}

/-- The flags and the route of a connection follow from its slots and its mode. -/
structure Routing (d : Deployment) (c : Connection) (w : World σ) : Prop where
  masterDown : c.masterDown = true ↔ c.master = none
  replicaDown : c.replicaDown = true ↔ d.hasReplicas = true ∧ c.replica = none
  noReplicas : d.hasReplicas = false → c.replica = none
  role : ∀ r slot, c.slot? r = some slot →
    ∃ h, w.handles.get? slot.session = some h ∧ h.role = r
  current : c.current =
    if c.replica.isSome && (c.readOnly || c.master.isNone) then some .replica
    else if c.master.isSome then some .master
    else none

section Reachable

variable [Cluster σ] {d : Deployment} {s : Scene σ}

theorem routing_of_reachable (h : Reachable d s) : Routing d s.connection s.world := by
  have hs := h.atRest.settled
  obtain ⟨hm, hr, hw, -⟩ := hs.coherent
  refine ⟨?_, ?_, ?_, ?_, hs.rest⟩
  · rw [hm, Option.isNone_iff_eq_none]
  · rw [hr, hs.topology, Bool.and_eq_true, Option.isNone_iff_eq_none]
  · intro hno
    rw [← Option.not_isSome_iff_eq_none]
    intro hsome
    rw [← hs.topology, hw hsome] at hno
    exact Bool.noConfusion hno
  · intro r slot hslot
    obtain ⟨x, hx, -, hxr, -⟩ := hs.holds r slot hslot
    exact ⟨x, hx, hxr⟩

end Reachable

/-- A master and a replica. -/
def pair : Deployment where
  config :=
    { topology := .replication
      hosts := ["db1?type=master", "db2"]
      failover := { retriesAllDown := 1 } }
  hosts := [⟨⟨"db1", 3306⟩, some .master⟩, ⟨⟨"db2", 3306⟩, none⟩]

/-- A new connection to the pair. -/
def established : Act Script (Except Error Unit × Connection) := establish pair (.new true)

theorem reachable_established {servers : Script} {b : Except Error Unit} {c : Connection}
    {w : World Script} (h : established { servers } = (some (b, c), w)) :
    Reachable pair ⟨c, w, [⟨_, .done b⟩]⟩ := by
  refine (Reachable.start (d := pair) servers 0 {}).alone .establish rfl ?_
  rw [Job.run_atomic]
  exact h

theorem routing_of_pair : ∃ s : Scene Script, Reachable pair s ∧
    s.connection.master.isSome = true ∧ s.connection.replica.isSome = true ∧
      Routing pair s.connection s.world := by
  have hx : established.yields { servers := {} } (fun x _ =>
      x.2.master.isSome && x.2.replica.isSome) = true := by
    decide +kernel
  obtain ⟨⟨b, c⟩, w, hy, hbound⟩ := exists_of_yields hx
  obtain ⟨hm, hr⟩ := Bool.and_eq_true_iff.1 hbound
  have h := reachable_established hy
  exact ⟨_, h, hm, hr, routing_of_reachable h⟩

section Reachable

variable [Cluster σ] {d : Deployment} {s : Scene σ}

/-- A write that the next section of a task hands to a session was held back from replicas. -/
theorem writes_run_on_masters (h : Reachable d s) {α β : Type} {act : Section σ β}
    {next : β → Job σ α} (turn : ⟨α, .step act next⟩ ∈ s.tasks) {t : Nat} {n : SessionId}
    {cmd : Command} {past : List Entry}
    (run : ⟨t, .ran n cmd⟩ :: past <:+ (act s.connection s.world).2.journal)
    (new : s.world.journal <:+ past) (write : cmd.isWrite = true) :
    s.connection.readOnly = true ∨ latestVerdict n past = some (.role .master) := by
  have hact : Lawful d β act := by
    cases h.atRest.lawful _ turn with
    | step head _ => exact head
  have hguarded : Guarded s.connection s.world (act s.connection s.world).2 := by
    have hm := hact _ _ h.atRest.settled
    rcases hx : act s.connection s.world with ⟨_ | ⟨b, c⟩, w⟩
    · exact hm.stalled hx
    · exact (hm.value hx).2.1
  exact hguarded t n cmd past run new write

end Reachable

/-- A statement that writes. -/
def increment : Command := .execute "UPDATE t SET n = n + 1"

theorem increment_runs_on_master : ∃ (s : Scene Script) (t : Nat) (n : SessionId)
    (past : List Entry), Reachable pair s ∧ ⟨_, .reading (dispatch increment)⟩ ∈ s.tasks ∧
      ⟨t, .ran n increment⟩ :: past <:+
        (Job.unchanged (dispatch increment) s.connection s.world).2.journal ∧
      s.world.journal <:+ past ∧ increment.isWrite = true ∧
      (s.connection.readOnly = true ∨ latestVerdict n past = some (.role .master)) := by
  have hwrite : increment.isWrite = true := by decide +kernel
  have hx : established.yields { servers := {} } (fun x w =>
      (dispatch increment x.2).yields w fun r _ => r.isOk) = true := by
    decide +kernel
  obtain ⟨⟨b, c⟩, w, hy, hx⟩ := exists_of_yields hx
  have h := (reachable_established hy).step (.call _ (.dispatch increment))
  obtain ⟨_ | x, w', hz, hok⟩ := exists_of_yields hx
  · cases hok
  have hj : (Job.unchanged (dispatch increment) c w).2.journal = w'.journal := by
    unfold Job.unchanged
    rw [bind_apply, hz]
    rfl
  have hmem : (⟨_, .reading (dispatch increment)⟩ : Task Script) ∈
      [⟨_, .done b⟩] ++ [Call.task pair (.dispatch increment)] := by simp [Call.task]
  cases meets_dispatch.value hz with
  | sent x wait result hr hran =>
    have hrun : ⟨w.now, .ran x.session increment⟩ :: w.journal <:+
        (Job.unchanged (dispatch increment) c w).2.journal := by
      rw [hj, hran.journal]
      exact List.suffix_cons _ _
    exact ⟨_, w.now, x.session, w.journal, h, hmem, hrun, List.suffix_rfl, hwrite,
      writes_run_on_masters h hmem hrun List.suffix_rfl hwrite⟩

end Failover
