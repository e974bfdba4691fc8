import Failover.Proofs.History

/-!
# How often reads have the master looked for

While a replica stands in, a read has the master looked for only if that is due: when the master
has been left alone for some time, or when enough reads have been made on the replica since the
fallback began or the master was looked for (`Due`). The decision is taken from the count that the
connection keeps, and the pass is made in a later section. So a pass is due exactly when the count
still suffices by then without what was carried over from an earlier fallback (`retry_due_iff`).
-/

namespace Failover

open Act World

variable {σ : Type}

/-- No failure of the master is on record, or it was long enough ago. -/
def Rested (d : Deployment) (s : Scene σ) : Prop :=
  ∀ failure ∈ s.connection.lastMasterFailure, d.retryMasterAfter ≤ s.world.now - failure

/-- What makes it time to look for the master, after these moments. -/
def Due (d : Deployment) (ms : List Moment) (s : Scene σ) : Prop :=
  Rested d s ∨ d.config.failover.queriesBeforeRetryMaster ≤ readsOnFallback ms

instance (d : Deployment) (s : Scene σ) : Decidable (Rested d s) :=
  inferInstanceAs (Decidable (∀ failure ∈ s.connection.lastMasterFailure, _))

instance (d : Deployment) (ms : List Moment) (s : Scene σ) : Decidable (Due d ms s) :=
  inferInstanceAs (Decidable (_ ∨ _))

/-- In a run from a new connection the hook of a command decides in `s` to try for the master. Its
task begins the pass in `m`, after what `mid` tells of the others. -/
inductive Retries [Cluster σ] (d : Deployment) (cmd : Command) (s m : Scene σ)
    (mid : List Moment) : List Moment → Prop
  | intro {servers : σ} {now : Nat} {blacklist : Blacklist} {past : List Moment} {c : Connection}
      {w : World σ} {before after before' after' : List (Task σ)} {α : Type}
      {next : Admission → Job σ α} {rest : Except Error Unit → Job σ α}
      (run : History d ⟨.new d.hasReplicas, { servers, now, blacklist }, []⟩ past s)
      (turn : s.tasks = before ++ ⟨α, .step (assess d cmd) next⟩ :: after)
      (decides : assess d cmd s.connection s.world = (some (.tryMaster, c), w))
      (others : History d ⟨c, w, before ++ ⟨α, next .tryMaster⟩ :: after⟩ mid m)
      (pass : next .tryMaster = .step (tryMaster d) rest)
      (turn' : m.tasks = before' ++ ⟨α, .step (tryMaster d) rest⟩ :: after')
      (down : m.connection.masterDown = true) :
      Retries d cmd s m mid (mid ++ ⟨.hook cmd, s.connection, c⟩ :: past)

section Decision

variable {d : Deployment} {cmd : Command} {c c' : Connection} {now : Nat}

theorem retryDue_iff : retryDue d now c = true ↔
    (∀ failure ∈ c.lastMasterFailure, d.retryMasterAfter ≤ now - failure) ∨
      d.config.failover.queriesBeforeRetryMaster ≤ c.fallbackReads := by
  simp [retryDue, Option.all_eq_true]

theorem of_admission_tryMaster (h : admission d cmd now c = (.tryMaster, c')) :
    cmd.isWrite = false ∧ c.isFallback = true ∧
      c' = { c with fallbackReads := c.fallbackReads + 1 } ∧ retryDue d now c' = true := by
  unfold admission at h
  split at h
  · cases h
  cases hread : c.isFallback && !cmd.isWrite with
  | false =>
    simp only [hread, Bool.false_eq_true, if_false] at h
    split at h
    · split at h <;> cases h
    · split_ifs at h <;> cases h
  | true =>
    obtain ⟨hfall, hwrite⟩ : c.isFallback = true ∧ cmd.isWrite = false := by simpa using hread
    simp only [hread, if_true] at h
    split at h
    · split at h <;> cases h
    · split_ifs at h with hpass hdue <;> cases h
      exact ⟨hwrite, hfall, rfl, hdue⟩

end Decision

section Passes

variable [Cluster σ] {d : Deployment} {cmd : Command} {s m : Scene σ} {mid ms : List Moment}

/-- Without a section the connection stays as it is. -/
theorem History.connection_eq (h : History d s [] m) : m.connection = s.connection := by
  generalize hms : ([] : List Moment) = ms at h
  induction h with
  | refl => rfl
  | call _ _ ih => exact ih hms
  | advance => cases hms
  | leave _ _ ih => exact ih hms
  | drift _ _ _ _ ih => exact ih hms

/-- A read that is alone begins a pass right after its hook. -/
theorem History.retries {servers : σ} {now : Nat} {blacklist : Blacklist} {c c' : Connection}
    {w w' : World σ} (h : History d ⟨.new d.hasReplicas, { servers, now, blacklist }, []⟩ ms
      ⟨c, w, []⟩) (decides : assess d cmd c w = (some (.tryMaster, c'), w'))
    (down : c'.masterDown = true) : ∃ tasks tasks',
      Retries d cmd ⟨c, w, tasks⟩ ⟨c', w', tasks'⟩ [] (⟨.hook cmd, c, c'⟩ :: ms) := by
  obtain ⟨α, next, htask, rest, hpass⟩ : ∃ (α : Type) (next : Admission → Job σ α),
      (Call.prepare cmd).task d = ⟨α, .step (assess d cmd) next⟩ ∧
        ∃ rest, next .tryMaster = .step (tryMaster d) rest := ⟨_, _, rfl, _, rfl⟩
  have run := h.call (.prepare cmd)
  rw [htask] at run
  have others : History d ⟨c', w', [] ++ ⟨α, next .tryMaster⟩ :: []⟩ [] _ := .refl
  exact ⟨_, _, .intro run rfl decides others hpass (by rw [hpass]) down⟩

/-- What was carried over does not make it time. -/
theorem History.due_iff {s₀ : Scene σ} (h : History d s₀ ms m) (h₀ : Reachable d s₀)
    (hzero : s₀.connection.fallbackReads = 0) : Due d ms m ↔ Rested d m ∨
      d.config.failover.queriesBeforeRetryMaster + carriedOver ms ≤ m.connection.fallbackReads := by
  rw [h.fallbackReads h₀ hzero, Nat.add_comm, Nat.add_le_add_iff_left]
  rfl

/-- A read on a stand-in begins a pass for the master only if it found the master left alone for
long enough, or the count of the connection high enough. The pass is due if what was carried over
from an earlier fallback was not needed for that by the time at which it begins. -/
theorem retry_due_iff (h : Retries d cmd s m mid ms) :
    (cmd.isWrite = false ∧ s.connection.isFallback = true) ∧
    (Rested d s ∨ d.config.failover.queriesBeforeRetryMaster ≤ s.connection.fallbackReads + 1) ∧
    (Due d ms m ↔ Rested d m ∨
      d.config.failover.queriesBeforeRetryMaster + carriedOver ms ≤ m.connection.fallbackReads) ∧
    (mid = [] → s.world.now ≤ m.world.now → carriedOver ms = 0 → Due d ms m) := by
  cases h with
  | @intro servers now blacklist past c w _ _ _ _ _ _ _ run turn decides others =>
  have hassess : (assess d cmd s.connection).Meets s.world
      (fun x w' => x = admission d cmd s.world.now s.connection ∧ s.world.Still w')
      fun _ => True := meets_assess
  obtain ⟨hwrite, hfall, hc, hdue⟩ := of_admission_tryMaster (hassess.value decides).1.symm
  rw [retryDue_iff] at hdue
  have hiff := ((run.advance turn (.assess cmd) decides).trans others).due_iff
    (.start servers now blacklist) rfl
  refine ⟨⟨hwrite, hfall⟩, by rwa [hc] at hdue, hiff, ?_⟩
  rintro rfl hnow hcarried
  rw [hiff, hcarried, others.connection_eq]
  refine hdue.imp_left fun hrested failure hf => ?_
  rw [others.connection_eq] at hf
  exact (hrested failure hf).trans (Nat.sub_le_sub_right hnow failure)

end Passes

section Relapse

/-! ## A second fallback -/

/-- A failover after which nothing is sent again, with the call given up in the end. -/
theorem History.failOver [Cluster σ] {d : Deployment} {s₀ s : Scene σ} {ms : List Moment}
    (h : History d s₀ ms s) (n : SessionId) {b : Bool} {a : Recovery} {c : Connection}
    {u w : World σ} (flag : readFlag n s.connection s.world = (some b, u))
    (comes : recover d n b s.connection u = (some (a, c), w)) :
    History d s₀ (⟨.other, s.connection, c⟩ :: ⟨.other, s.connection, s.connection⟩ :: ms)
      ⟨c, w, s.tasks⟩ := by
  have hflag := (h.call (.failOver n none)).advance rfl (.unchanged (readFlag n))
    (bind_eq_some.2 ⟨b, u, flag, rfl⟩)
  have hgone := (hflag.advance rfl (.recover n b) comes).leave rfl
  rwa [List.append_nil] at hgone

/-- The pair, with a master that is looked for again on every second read. -/
def hasty : Deployment :=
  { pair with config.failover := { retriesAllDown := 1, queriesBeforeRetryMaster := 2 } }

/-- The master of the pair goes away or comes back. -/
def turnMaster (reachable : Bool) : Act Script Unit :=
  change fun w => { w with
    servers := w.servers.setHost "db1:3306" { ScriptedHost.plain with reachable } }

/-- A read passes the hook while a replica stands in for the master. The master is found again by a
change of mode, and lost once more. -/
def relapse : Act Script (Connection × List Moment) := do
  let c₀ := Connection.new true
  let (_, c₁) ← establish hasty c₀
  turnMaster false
  let (_, c₂) ← recover hasty 1 (← readFlag 1 c₁) c₁
  let (_, c₃) ← assess hasty (.query "SELECT 1") c₂
  turnMaster true
  let (_, c₄) ← switchMode hasty false c₃
  turnMaster false
  let (_, c₅) ← recover hasty 3 (← readFlag 3 c₄) c₄
  return (c₅, [⟨.other, c₄, c₅⟩, ⟨.other, c₄, c₄⟩, ⟨.other, c₃, c₄⟩,
    ⟨.hook (.query "SELECT 1"), c₂, c₃⟩, ⟨.other, c₁, c₂⟩, ⟨.other, c₁, c₁⟩, ⟨.other, c₀, c₁⟩])

theorem history_relapse {c : Connection} {ms : List Moment} {w : World Script}
    (h : relapse { servers := {} } = (some (c, ms), w)) :
    History hasty ⟨.new true, { servers := {} }, []⟩ ms ⟨c, w, []⟩ := by
  obtain ⟨⟨_, c₁⟩, w₁, h₁, h⟩ := bind_eq_some.1 h
  obtain ⟨_, w₂, h₂, h⟩ := bind_eq_some.1 h
  obtain ⟨b₁, w₃, h₃, h⟩ := bind_eq_some.1 h
  obtain ⟨⟨_, c₂⟩, w₄, h₄, h⟩ := bind_eq_some.1 h
  obtain ⟨⟨_, c₃⟩, w₅, h₅, h⟩ := bind_eq_some.1 h
  obtain ⟨_, w₆, h₆, h⟩ := bind_eq_some.1 h
  obtain ⟨⟨_, c₄⟩, w₇, h₇, h⟩ := bind_eq_some.1 h
  obtain ⟨_, w₈, h₈, h⟩ := bind_eq_some.1 h
  obtain ⟨b₂, w₉, h₉, h⟩ := bind_eq_some.1 h
  obtain ⟨⟨_, c₅⟩, w', h', h⟩ := bind_eq_some.1 h
  cases h
  cases h₂
  cases h₆
  cases h₈
  have start : History hasty (σ := Script) ⟨.new true, { servers := {} }, []⟩ [] _ := .refl
  have toPair := start.visit .establish rfl .establish h₁
  have lost := (toPair.drift _ w₁.now w₁.blacklist).failOver 1 h₃ h₄
  have read := lost.visit (.prepare (.query "SELECT 1")) rfl (.assess _) h₅
  have found := (read.drift _ w₅.now w₅.blacklist).visit (.operation (.setReadOnly false)) rfl
    (.switchMode false) h₇
  exact (found.drift _ w₇.now w₇.blacklist).failOver 3 h₉ h'

/-- A single read has the master looked for there. -/
theorem exists_retries_early : ∃ (s m : Scene Script) (ms : List Moment),
    Retries hasty (.query "SELECT 1") s m [] ms ∧ s.world.now ≤ m.world.now ∧ ¬Due hasty ms m := by
  have hx : relapse.yields { servers := {} } (fun x w =>
      (assess hasty (.query "SELECT 1") x.1).yields w fun y w' =>
        (y.1 matches .tryMaster) && y.2.masterDown && decide (w.now ≤ w'.now) &&
          !decide (Due hasty (⟨.hook (.query "SELECT 1"), x.1, y.2⟩ :: x.2) ⟨y.2, w', []⟩))
            = true := by
    decide +kernel
  obtain ⟨⟨c, ms⟩, w, hrun, hx⟩ := exists_of_yields hx
  obtain ⟨⟨a, c'⟩, w', decides, hx⟩ := exists_of_yields hx
  simp only [Bool.and_eq_true, Bool.not_eq_true', decide_eq_true_eq, decide_eq_false_iff_not] at hx
  obtain ⟨⟨⟨htry, down⟩, hnow⟩, hdue⟩ := hx
  cases a <;> cases htry
  obtain ⟨tasks, tasks', h⟩ := (history_relapse hrun).retries decides down
  exact ⟨_, _, _, h, hnow, hdue⟩

theorem retry_due_of_relapse : ∃ (s m : Scene Script) (ms : List Moment),
    Retries hasty (.query "SELECT 1") s m [] ms ∧ ¬Rested hasty m ∧ 0 < carriedOver ms ∧
      m.connection.fallbackReads < 2 + carriedOver ms := by
  obtain ⟨s, m, ms, h, hnow, hdue⟩ := exists_retries_early
  obtain ⟨-, -, hiff, hclean⟩ := retry_due_iff h
  obtain ⟨hrested, hfew⟩ := not_or.1 (hiff.not.1 hdue)
  have hcarried : carriedOver ms ≠ 0 := fun h => hdue (hclean rfl hnow h)
  exact ⟨s, m, ms, h, hrested, Nat.pos_of_ne_zero hcarried, Nat.lt_of_not_le hfew⟩

theorem retry_without_due : ¬∀ (cmd : Command) (s m : Scene Script) (mid ms : List Moment),
    Retries hasty cmd s m mid ms → Due hasty ms m := by
  intro claim
  obtain ⟨s, m, ms, h, -, hdue⟩ := exists_retries_early
  exact hdue (claim _ s m [] ms h)

end Relapse

end Failover
