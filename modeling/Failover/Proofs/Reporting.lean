import Failover.Proofs.SharedRecovery

/-!
# What callers are told

A failover whose command is not sent again tells its caller how things stand (`Report.Truthful`):
the connection is back only if it has a master, and if a replica stands in for it the cause is the
election that found none. There is one exception. A call that finds the session given up already
says that the connection is back, even if it is on a stand-in (`report_truthful_iff`).
-/

namespace Failover

open Act World

variable {σ : Type}

/-- What a recovery from the loss of the master comes to. -/
inductive Told (c : Connection) : Recovery → Prop
  | restored (master : c.master.isSome = true) : Told c .restored
  | standIn (failure : Option Error) (replica : c.replica.isSome = true) :
      Told c (.standIn (.exhausted .master failure))
  | failed (failure : Option Error) : Told c (.failed (.exhausted .master failure))

/-- What a recovery from the loss of the session comes to, where it found `c`. -/
inductive Resolved (n : SessionId) (c : Connection) (x : Recovery × Connection) : Prop
  /-- Another recovery had been there before. -/
  | already (recovered : Recovered n c) (same : x = (.restored, c))
  | searched (unrecovered : ¬Recovered n c) (told : Told x.2 x.1)

/-- What is reported of a recovery after which nothing is sent again. -/
def Recovery.report : Recovery → Report
  | restored => .raising true none
  | standIn e | failed e => .raising false (some e)

/-- The report says how things stand with the connection. -/
structure Report.Truthful (report : Report) (c : Connection) : Prop where
  master : report.reconnected = true → c.master.isSome = true
  fallback : c.isFallback = true → report.reconnected = false ∧
    ∃ failure, report.cause = some (.exhausted .master failure)

section Told

variable [Cluster σ] {d : Deployment} {n : SessionId} {c c₀ : Connection} {w : World σ}

theorem told_recoverMaster {inTransaction : Bool} (hs : Settled d c w) (hopen : c.closed = false) :
    (recoverMaster d inTransaction c).Meets w (fun x _ => Told x.2 x.1) fun _ => True := by
  refine meets_recoverMaster_of (A := fun _ => True) (B := fun _ _ _ => True) hs.toSound
    (meets_abandon_known hs.orderly fun _ _ => trivial)
    (fun _ _ _ _ => meets_of_forall (fun _ _ => trivial) fun _ => trivial)
    (fun now s _ _ _ => .restored ?_) fun now w₂ _ hs₂ => ?_
  · exact congrArg Option.isSome ((c.masterLost now).slot_promote_master s)
  · refine (meets_masterElection hs₂ hopen rfl ⟨rfl, rfl, fun h => by cases h⟩).mono ?_ fun _ h => h
    rintro x w₃ ⟨hs₃, hfound, hexhausted⟩
    constructor
    · intro hx
      exact .restored (hfound hx)
    · intro e hx
      obtain ⟨failure, rfl⟩ := hexhausted e hx
      refine ⟨.failed failure, ?_⟩
      intro hrep _ _
      exact .standIn failure (hs₃.coherent.replicaAvailable.symm.trans hrep)

theorem resolved_recover {inTransaction : Bool} (hs : Settled d c w) (hf : Fate n c₀ c w)
    (hopen : c₀.closed = false) (hn : c₀.roleOf n = some .master) :
    (recover d n inTransaction c).Meets w (fun x _ => Resolved n c x) fun _ => True := by
  by_cases hrec : Recovered n c
  · rw [hrec.recover_eq]
    exact meets_bind_harmless (harmless_log _ _) fun _ _ _ => meets_pure (.already hrec rfl)
  have told (hclosed : c.closed = false) : (recoverMaster d inTransaction c).Meets w
      (fun x _ => Resolved n c x) fun _ => True :=
    (told_recoverMaster hs hclosed).mono (fun _ _ h => .searched hrec h) fun _ h => h
  rcases hf with rfl | hg
  · unfold recover
    rw [hopen, hn]
    exact told hopen
  · have hclosed := hg.closed.trans hopen
    rw [recover_of_gone hclosed hg.roleOf, if_neg fun hrouted => hrec ⟨hclosed, hg.roleOf, hrouted⟩]
    exact told hclosed

omit [Cluster σ] in
/-- A replica that stands in is a session to go to. -/
theorem recovered_of_fallback (hs : Settled d c w) (hopen : c.closed = false)
    (hgone : c.roleOf n = none) (hfall : c.isFallback = true) : Recovered n c := by
  refine ⟨hopen, hgone, ?_⟩
  obtain ⟨hcur, -, hdown⟩ := Connection.fallback_iff.1 hfall
  have hrest := hs.rest
  rw [hcur] at hrest
  rw [Connection.isSome_currentSlot hs.rest]
  rcases hrep : c.replica with _ | t
  · rw [Connection.target, hrep, hs.coherent.master_eq_none hdown] at hrest
    cases hrest
  · rw [Option.isSome_some, Bool.or_true]

omit [Cluster σ] in
/-- Unless a replica stands in, commands go to a master. -/
theorem isSome_master_of_recovered (hs : Settled d c w) (hro : c.readOnly = false)
    (hrec : Recovered n c) (hfall : c.isFallback = false) : c.master.isSome = true := by
  by_contra hm
  rw [Bool.not_eq_true, Option.isSome_eq_false_iff, Option.isNone_iff_eq_none] at hm
  have hsome := hrec.routed
  rw [Connection.isSome_currentSlot hs.rest, hm, Option.isSome_none, Bool.false_or] at hsome
  have hcur : c.current = some .replica := by
    rw [hs.rest]
    simp [Connection.target, hsome, hm]
  have hdown : c.masterDown = true := by rw [hs.coherent.masterDown, hm]; rfl
  cases hfall.symm.trans (Connection.fallback_iff.2 ⟨hcur, hro, hdown⟩)

omit [Cluster σ] in
theorem Told.truthful {r : Recovery} (h : Told c r) (hs : Settled d c w) :
    r.report.Truthful c := by
  cases h with
  | restored hm =>
    refine ⟨fun _ => hm, ?_⟩
    intro hfall
    have hdown := hs.coherent.master_eq_none (Connection.fallback_iff.1 hfall).2.2
    rw [hdown] at hm
    cases hm
  | standIn failure _ => exact ⟨nofun, fun _ => ⟨rfl, failure, rfl⟩⟩
  | failed failure => exact ⟨nofun, fun _ => ⟨rfl, failure, rfl⟩⟩

omit [Cluster σ] in
/-- A recovery that does not fail leaves a session to go to. -/
theorem Resolved.routed {r : Recovery} {c' : Connection} (h : Resolved n c (r, c'))
    (hs : Settled d c' w) (hr : ∀ e, r ≠ .failed e) : c'.currentSlot.isSome = true := by
  cases h with
  | already hrec he =>
    rw [(Prod.mk.inj he).2]
    exact hrec.routed
  | searched _ htold =>
    rw [Connection.isSome_currentSlot hs.rest]
    cases htold with
    | restored hm => rw [hm, Bool.true_or]
    | standIn _ hrep => rw [hrep, Bool.or_true]
    | failed failure => exact absurd rfl (hr _)

theorem meets_redispatch_read {cmd : Command} (hs : Settled d c w)
    (hcur : c.currentSlot.isSome = true) (hcmd : cmd.isRepeatable = true) :
    (redispatch cmd c).Meets w (fun x _ => ∃ y, x = .ok y) fun _ => True := by
  obtain ⟨q, hq⟩ := Option.isSome_iff_exists.1 hcur
  obtain ⟨r, hr⟩ := Connection.slot_of_current hq
  unfold redispatch
  refine meets_bind_harmless (harmless_log _ _) fun _ w₁ h₁ => ?_
  obtain ⟨x, hx, -⟩ := (hs.beside h₁.beside).holds r q hr
  exact meets_dispatch_of hq hx (Command.not_isWrite hcmd)
    (meets_of_forall (fun _ _ => ⟨_, rfl⟩) fun _ => trivial)

end Told

section Course

variable [Cluster σ] {d : Deployment} {n : SessionId} {s s' : Scene σ} {vs : List (Visit σ)}
  {cmd : Option Command} {report : Report} {M : Scene σ → Scene σ → Prop}

theorem Course.unsent {inTransaction : Bool} {cause : Option Error}
    (h : Course M (sendAgain cmd inTransaction cause) s vs (some report) s')
    (hv : handedOver vs = []) (hready : ∀ m, M s m →
      Settled d m.connection m.world ∧ m.connection.currentSlot.isSome = true) :
    vs = [] ∧ report = .raising cause.isNone cause ∧ s' = s := by
  unfold sendAgain at h
  rcases hf : cmd.filter (fun cmd => cmd.isRepeatable && !inTransaction) with _ | x <;>
    rw [hf] at h
  · obtain ⟨rfl, hr, rfl⟩ := h.of_done
    exact ⟨rfl, Option.some.inj hr, rfl⟩
  obtain ⟨-, hsafe⟩ := Option.filter_eq_some_iff.1 hf
  obtain ⟨hrepeatable, -⟩ := Bool.and_eq_true_iff.1 hsafe
  rcases h.of_bind with ⟨hn, -⟩ | ⟨y, vs₁, vs₂, m₁, rfl, h₁, -⟩
  · cases hn
  obtain ⟨m, w, hm, -, hx, hv₁, -⟩ := h₁.of_reading
  obtain ⟨hs, hcur⟩ := hready m hm
  obtain ⟨z, rfl⟩ := (meets_redispatch_read hs hcur hrepeatable).value hx
  rw [handedOver_append, hv₁] at hv
  cases (dispatches_redispatch x _ _).value hx with
  | sent h wait result hr hran =>
    rw [hran.handovers] at hv
    cases hv

/-- What a failover went through that sent nothing again: the others had their turns before it
looked at the handle, and before it recovered. -/
structure Unsent (d : Deployment) (n : SessionId) (m₁ m₂ s' : Scene σ) (vs : List (Visit σ))
    (r : Recovery) (report : Report) : Prop where
  visits : ∃ inTransaction, vs = [⟨Job.unchanged (readFlag n), m₁.connection, m₁.world⟩,
    ⟨recover d n inTransaction, m₂.connection, m₂.world⟩]
  others : Relation.ReflTransGen (Scene.Joins d n) m₁ m₂
  settled : Settled d s'.connection s'.world
  resolved : Resolved n m₂.connection (r, s'.connection)
  report : report = r.report

theorem Course.ofFailOver {c₀ : Connection}
    (h : Course (Relation.ReflTransGen (Scene.Joins d n)) (failOver d n cmd) s vs (some report) s')
    (hv : handedOver vs = []) (hs : Sharing d n c₀ s) (hopen : c₀.closed = false)
    (hn : c₀.roleOf n = some .master) :
    ∃ m₁ m₂ r, Sharing d n c₀ m₁ ∧ Sharing d n c₀ m₂ ∧ Unsent d n m₁ m₂ s' vs r report := by
  have hsome : (c₀.roleOf n).isSome = true := by rw [hn]; rfl
  unfold failOver at h
  rcases h.of_bind with ⟨hnone, -⟩ | ⟨flag, vs₁, vs₂, m, rfl, h₁, h₂⟩
  · cases hnone
  obtain ⟨m₁, w₁, hm₁, rfl, hx, hv₁, hm⟩ := h₁.of_reading
  obtain rfl : w₁ = m₁.world := by cases hx; rfl
  obtain rfl := hm rfl
  have hs₁ := hs.run hopen hsome hm₁
  rcases h₂.of_bind with ⟨hnone, -⟩ | ⟨r, vs₃, vs₄, m, rfl, h₃, h₄⟩
  · cases hnone
  obtain ⟨m₂, hm₂, rfl, ⟨_, c, w, hx, hb, rfl⟩ | ⟨w, -, hnone⟩⟩ := h₃.of_atomic
  swap
  · cases hnone
  cases hb
  have hs₂ := hs₁.run hopen hsome hm₂
  obtain ⟨hsettled, hgone⟩ := (gone_recover hs₂.settled hs₂.fate hopen hsome).value hx
  have hresolved := (resolved_recover hs₂.settled hs₂.fate hopen hn).value hx
  have hv₄ : handedOver vs₄ = [] := by
    rw [handedOver_append, handedOver_append] at hv
    exact (List.append_eq_nil_iff.1 (List.append_eq_nil_iff.1 hv).2).2
  have ready (hcur : c.currentSlot.isSome = true) (m : Scene σ)
      (hm : Relation.ReflTransGen (Scene.Joins d n) ⟨c, w, m₂.tasks⟩ m) :
      Settled d m.connection m.world ∧ m.connection.currentSlot.isSome = true := by
    have hrec : Recovered n c := ⟨hgone.closed.trans hopen, hgone.roleOf, hcur⟩
    have hs₃ : Sharing d n c₀ ⟨c, w, m₂.tasks⟩ := ⟨hsettled, hs₂.tasks, .inr hgone⟩
    refine ⟨(hs₃.run hopen hsome hm).settled, ?_⟩
    rw [(Settling.run hs₃.tasks hrec hm).connection]
    exact hcur
  cases r with
  | restored =>
    obtain ⟨rfl, hr, rfl⟩ := Course.unsent h₄ hv₄ (ready (hresolved.routed hsettled nofun))
    exact ⟨m₁, m₂, .restored, hs₁, hs₂, ⟨flag, rfl⟩, hm₂, hsettled, hresolved, hr⟩
  | standIn e =>
    obtain ⟨rfl, hr, rfl⟩ := Course.unsent h₄ hv₄ (ready (hresolved.routed hsettled nofun))
    exact ⟨m₁, m₂, .standIn e, hs₁, hs₂, ⟨flag, rfl⟩, hm₂, hsettled, hresolved, hr⟩
  | failed e =>
    obtain ⟨rfl, hr, rfl⟩ := h₄.of_done
    exact ⟨m₁, m₂, .failed e, hs₁, hs₂, ⟨flag, rfl⟩, hm₂, hsettled, hresolved, Option.some.inj hr⟩

/-- Whatever tasks share the loss of the master and in whatever order they recover, a caller whose
command was not sent again is told how things stand, unless its call found the session given up
already and a replica standing in. -/
theorem report_truthful_iff (h : Reachable d s) (alone : s.tasks = [])
    (mode : s.connection.readOnly = false) (broken : s.connection.roleOf n = some .master)
    (course : Course (Relation.ReflTransGen (Scene.Joins d n)) (failOver d n cmd) s vs
      (some report) s') (unsent : handedOver vs = []) :
    report.Truthful s'.connection ↔
      ¬∃ v ∈ vs, v.connection.roleOf n = none ∧ v.connection.isFallback = true := by
  obtain ⟨slot, hslot, -⟩ := Connection.slot_of_roleOf broken
  have hopen := h.isOpen hslot
  obtain ⟨m₁, m₂, r, h₁, h₂, ⟨flag, rfl⟩, others, hs', hresolved, rfl⟩ :=
    course.ofFailOver unsent (h.sharing alone) hopen broken
  have hopen₁ := h₁.fate.settings.1.trans hopen
  have hopen₂ := h₂.fate.settings.1.trans hopen
  have mode₂ := h₂.fate.settings.2.trans mode
  have found {v : Visit σ} (hv : v ∈ [(⟨Job.unchanged (readFlag n), m₁.connection, m₁.world⟩ :
      Visit σ), ⟨recover d n flag, m₂.connection, m₂.world⟩]) (hgone : v.connection.roleOf n = none)
      (hfall : v.connection.isFallback = true) :
      Recovered n m₂.connection ∧ m₂.connection.isFallback = true := by
    simp only [List.mem_cons, List.not_mem_nil, or_false] at hv
    rcases hv with rfl | rfl
    · have hrec := recovered_of_fallback h₁.settled hopen₁ hgone hfall
      rw [(Settling.run h₁.tasks hrec others).connection]
      exact ⟨hrec, hfall⟩
    · exact ⟨recovered_of_fallback h₂.settled hopen₂ hgone hfall, hfall⟩
  cases hresolved with
  | searched hrec htold =>
    refine iff_of_true (htold.truthful hs') ?_
    rintro ⟨v, hv, hgone, hf⟩
    exact hrec (found hv hgone hf).1
  | already hrec he =>
    obtain ⟨rfl, hc⟩ := Prod.mk.inj he
    cases hfall : m₂.connection.isFallback with
    | true =>
      refine iff_of_false ?_ fun hno => hno ?_
      · intro ht
        cases (ht.fallback (hc ▸ hfall)).1
      · exact ⟨_, List.mem_cons_of_mem _ List.mem_cons_self, hrec.gone, hfall⟩
    | false =>
      refine iff_of_true ⟨?_, ?_⟩ ?_
      · intro _
        rw [hc]
        exact isSome_master_of_recovered h₂.settled mode₂ hrec hfall
      · intro h
        rw [hc, hfall] at h
        cases h
      · rintro ⟨v, hv, hgone, hf⟩
        cases hfall.symm.trans (found hv hgone hf).2

end Course

section Severed

/-! ## A master lost for good -/

/-- The pair, whose master can no longer be reached. -/
def severed : Act Script Connection := do
  let (_, c) ← established
  change fun w =>
    { w with
      servers := w.servers.setHost "db1:3306" { ScriptedHost.plain with reachable := false } }
  return c

theorem reachable_severed {c : Connection} {w : World Script}
    (h : severed { servers := {} } = (some c, w)) : Reachable pair ⟨c, w, []⟩ := by
  obtain ⟨⟨b, c₁⟩, w₁, h₁, h⟩ := bind_eq_some.1 h
  obtain ⟨_, w₂, h₂, h⟩ := bind_eq_some.1 h
  cases h
  cases h₂
  exact ((reachable_established h₁).step (.drift _ (w₁.servers.setHost "db1:3306"
    { ScriptedHost.plain with reachable := false }) w₁.now w₁.blacklist)).deserted

/-- Session 1 is the master's. -/
def isSevered (c : Connection) : Bool := c.roleOf 1 = some .master && !c.readOnly

/-- Whether the failover of a write finds only the replica, and what its caller is told. -/
def isLost (told : Bool) (c : Connection) (w : World Script) : Bool :=
  ((failOver pair 1 (some increment)).run c).yields w fun x _ =>
    x.2.master.isNone && x.2.isFallback && x.1.reconnected == told &&
      (handedOver ((failOver pair 1 (some increment)).visits c w)).isEmpty

theorem of_isLost {told : Bool} {c : Connection} {w : World Script} (h : isLost told c w = true)
    (tasks : List (Task Script)) : ∃ vs report s',
      Course (Relation.ReflTransGen (Scene.Joins pair 1)) (failOver pair 1 (some increment))
        ⟨c, w, tasks⟩ vs (some report) s' ∧ handedOver vs = [] ∧ report.reconnected = told ∧
      s'.connection.master = none ∧ s'.connection.isFallback = true := by
  obtain ⟨⟨report, c'⟩, w', hrun, h⟩ := exists_of_yields h
  simp only [Bool.and_eq_true, Option.isNone_iff_eq_none, beq_iff_eq, List.isEmpty_iff] at h
  obtain ⟨⟨⟨missing, standIn⟩, told⟩, unsent⟩ := h
  exact ⟨_, report, _, Course.of_run (fun _ => .refl) hrun tasks, unsent, told, missing, standIn⟩

/-- The first caller is told that the write is lost. -/
theorem report_truthful_of_first : ∃ (s s' : Scene Script) (vs : List (Visit Script))
    (report : Report), Reachable pair s ∧ s.tasks = [] ∧ s.connection.readOnly = false ∧
      s.connection.roleOf 1 = some .master ∧
      Course (Relation.ReflTransGen (Scene.Joins pair 1)) (failOver pair 1 (some increment)) s vs
        (some report) s' ∧ handedOver vs = [] ∧
      report.reconnected = false ∧ s'.connection.isFallback = true ∧
      (report.Truthful s'.connection ↔
        ¬∃ v ∈ vs, v.connection.roleOf 1 = none ∧ v.connection.isFallback = true) := by
  have hx : severed.yields { servers := {} }
      (fun c w => isSevered c && isLost false c w) = true := by decide +kernel
  obtain ⟨c, w, hy, hx⟩ := exists_of_yields hx
  simp only [isSevered, Bool.and_eq_true, Bool.not_eq_true', decide_eq_true_eq] at hx
  obtain ⟨⟨broken, mode⟩, hx⟩ := hx
  obtain ⟨vs, report, s', course, unsent, told, -, standIn⟩ := of_isLost hx []
  have h := reachable_severed hy
  exact ⟨_, s', vs, report, h, rfl, mode, broken, course, unsent, told, standIn,
    report_truthful_iff h rfl mode broken course unsent⟩

/-- The second caller, whose write is lost like that of the first, is told that all is well. -/
theorem second_caller_misled : ¬∀ (s s' : Scene Script) (cmd : Option Command)
    (vs : List (Visit Script)) (report : Report), Reachable pair s → s.tasks = [] →
      s.connection.readOnly = false → s.connection.roleOf 1 = some .master →
      Course (Relation.ReflTransGen (Scene.Joins pair 1)) (failOver pair 1 cmd) s vs
        (some report) s' →
      handedOver vs = [] → report.reconnected = true → s'.connection.master.isSome = true := by
  intro claim
  have hx : severed.yields { servers := {} } (fun c w => isSevered c &&
      ((failOver pair 1 (some increment)).run c).yields w fun x w' => isLost true x.2 w') =
        true := by
    decide +kernel
  obtain ⟨c, w, hy, hx⟩ := exists_of_yields hx
  simp only [isSevered, Bool.and_eq_true, Bool.not_eq_true', decide_eq_true_eq] at hx
  obtain ⟨⟨broken, mode⟩, hx⟩ := hx
  obtain ⟨⟨report₁, c₁⟩, w₁, hfirst, hx⟩ := exists_of_yields hx
  obtain ⟨vs, report, s', course, unsent, told, missing, -⟩ := of_isLost hx [⟨_, .done report₁⟩]
  have first : Relation.ReflTransGen (Scene.Joins pair 1) ⟨c, w, []⟩
      ⟨c₁, w₁, [⟨_, .done report₁⟩]⟩ :=
    .head (Scene.joins_call ⟨c, w, []⟩ (some increment)) (Scene.joins_run [] hfirst)
  have hmaster := claim _ s' _ vs report (reachable_severed hy) rfl mode broken
    (course.after fun _ => first.trans) unsent told
  rw [missing] at hmaster
  cases hmaster

end Severed

end Failover
