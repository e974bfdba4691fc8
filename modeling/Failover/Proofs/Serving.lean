import Failover.Proofs.Mending
import Failover.Proofs.Course

/-!
# Calls among steady servers

A caller who is alone among steady servers gets an answer to every call, and a call that may be sent
again fails once at most: it fails only if a replica was broken and a broken master had to step in
for it, and then there is no broken replica any more (`at_most_one_failure`).
-/

namespace Failover

open Act World

variable {σ : Type}

/-- Nothing changes about the servers if nothing has, while the clock and the blacklist go their own
way. -/
def Regime.Stays (K : Regime σ) (s s' : Scene σ) : Prop :=
  ∃ (servers : σ) (now : Nat) (blacklist : Blacklist),
    (K.holds s.world.servers → K.Goes ∅ s.world.servers servers) ∧
      s' = { s with world := { s.world with servers, now, blacklist } }

section Ready

variable {K : Regime σ} {d : Deployment} {c c' : Connection} {s m : Scene σ} {w w' : World σ}

theorem Ready.of_shape (h : Ready K d c w) (hc : c.shape = c'.shape) : Ready K d c' w :=
  ⟨h.toSustained.of_shape hc, (h.settled.of_shape hc).rest⟩

theorem Regime.Stays.connection (h : K.Stays s m) : m.connection = s.connection := by
  obtain ⟨servers, now, blacklist, -, rfl⟩ := h
  rfl

theorem Regime.Stays.refl (s : Scene σ) : K.Stays s s :=
  ⟨s.world.servers, s.world.now, s.world.blacklist, .refl, rfl⟩

theorem Ready.stays (h : Ready K d s.connection s.world) (hm : K.Stays s m) :
    Ready K d m.connection m.world := by
  obtain ⟨servers, now, blacklist, hg, rfl⟩ := hm
  have settled := h.settled.drift servers now blacklist
  have leads : K.Leads s.connection { s.world with servers, now, blacklist } :=
    h.leads.goes (hg h.leads.holds) fun _ _ _ => Set.notMem_empty _
  exact ⟨⟨⟨settled.toSound, h.placed⟩, h.isOpen, leads, h.idle⟩, h.rest⟩

theorem Routed.session {q : Slot} {x : Handle} {cmds : List Command} (hr : Routed c cmds w x)
    (hq : c.currentSlot = some q) : x.session = q.session ∧ w.handles.get? q.session = some x := by
  obtain ⟨t, ht, hx⟩ := hr.slot
  obtain rfl := Option.some.inj (ht.symm.trans hq)
  exact ⟨session_of_get? hx, hx⟩

/-- No transaction is opened on a session whose host is down. -/
theorem Ready.ran {q : Slot} {x : Handle} {cmd : Command} {wait : Nat}
    {result : Except Error QueryResult} (h : Ready K d c w) (hq : c.currentSlot = some q)
    (hr : Routed c [cmd] w x) (hran : Ran x cmd (.answer wait result) w w')
    (hg : K.Goes ∅ w.servers w'.servers) (hup : result.isOk = K.up q.host.toEndpoint) :
    Ready K d c w' := by
  have hs' := h.settled.work (hran.work hr.known (List.mem_singleton_self cmd))
  have leads : K.Leads c w' := h.leads.goes hg fun _ _ _ => Set.notMem_empty _
  refine ⟨⟨⟨hs'.toSound, h.placed⟩, h.isOpen, leads, ?_⟩, hs'.rest⟩
  intro r t y ht hdown hy
  refine h.idle r t y ht hdown ?_
  obtain ⟨hxq, -⟩ := hr.session hq
  obtain ⟨p, hp⟩ := Connection.slot_of_current hq
  have hw := hran.handles
  by_cases ht' : t.session = q.session
  · have hrp : r = p := by
      by_contra hrp
      exact h.session_ne ht hp hrp ht'
    subst hrp
    obtain rfl := Option.some.inj (ht.symm.trans hp)
    rw [hdown] at hup
    cases result with
    | error e => rwa [hw] at hy
    | ok r => cases hup
  · cases hb : cmd.settles (.answer wait result) with
    | none => rwa [hw, hb] at hy
    | some b => rwa [hw, hb, Handles.get?_put, if_neg (hxq ▸ ht')] at hy

end Ready

/-- What sending a command to a session in a slot comes to. -/
structure Reached (K : Regime σ) (d : Deployment) (c : Connection) (q : Slot)
    (x : Except Error (SessionId × Except Error QueryResult)) (w : World σ) : Prop where
  ready : Ready K d c w
  answered : ∃ result, x = .ok (q.session, result) ∧ result.isOk = K.up q.host.toEndpoint ∧
    ∀ e, result = .error e → e.isConnectionException = true

section Dispatch

variable [Cluster σ] {K : Regime σ} {d : Deployment} {c : Connection} {w : World σ} {q : Slot}
  {cmd : Command} (hK : K.Obliging d.connectTimeout)

theorem Command.isOk_shown (cmd : Command) (result : Except Error QueryResult) :
    (cmd.shown result).isOk = result.isOk := by
  cases result with
  | error e => rw [cmd.shown_error]
  | ok r =>
    obtain ⟨r', hr'⟩ := cmd.shown_ok r
    rw [hr']
    rfl

include hK

theorem meets_run_steady {x : Handle} {e : Endpoint} (hw : K.holds w.servers)
    (hx : K.serves w.servers x.session e) : (x.run cmd).Meets w
      (fun result w' => K.Goes ∅ w.servers w'.servers ∧ result.isOk = K.up e ∧
        ∀ f, result = .error f → f.isConnectionException = true) fun _ => False := by
  unfold Handle.run
  rw [Command.send_eq]
  refine meets_bind (m := fun _ w' => w'.servers = w.servers) (meets_change rfl) fun _ w₁ h₁ => ?_
  rw [← h₁] at hw hx ⊢
  refine meets_bind (m := fun result w' => K.Goes ∅ w₁.servers w'.servers ∧ result.isOk = K.up e ∧
    ∀ f, result = .error f → f.isConnectionException = true) (meets_map ?_) fun result w₂ h₂ => ?_
  · refine meets_call (fun wait result servers hc => ?_) fun servers hc => ?_ <;>
      obtain ⟨_, _, hr, hup, hbroken⟩ := hK.calls_end hw hx hc
    · cases hr
      refine ⟨hK.calls hw hc, by rw [Command.isOk_shown, hup], ?_⟩
      intro f hf
      exact hbroken f (Command.eq_error_of_shown hf)
    · cases hr
  · cases result with
    | error f => exact meets_pure h₂
    | ok r =>
      cases cmd.transactionAfter with
      | none => exact meets_pure h₂
      | some b => exact h₂

/-- Whoever may be sent again is held back by nobody, so the session is asked, and answers. -/
theorem meets_dispatch_steady (hcmd : cmd.isRepeatable = true) (h : Ready K d c w)
    (hq : c.currentSlot = some q) :
    (dispatch cmd c).Meets w (Reached K d c q) fun _ => False := by
  obtain ⟨r, hr⟩ := Connection.slot_of_current hq
  obtain ⟨x, hx, -⟩ := h.holds r q hr
  have hxq : x.session = q.session := session_of_get? hx
  have routed : Routed c [cmd] w x := by
    refine ⟨⟨q, hq, hx⟩, .inr (.inr ?_)⟩
    intro y hy
    rw [List.mem_singleton.1 hy]
    exact Command.not_isWrite hcmd
  have hrun : (x.run cmd).Meets w _ fun _ => False :=
    meets_run_steady hK h.leads.holds (hxq ▸ h.leads.serves r q hr)
  have hjournal : (x.run cmd).Meets w _ (Ran x cmd .silence w) := meets_run
  refine meets_dispatch_of hq hx (Command.not_isWrite hcmd)
    ((hrun.and hjournal).mono ?_ fun _ h => h.1)
  rintro _ w' ⟨⟨hg, hup, hbroken⟩, wait, result, rfl, hran⟩
  rw [hxq]
  refine ⟨h.ran hq routed hran hg ?_, _, rfl, hup, hbroken⟩
  rw [← hup, Command.isOk_shown]

theorem meets_redispatch_steady (hcmd : cmd.isRepeatable = true) (h : Ready K d c w)
    (hq : c.currentSlot = some q) :
    (redispatch cmd c).Meets w (Reached K d c q) fun _ => False := by
  unfold redispatch
  refine meets_bind_harmless (harmless_log _ _) fun _ w₁ h₁ => ?_
  exact meets_dispatch_steady hK hcmd ⟨h.toSustained.still hK.toSteady h₁, h.rest⟩ hq

end Dispatch

section Admission

variable {d : Deployment} {c : Connection} {cmd : Command}

/-- A read is let through if there is any session, after another try for the master if a replica
stands in for it. -/
theorem admission_of_read (isOpen : c.closed = false) (hread : cmd.isWrite = false)
    (usable : d.config.failover.autoReconnect = true ∨ c.currentSlot.isSome = true) (now : Nat) :
    (admission d cmd now c).1 = .reconnect ∧ c.currentSlot = none ∨
      c.currentSlot.isSome = true ∧ ((admission d cmd now c).1 = .pass ∨
        (admission d cmd now c).1 = .tryMaster ∧ c.isFallback = true) := by
  have counted (n : Nat) : ({ c with fallbackReads := n } : Connection).currentSlot =
      c.currentSlot := rfl
  have fallback (n : Nat) :
      ({ c with fallbackReads := n } : Connection).isFallback = c.isFallback := rfl
  unfold admission
  cases hf : c.isFallback <;> rcases hq : c.currentSlot with _ | s <;>
    simp_all

end Admission

section Calls

variable [Cluster σ] {K : Regime σ} {d : Deployment} {s m : Scene σ} {q : Slot} {cmd : Command}
  (hK : K.Obliging d.connectTimeout)
  (hmaster : ∃ h ∈ d.hosts, K.role d.config.topology h = some .master)

/-- A connection that is ready, and has a session to route to or may get one. -/
structure Usable (K : Regime σ) (d : Deployment) (s : Scene σ) : Prop where
  ready : Ready K d s.connection s.world
  session : d.config.failover.autoReconnect = true ∨ s.connection.currentSlot.isSome = true

include hK

theorem meets_assess_steady (h : Ready K d s.connection s.world) :
    (Job.atomic (assess d cmd)).Meets K.Stays s (fun a s' => Ready K d s'.connection s'.world ∧
      (∃ now, a = (admission d cmd now s.connection).1) ∧
        s.connection.shape = s'.connection.shape) fun _ => False := by
  refine Job.meets_atomic fun m hm => ?_
  have hready := h.stays hm
  rw [hm.connection] at hready ⊢
  refine meets_assess.mono ?_ fun _ h => h
  intro x w hx
  obtain ⟨rfl, hw⟩ := hx
  have hshape := admission_shape (d := d) cmd m.world.now s.connection
  have hready' : Ready K d s.connection w :=
    ⟨hready.toSustained.still hK.toSteady hw, hready.rest⟩
  exact ⟨hready'.of_shape hshape.symm, ⟨m.world.now, rfl⟩, hshape.symm⟩

include hmaster

theorem meets_prepare_steady (hcmd : cmd.isRepeatable = true) (h : Usable K d s) :
    (prepare d cmd).Meets K.Stays s (fun a s' =>
      a = .ok () ∧ Mended K d s.connection s'.connection s'.world) fun _ => False := by
  unfold prepare
  refine Job.meets_bind (meets_assess_steady hK h.ready) ?_
  rintro a s₁ ⟨h₁, ⟨now, rfl⟩, hshape⟩
  have hcur := Connection.currentSlot_of_shape hshape
  have hfit (hc : K.Fit s.connection) : K.Fit s₁.connection := fun t ht =>
    hc t ((Connection.slot_of_shape hshape .replica).trans ht)
  have mended {m s₂ : Scene σ} (hm : K.Stays s₁ m)
      (h₂ : Mended K d m.connection s₂.connection s₂.world) :
      Mended K d s.connection s₂.connection s₂.world :=
    ⟨h₂.ready, h₂.routed, fun hc => h₂.fit (by rw [hm.connection]; exact hfit hc)⟩
  have hread := Command.not_isWrite hcmd
  rcases admission_of_read (d := d) h.ready.isOpen hread h.session now with
    ⟨ha, hnone⟩ | ⟨hsome, ha | ⟨ha, hfall⟩⟩ <;> rw [ha]
  · refine Job.meets_atomic fun m hm => ?_
    have hnone : m.connection.currentSlot = none := by rw [hm.connection, ← hcur, hnone]
    refine (meets_reconnect_steady hK.toSteady hmaster (h₁.stays hm) hnone).mono ?_ fun _ h => h
    rintro x w ⟨hx, h₂⟩
    exact ⟨hx, mended hm h₂⟩
  · exact Job.meets_pure ⟨rfl, h₁, by rwa [← hcur], hfit⟩
  · refine Job.meets_atomic fun m hm => ?_
    have hreplica : m.connection.replica.isSome = true := by
      rw [hm.connection]
      have hcurrent : s.connection.current = some .replica := by
        simp only [Connection.isFallback, Bool.and_eq_true, decide_eq_true_eq] at hfall
        exact hfall.1.1
      have hsame : s.connection.shape.current = s₁.connection.shape.current :=
        congrArg Connection.current hshape
      have hcurrent₁ : s₁.connection.current = some .replica := hsame.symm.trans hcurrent
      rwa [hcur, Connection.currentSlot, hcurrent₁] at hsome
    refine (meets_tryMaster_steady hK.toSteady (h₁.stays hm) hreplica).mono ?_ fun _ h => h
    rintro x w ⟨hx, h₂⟩
    exact ⟨hx, mended hm h₂⟩

omit hK hmaster in
omit [Cluster σ] in
theorem meets_rememberDatabase_steady (h : Ready K d s.connection s.world) :
    (rememberDatabase cmd).Meets K.Stays s (fun _ s' => Ready K d s'.connection s'.world ∧
      s.connection.shape = s'.connection.shape) fun _ => False := by
  unfold rememberDatabase
  split
  · refine Job.meets_atomic fun m hm => meets_pure ⟨(h.stays hm).of_shape rfl, ?_⟩
    rw [hm.connection]
    rfl
  · exact Job.meets_pure ⟨h, rfl⟩

omit hmaster in
/-- A command that is sent again is answered if the host that it goes to is up. -/
theorem meets_sendAgain_steady (hcmd : cmd.isRepeatable = true) (h : Ready K d s.connection s.world)
    (hq : s.connection.currentSlot = some q) :
    (sendAgain (some cmd) false none).Meets K.Stays s (fun report s' =>
      Ready K d s'.connection s'.world ∧ s'.connection = s.connection ∧
        report.mustRaise = !K.up q.host.toEndpoint) fun _ => False := by
  have hsent : (some cmd).filter (fun cmd => cmd.isRepeatable && !false) = some cmd := by
    simp [hcmd]
  unfold sendAgain
  rw [hsent]
  refine Job.meets_bind (m := fun x s' => Reached K d s.connection q x s'.world ∧
    s'.connection = s.connection) (Job.meets_reading fun m hm => ?_) ?_
  · have hready := h.stays hm
    rw [hm.connection] at hready ⊢
    exact (meets_redispatch_steady hK hcmd hready hq).mono (fun x w hx => ⟨hx, rfl⟩) fun _ h => h
  · rintro _ s' ⟨⟨h', result, rfl, hup, -⟩, hc⟩
    rw [← hc] at h'
    cases result with
    | ok r => exact Job.meets_pure ⟨h', hc, by rw [← hup]; rfl⟩
    | error e => exact Job.meets_pure ⟨h', hc, by rw [← hup]; rfl⟩

omit hK hmaster in
omit [Cluster σ] in
/-- No transaction is open on a session whose host is down. -/
theorem meets_readFlag_steady (h : Ready K d s.connection s.world)
    (hq : s.connection.currentSlot = some q) (hdown : K.up q.host.toEndpoint = false) :
    (Job.reading (readFlag q.session)).Meets K.Stays s (fun inTransaction s' =>
      inTransaction = false ∧ Ready K d s'.connection s'.world ∧ s'.connection = s.connection)
      fun _ => False := by
  refine Job.meets_reading fun m hm => ?_
  have hready := h.stays hm
  unfold readFlag
  refine meets_bind (m := fun x w => x = m.world.handles.get? q.session ∧ w = m.world)
    (meets_ask ⟨rfl, rfl⟩) ?_
  rintro _ w ⟨rfl, rfl⟩
  refine meets_pure ⟨?_, hready, hm.connection⟩
  rw [hm.connection] at hready
  obtain ⟨r, hr⟩ := Connection.slot_of_current hq
  obtain ⟨x, hx, -⟩ := hready.holds r q hr
  rw [hx]
  exact hready.idle r q x hr hdown hx

/-- After a failover the command is answered, unless the replica was broken; but then there is no
broken replica any more. -/
theorem meets_failOver_steady (hnodup : (d.hosts.map Host.toEndpoint).Nodup)
    (hcmd : cmd.isRepeatable = true) (h : Ready K d s.connection s.world)
    (hq : s.connection.currentSlot = some q) (hdown : K.up q.host.toEndpoint = false) :
    (failOver d q.session (some cmd)).Meets K.Stays s (fun report s' =>
      Ready K d s'.connection s'.world ∧ s'.connection.currentSlot.isSome = true ∧
        (K.Fit s.connection → report.mustRaise = false) ∧
        (K.Fit s.connection ∨ report.mustRaise = true → K.Fit s'.connection))
      fun _ => False := by
  unfold failOver
  refine Job.meets_bind (meets_readFlag_steady h hq hdown) ?_
  rintro _ s₁ ⟨rfl, h₁, hc₁⟩
  rw [← hc₁] at hq ⊢
  refine Job.meets_bind (m := fun recovery s₂ => recovery = .restored ∧
    Ready K d s₂.connection s₂.world ∧ s₂.connection.currentSlot.isSome = true ∧
      ((K.Fit s₁.connection → K.Fit s₂.connection) ∧
          (∃ t, s₂.connection.currentSlot = some t ∧ K.up t.host.toEndpoint = true) ∨
        s₁.connection.replica = some q ∧ K.Fit s₂.connection))
    (Job.meets_atomic fun m hm => ?_) ?_
  · have hready := h₁.stays hm
    rw [hm.connection] at hready ⊢
    exact meets_recover_steady hK.toSteady hmaster hnodup false hready hq
  rintro _ s₂ ⟨rfl, h₂, hrouted, hcase⟩
  obtain ⟨t, ht⟩ := Option.isSome_iff_exists.1 hrouted
  refine (meets_sendAgain_steady hK hcmd h₂ ht).mono fun report s₃ h => ?_
  obtain ⟨h₃, hc, hraise⟩ := h
  rw [hc] at h₃ ⊢
  refine ⟨h₃, hrouted, ?_⟩
  rcases hcase with ⟨hkept, t', ht', hup⟩ | ⟨hrep, hfit⟩
  · obtain rfl := Option.some.inj (ht'.symm.trans ht)
    rw [hup] at hraise
    constructor
    · intro _
      exact hraise
    · rintro (hf | hr)
      · exact hkept hf
      · cases hr.symm.trans hraise
  · constructor
    · intro hf
      exact (nomatch hdown.symm.trans (hf q hrep))
    · intro _
      exact hfit

/-- What a call comes to. It is answered if the replica was not broken, and if it fails then there
is no broken replica any more. -/
structure Survived (K : Regime σ) (d : Deployment) (c : Connection)
    (answer : Except Error QueryResult) (s' : Scene σ) : Prop where
  usable : Usable K d s'
  answered : K.Fit c → answer.isOk = true
  fit : K.Fit c ∨ answer.isOk = false → K.Fit s'.connection

omit hK hmaster in
omit [Cluster σ] in
theorem meets_remembered_steady {c : Connection} (r : QueryResult)
    (h : Ready K d s.connection s.world) (hs : s.connection.currentSlot.isSome = true)
    (hfit : K.Fit c → K.Fit s.connection) :
    (do rememberDatabase cmd; return .ok r : Job σ _).Meets K.Stays s (Survived K d c)
      fun _ => False := by
  refine Job.meets_bind (meets_rememberDatabase_steady h) fun _ s₁ ⟨h₁, hshape⟩ => ?_
  have hs₁ : s₁.connection.currentSlot.isSome = true := by
    rwa [← Connection.currentSlot_of_shape hshape]
  refine Job.meets_pure ⟨⟨h₁, .inr hs₁⟩, fun _ => rfl, ?_⟩
  rintro (hc | hn)
  · exact fun t ht => hfit hc t ((Connection.slot_of_shape hshape .replica).trans ht)
  · cases hn

theorem meets_resume_steady (hnodup : (d.hosts.map Host.toEndpoint).Nodup) {e : Error}
    (hcmd : cmd.isRepeatable = true) (h : Ready K d s.connection s.world)
    (hq : s.connection.currentSlot = some q) (hdown : K.up q.host.toEndpoint = false) :
    (resume d cmd q.session e).Meets K.Stays s (Survived K d s.connection) fun _ => False := by
  unfold resume
  refine Job.meets_bind (m := fun _ s₁ => Ready K d s₁.connection s₁.world ∧
    s₁.connection = s.connection) (Job.meets_reading fun m hm => ?_) ?_
  · have hready := h.stays hm
    refine (harmless_log _ _).meets fun _ w hw => ⟨?_, hm.connection⟩
    exact ⟨hready.toSustained.still hK.toSteady hw, hready.rest⟩
  rintro _ s₁ ⟨h₁, hc₁⟩
  rw [← hc₁] at hq ⊢
  refine Job.meets_bind (meets_failOver_steady hK hmaster hnodup hcmd h₁ hq hdown) ?_
  rintro report s₂ ⟨h₂, hrouted, hok, hfit⟩
  cases hr : report.mustRaise with
  | true =>
    rw [if_pos rfl]
    refine Job.meets_pure ⟨⟨h₂, .inr hrouted⟩, ?_, fun _ => hfit (.inr hr)⟩
    intro hc
    cases hr.symm.trans (hok hc)
  | false =>
    rw [if_neg Bool.false_ne_true]
    exact meets_remembered_steady _ h₂ hrouted fun hc => hfit (.inl hc)

theorem meets_carryOut_steady (hnodup : (d.hosts.map Host.toEndpoint).Nodup)
    (hcmd : cmd.isRepeatable = true) (h : Ready K d s.connection s.world)
    (hq : s.connection.currentSlot.isSome = true) :
    (carryOut d cmd).Meets K.Stays s (Survived K d s.connection) fun _ => False := by
  obtain ⟨q, hq⟩ := Option.isSome_iff_exists.1 hq
  unfold carryOut
  refine Job.meets_bind (m := fun x s₁ => Reached K d s.connection q x s₁.world ∧
    s₁.connection = s.connection) (Job.meets_reading fun m hm => ?_) ?_
  · have hready := h.stays hm
    rw [hm.connection] at hready ⊢
    exact (meets_dispatch_steady hK hcmd hready hq).mono (fun x w hx => ⟨hx, rfl⟩) fun _ h => h
  rintro _ s₁ ⟨⟨h₁, result, rfl, hup, hbroken⟩, hc₁⟩
  rw [← hc₁] at h₁ hq ⊢
  cases result with
  | ok r => exact meets_remembered_steady r h₁ (by rw [hq]; rfl) id
  | error e =>
    dsimp only
    rw [hbroken e rfl, if_neg (by decide)]
    exact meets_resume_steady hK hmaster hnodup hcmd h₁ hq hup.symm

theorem meets_execute_steady (hnodup : (d.hosts.map Host.toEndpoint).Nodup)
    (hcmd : cmd.isRepeatable = true) (h : Usable K d s) :
    (execute d cmd).Meets K.Stays s (Survived K d s.connection) fun _ => False := by
  unfold execute
  refine Job.meets_bind (meets_prepare_steady hK hmaster hcmd h) ?_
  rintro _ s₁ ⟨rfl, h₁⟩
  refine (meets_carryOut_steady hK hmaster hnodup hcmd h₁.ready h₁.routed).mono ?_
  intro a s₂ h₂
  exact {
    usable := h₂.usable
    answered := fun hc => h₂.answered (h₁.fit hc)
    fit := fun hc => h₂.fit (hc.imp_left h₁.fit) }

end Calls

section Sequence

variable [Cluster σ] {K : Regime σ} {d : Deployment} {s s' : Scene σ}

/-- Commands one after another, whatever comes of them. -/
def executeEach (d : Deployment) : List Command → Job σ (List (Except Error QueryResult))
  | [] => return []
  | cmd :: rest => do
    let answer ← execute d cmd
    return answer :: (← executeEach d rest)

/-- A call that fails leaves nothing that the next one could fail of. -/
theorem meets_executeEach_steady (hK : K.Obliging d.connectTimeout)
    (hmaster : ∃ h ∈ d.hosts, K.role d.config.topology h = some .master)
    (hnodup : (d.hosts.map Host.toEndpoint).Nodup) : ∀ (cmds : List Command) (s : Scene σ),
    (∀ cmd ∈ cmds, cmd.isRepeatable = true) → Usable K d s →
      (executeEach d cmds).Meets K.Stays s (fun answers _ => answers.length = cmds.length ∧
        answers.countP (!·.isOk) ≤ 1 ∧ (K.Fit s.connection → answers.countP (!·.isOk) = 0))
        fun _ => False
  | [], s, _, h => Job.meets_pure ⟨rfl, Nat.zero_le _, fun _ => rfl⟩
  | cmd :: rest, s, hcmds, h => by
    unfold executeEach
    have hcmd : cmd.isRepeatable = true := hcmds cmd List.mem_cons_self
    refine Job.meets_bind (meets_execute_steady hK hmaster hnodup hcmd h) fun answer s₁ h₁ => ?_
    refine Job.meets_bind (meets_executeEach_steady hK hmaster hnodup rest s₁
      (fun x hx => hcmds x (List.mem_cons_of_mem _ hx)) h₁.usable) ?_
    rintro answers s₂ ⟨hlen, hone, hnone⟩
    refine Job.meets_pure ⟨by rw [List.length_cons, hlen, List.length_cons], ?_, fun hc => ?_⟩
    · cases ha : answer.isOk with
      | true => simpa [ha] using hone
      | false => simp [ha, hnone (h₁.fit (.inr ha))]
    · simp [h₁.answered hc, hnone (h₁.fit (.inl hc))]

/-- While the servers stay as they are and answer, and one of the hosts is a master, at most one of
the commands fails, whatever has become of the sessions before. -/
theorem at_most_one_failure {cmds : List Command} {vs : List (Visit σ)}
    {answers : Option (List (Except Error QueryResult))} (obliging : K.Obliging d.connectTimeout)
    (reachable : Reachable d s) (isOpen : s.connection.closed = false)
    (distinct : (d.hosts.map Host.toEndpoint).Nodup)
    (usable : d.config.failover.autoReconnect = true ∨
      ∃ r slot, s.connection.slot? r = some slot)
    (idle : ∀ r slot x, s.connection.slot? r = some slot →
      s.world.handles.get? slot.session = some x → x.inTransaction = false)
    (leads : K.Leads s.connection s.world)
    (master : ∃ h ∈ d.hosts, K.role d.config.topology h = some .master)
    (repeatable : ∀ cmd ∈ cmds, cmd.isRepeatable = true)
    (course : Course K.Stays (executeEach d cmds) s vs answers s') :
    ∃ given, answers = some given ∧ given.length = cmds.length ∧
      given.countP (!·.isOk) ≤ 1 := by
  have hrest : s.connection.current = s.connection.target := reachable.atRest.settled.rest
  have ready : Ready K d s.connection s.world :=
    ⟨⟨reachable.founded, isOpen, leads, fun r t x ht _ => idle r t x ht⟩, hrest⟩
  have session : d.config.failover.autoReconnect = true ∨
      s.connection.currentSlot.isSome = true := by
    refine usable.imp_right ?_
    rintro ⟨r, t, ht⟩
    rw [Connection.isSome_currentSlot hrest, Bool.or_eq_true]
    cases r with
    | master => exact .inl (Option.isSome_iff_exists.2 ⟨t, ht⟩)
    | replica => exact .inr (Option.isSome_iff_exists.2 ⟨t, ht⟩)
  obtain ⟨given, hgiven, hlen, hone, -⟩ := (meets_executeEach_steady obliging master distinct cmds s
    repeatable ⟨ready, session⟩).exists_value course
  exact ⟨given, hgiven, hlen, hone⟩

end Sequence

section Bereft

/-! ## A replica and a master lost at once -/

/-- Two masters, one of them to spare, and a replica. -/
def trio : Deployment where
  config :=
    { topology := .replication
      hosts := ["db1?type=master", "db2", "db3?type=master"] }
  hosts := [⟨⟨"db1", 3306⟩, some .master⟩, ⟨⟨"db2", 3306⟩, some .slave⟩,
    ⟨⟨"db3", 3306⟩, some .master⟩]

/-- Only the spare master is left. -/
def bereft : Script where
  hosts := [("db1:3306", { ScriptedHost.plain with reachable := false }),
    ("db2:3306", { ScriptedHost.plain with reachable := false })]

theorem isSteady_bereft : bereft.IsSteady := by
  refine Script.isSteady_of_forall fun x hx => ?_
  simp only [bereft, List.mem_cons, List.not_mem_nil, or_false] at hx
  rcases hx with rfl | rfl <;> exact ⟨rfl, rfl, rfl, le_rfl, le_rfl⟩

/-- A connection in read-only mode loses both of its sessions. -/
def bereave : Act Script Connection := do
  let (_, c) ← establish trio (.new true)
  let (_, c) ← ((Operation.setReadOnly true).invoke trio).run c
  change fun w => { w with servers := { w.servers with hosts := bereft.hosts } }
  return c

theorem reachable_bereave {c : Connection} {w : World Script}
    (h : bereave { servers := {} } = (some c, w)) :
    (∃ tasks, Reachable trio ⟨c, w, tasks⟩) ∧ w.servers.hosts = bereft.hosts := by
  obtain ⟨⟨b₁, c₁⟩, w₁, h₁, h⟩ := bind_eq_some.1 h
  obtain ⟨⟨b₂, c₂⟩, w₂, h₂, h⟩ := bind_eq_some.1 h
  obtain ⟨_, w₃, h₃, h⟩ := bind_eq_some.1 h
  cases h
  cases h₃
  have r₁ : Reachable trio ⟨c₁, w₁, [⟨_, .done b₁⟩]⟩ := by
    refine (Reachable.start (d := trio) ({} : Script) 0 {}).alone .establish rfl ?_
    rw [Job.run_atomic]
    exact h₁
  have r₂ := r₁.alone (.operation (.setReadOnly true)) rfl h₂
  exact ⟨⟨_, r₂.step (.drift _ _ w₂.now w₂.blacklist)⟩, rfl⟩

/-- No transaction is open in the slot, and its session leads to its host. -/
def isIntact (w : World Script) (slot : Slot) : Bool :=
  (w.handles.get? slot.session).all (!·.inTransaction) &&
    (w.servers.session? slot.session).any fun x => x.host = slot.host.text && !x.closed

theorem at_most_one_failure_of_bereave : ∃ (s s' : Scene Script) (vs : List (Visit Script))
    (given : List (Except Error QueryResult)), bereft.regime.Obliging trio.connectTimeout ∧
      Reachable trio s ∧ bereft.regime.Leads s.connection s.world ∧
      Course bereft.regime.Stays (executeEach trio [.query "SELECT 1", .ping]) s vs (some given)
        s' ∧
      (∃ a ∈ given, a.isOk = false) ∧ given.length = 2 ∧ given.countP (!·.isOk) ≤ 1 := by
  have hx : bereave.yields { servers := {} } (fun c w =>
      (!c.closed && c.master.isSome && c.master.all (isIntact w) && c.replica.all (isIntact w)) &&
        ((executeEach trio [.query "SELECT 1", .ping]).run c).yields w fun x _ =>
          x.1.any (!·.isOk)) = true := by
    decide +kernel
  obtain ⟨c, w, hy, hx⟩ := exists_of_yields hx
  obtain ⟨hcheck, hx⟩ := Bool.and_eq_true_iff.1 hx
  obtain ⟨⟨given, c'⟩, w', hrun, hfails⟩ := exists_of_yields hx
  obtain ⟨⟨tasks, reachable⟩, hhosts⟩ := reachable_bereave hy
  simp only [Bool.and_eq_true, Bool.not_eq_true'] at hcheck
  obtain ⟨⟨⟨isOpen, hmaster⟩, hintact⟩, hintact'⟩ := hcheck
  have intact (r : Role) (slot : Slot) (hs : c.slot? r = some slot) : isIntact w slot = true := by
    cases r with
    | master => exact (Option.all_eq_true _ _).1 hintact slot hs
    | replica => exact (Option.all_eq_true _ _).1 hintact' slot hs
  have obliging := Script.obliging_regime isSteady_bereft trio.connectTimeout
  have leads : bereft.regime.Leads c w := by
    refine ⟨fun key => by unfold Script.host; rw [hhosts], ?_⟩
    intro r slot hs
    have hsession := (Bool.and_eq_true_iff.1 (intact r slot hs)).2
    obtain ⟨x, hx, hleads⟩ := (Option.any_eq_true _ _).1 hsession
    exact ⟨x, hx, by simpa using hleads⟩
  have idle (r : Role) (slot : Slot) (x : Handle) (hs : c.slot? r = some slot)
      (hx : w.handles.get? slot.session = some x) : x.inTransaction = false := by
    have hidle := (Bool.and_eq_true_iff.1 (intact r slot hs)).1
    simpa using (Option.all_eq_true _ _).1 hidle x hx
  obtain ⟨m, hm⟩ := Option.isSome_iff_exists.1 hmaster
  have course := Course.of_run (M := bereft.regime.Stays) Regime.Stays.refl hrun tasks
  obtain ⟨_, hgiven, hlen, hone⟩ := at_most_one_failure obliging reachable isOpen (by decide)
    (.inr ⟨.master, m, hm⟩) idle leads ⟨⟨⟨"db3", 3306⟩, some .master⟩, by decide, by decide⟩
    (by decide +kernel) course
  cases hgiven
  exact ⟨_, _, _, given, obliging, reachable, leads, course, by simpa using hfails, hlen, hone⟩

end Bereft

end Failover
