import Failover.Proofs.Course
import Failover.Proofs.Invariants

/-!
# Commands sent again

A command is handed over once, and a second time only by a failover that found it safe. What a
failover comes to is told first (`Resent`), and then what the whole call does (`HandedOnce`).
-/

namespace Failover

open Act World

variable {σ : Type}

/-- What comes of sending a command to the session routed to, in the course of a call. -/
inductive Delivered (cmd : Command) (m : Scene σ) (vs : List (Visit σ)) :
    Option (Except Error (SessionId × Except Error QueryResult)) → Scene σ → Prop
  | unsent (e : Error) {w : World σ} (handed : handedOver vs = []) (beside : m.world.Beside w) :
      Delivered cmd m vs (some (.error e)) ⟨m.connection, w, m.tasks⟩
  | sent (h : Handle) (wait : Nat) (result : Except Error QueryResult) {w : World σ}
      (handed : handedOver vs = [⟨h.session, cmd, some (.answer wait result)⟩])
      (routed : Routed m.connection [cmd] m.world h)
      (ran : Ran h cmd (.answer wait result) m.world w) :
      Delivered cmd m vs (some (.ok (h.session, cmd.shown result))) ⟨m.connection, w, m.tasks⟩
  | silent (h : Handle) {s : Scene σ}
      (handed : handedOver vs = [⟨h.session, cmd, some .silence⟩]) : Delivered cmd m vs none s

theorem Course.delivered [Cluster σ] {M : Scene σ → Scene σ → Prop} {cmd : Command} {s s' : Scene σ}
    {act : Connection → Act σ (Except Error (SessionId × Except Error QueryResult))}
    {vs : List (Visit σ)} {a : Option (Except Error (SessionId × Except Error QueryResult))}
    (ha : Dispatches cmd act) (h : Course M (.reading act) s vs a s') :
    ∃ m, M s m ∧ vs = [⟨Job.unchanged act, m.connection, m.world⟩] ∧ Delivered cmd m vs a s' := by
  obtain ⟨m, w, hm, hvs, hx, hv, hs'⟩ := h.of_reading
  refine ⟨m, hm, hvs, ?_⟩
  cases a with
  | none =>
    obtain ⟨x, -, hran⟩ := (ha _ _).stalled hx
    exact .silent x (hv.trans hran.handovers)
  | some x =>
    rw [hs' rfl]
    cases (ha _ _).value hx with
    | unsent e hw => exact .unsent e (hv.trans hw.beside.quiet.handovers) hw.beside
    | sent x wait result hr hran => exact .sent x wait result (hv.trans hran.handovers) hr hran

/-- The session's answer has this to show. -/
def Handover.Shows (t : Handover) (r : QueryResult) : Prop :=
  ∃ wait result, t.reply = some (.answer wait result) ∧ t.command.shown result = .ok r

/-- The session was found broken. -/
def Handover.Breaks (t : Handover) (e : Error) : Prop :=
  ∃ wait, t.reply = some (.answer wait (.error e)) ∧ e.isConnectionException = true

theorem Handover.Breaks.unique {t : Handover} {e e' : Error} (h : t.Breaks e) (h' : t.Breaks e') :
    e = e' := by
  obtain ⟨wait, hr, -⟩ := h
  obtain ⟨wait', hr', -⟩ := h'
  rw [hr] at hr'
  cases hr'
  rfl

/-- What a failover from session `n` comes to for the command that failed on it. -/
inductive Resent (cmd : Command) (n : SessionId) (vs : List (Visit σ)) (a : Option Report) : Prop
  /-- It was not sent again. -/
  | never (handed : handedOver vs = []) (raises : ∀ r, a = some r → r.mustRaise = true)
  /-- It was, after the failover found no transaction open on the handle that had failed. -/
  | again {c : Connection} {w : World σ} {h : Handle} {after : List (Visit σ)} {t : Handover}
      (visits : vs = ⟨Job.unchanged (readFlag n), c, w⟩ :: after)
      (handle : w.handles.get? n = some h) (idle : h.inTransaction = false)
      (repeatable : cmd.isRepeatable = true) (handed : handedOver vs = [t])
      (command : t.command = cmd)
      (tells : ∀ r, a = some r → r.mustRaise = true ∨ ∃ x, t.Shows x ∧ r = .answered x)

section Failover

variable [Cluster σ] {d : Deployment} {M : Scene σ → Scene σ → Prop} {s s' : Scene σ}
  {vs : List (Visit σ)} {cmd : Command}

theorem Course.sentAgain {inTransaction : Bool} {cause : Option Error} {a : Option Report}
    (h : Course M (sendAgain (some cmd) inTransaction cause) s vs a s') :
    (handedOver vs = [] ∧ ∀ r, a = some r → r.mustRaise = true) ∨
      (inTransaction = false ∧ cmd.isRepeatable = true ∧ ∃ t, handedOver vs = [t] ∧
        t.command = cmd ∧
        ∀ r, a = some r → r.mustRaise = true ∨ ∃ x, t.Shows x ∧ r = .answered x) := by
  unfold sendAgain at h
  by_cases hsafe : (cmd.isRepeatable && !inTransaction) = true
  · simp only [Option.filter_some, hsafe, if_true] at h
    obtain ⟨hrep, hidle⟩ : cmd.isRepeatable = true ∧ inTransaction = false := by
      simpa using hsafe
    rcases h.of_bind with ⟨rfl, h₁⟩ | ⟨x, vs₁, vs₂, m, rfl, h₁, h₂⟩
    · obtain ⟨m, -, -, hd⟩ := h₁.delivered (dispatches_redispatch cmd)
      cases hd with
      | silent x hv => exact .inr ⟨hidle, hrep, _, hv, rfl, fun r hr => nomatch hr⟩
    · obtain ⟨m', -, -, hd⟩ := h₁.delivered (dispatches_redispatch cmd)
      cases hd with
      | unsent e hv hb =>
        obtain ⟨rfl, rfl, -⟩ := h₂.of_done
        refine .inl ⟨by rw [List.append_nil, hv], fun r hr => ?_⟩
        rw [← Option.some.inj hr]
        rfl
      | sent x wait result hv hr hran =>
        right
        cases hshown : cmd.shown result with
        | error e =>
          rw [hshown] at h₂
          obtain ⟨rfl, rfl, -⟩ := h₂.of_done
          refine ⟨hidle, hrep, _, by rw [List.append_nil, hv], rfl, fun r hr => .inl ?_⟩
          rw [← Option.some.inj hr]
          rfl
        | ok y =>
          rw [hshown] at h₂
          obtain ⟨rfl, rfl, -⟩ := h₂.of_done
          refine ⟨hidle, hrep, _, by rw [List.append_nil, hv], rfl, fun r hr => .inr ?_⟩
          exact ⟨y, ⟨wait, result, rfl, hshown⟩, (Option.some.inj hr).symm⟩
  · simp only [Option.filter_some, hsafe] at h
    obtain ⟨rfl, rfl, -⟩ := h.of_done
    refine .inl ⟨rfl, fun r hr => ?_⟩
    rw [← Option.some.inj hr]
    rfl

omit [Cluster σ] in
theorem readFlag_apply (n : SessionId) (c : Connection) (w : World σ) :
    readFlag n c w = (some ((w.handles.get? n).any (·.inTransaction)), w) := rfl

theorem Course.resent {n : SessionId} {a : Option Report}
    (h : Course (Meanwhile d) (failOver d n (some cmd)) s vs a s') (hs : s.AtRest d)
    (hn : (s.world.handles.get? n).isSome = true) : Resent cmd n vs a := by
  unfold failOver at h
  rcases h.of_bind with ⟨rfl, h₁⟩ | ⟨flag, vs₁, vs₂, m, rfl, h₁, h₂⟩
  · obtain ⟨m, w, -, -, hx, -⟩ := h₁.of_reading
    rw [readFlag_apply] at hx
    cases hx
  obtain ⟨m₁, w, hm₁, rfl, hx, hv₁, hm⟩ := h₁.of_reading
  rw [readFlag_apply] at hx
  obtain ⟨hrest, hkeeps⟩ := atRest_of_meanwhile hm₁ hs
  obtain ⟨x, hknown⟩ := Option.isSome_iff_exists.1 (hkeeps n hn)
  obtain ⟨rfl, rfl⟩ : flag = x.inTransaction ∧ w = m₁.world := by
    rw [hknown] at hx
    cases hx
    exact ⟨rfl, rfl⟩
  rw [(Quiet.refl _).handovers] at hv₁
  obtain rfl := hm rfl
  have calm := Job.all_atomic (calm_recover (σ := σ) (d := d) n x.inTransaction)
  rcases h₂.of_bind with ⟨rfl, h₃⟩ | ⟨r, vs₃, vs₄, m₂, rfl, h₃, h₄⟩
  · refine .never ?_ fun r hr => nomatch hr
    rw [handedOver_append, hv₁, h₃.calm calm hrest]
    rfl
  have hv₃ := h₃.calm calm hrest
  have told (cause : Option Error)
      (h : Course (Meanwhile d) (sendAgain (some cmd) x.inTransaction cause) m₂ vs₄ a s') :
      Resent cmd n ([⟨Job.unchanged (readFlag n), m₁.connection, m₁.world⟩] ++ (vs₃ ++ vs₄)) a := by
    rcases h.sentAgain with ⟨hv, hr⟩ | ⟨hidle, hrep, t, hv, ht, hr⟩
    · refine .never ?_ hr
      rw [handedOver_append, handedOver_append, hv₁, hv₃, hv]
      rfl
    · refine .again rfl hknown hidle hrep ?_ ht hr
      rw [handedOver_append, handedOver_append, hv₁, hv₃, hv]
      rfl
  cases r with
  | restored => exact told _ h₄
  | standIn e => exact told _ h₄
  | failed e =>
    obtain ⟨rfl, rfl, -⟩ := h₄.of_done
    refine .never ?_ fun r hr => ?_
    · rw [handedOver_append, handedOver_append, hv₁, hv₃]
      rfl
    · rw [← Option.some.inj hr]
      rfl

end Failover

/-- What is promised of a command: it is handed over once, or a second time if that is safe. -/
structure HandedOnce (cmd : Command) (vs : List (Visit σ))
    (a : Option (Except Error QueryResult)) : Prop where
  atMostTwice : (handedOver vs).length ≤ 2
  only : ∀ t ∈ handedOver vs, t.command = cmd
  /-- The first session broke, the command may be repeated, and at the time at which the failover
  looked at the handle that had failed, no transaction was open on it. -/
  again : ∀ t t', handedOver vs = [t, t'] → (∃ e, t.Breaks e) ∧ cmd.isRepeatable = true ∧
    ∃ before after c w h, vs = before ++ ⟨Job.unchanged (readFlag t.session), c, w⟩ :: after ∧
      handedOver before = [t] ∧ w.handles.get? t.session = some h ∧ h.inTransaction = false
  once : cmd.isWrite = true ∨ cmd = .commit ∨ cmd = .rollback → (handedOver vs).length ≤ 1
  answer : ∀ r, a = some (.ok r) → ∃ t, (handedOver vs).getLast? = some t ∧ t.Shows r
  error : ∀ t rest e x, handedOver vs = t :: rest → t.Breaks e → a = some (.error x) →
    ∃ reconnected cause, x = .failover reconnected e cause

namespace HandedOnce

variable {cmd : Command} {vs : List (Visit σ)} {a : Option (Except Error QueryResult)}

theorem of_none (hv : handedOver vs = []) (ha : ∀ r, a ≠ some (.ok r)) : HandedOnce cmd vs a := by
  constructor <;> simp [hv, ha]

theorem of_one {t : Handover} (hv : handedOver vs = [t]) (ht : t.command = cmd)
    (ha : ∀ r, a = some (.ok r) → t.Shows r)
    (he : ∀ e x, t.Breaks e → a = some (.error x) →
      ∃ reconnected cause, x = .failover reconnected e cause) : HandedOnce cmd vs a := by
  refine ⟨by simp [hv], by simp [hv, ht], by simp [hv], by simp [hv], ?_, ?_⟩
  · exact fun r hr => ⟨t, by simp [hv], ha r hr⟩
  · intro t' rest e x h ht' hx
    rw [hv] at h
    obtain ⟨rfl, -⟩ := List.cons.inj h
    exact he e x ht' hx

/-- A first handover to a session that broke, and whatever the failover did. -/
theorem of_resent {t : Handover} {e : Error} {before after rest : List (Visit σ)}
    {report : Option Report} (hv : handedOver before = [t]) (hrest : handedOver rest = [])
    (ht : t.command = cmd) (hb : t.Breaks e) (hr : Resent cmd t.session after report)
    (ha : ∀ r, a = some (.ok r) →
      ∃ x, report = some x ∧ x.mustRaise = false ∧ x.result.getD {} = r)
    (he : ∀ x, a = some (.error x) → ∃ reconnected cause, x = .failover reconnected e cause) :
    HandedOnce cmd (before ++ (after ++ rest)) a := by
  have total : handedOver (before ++ (after ++ rest)) = t :: handedOver after := by
    rw [handedOver_append, handedOver_append, hv, hrest, List.append_nil]
    rfl
  cases hr with
  | never hnone raises =>
    rw [hnone] at total
    refine .of_one total ht ?_ ?_
    · intro r hr
      obtain ⟨x, hx, hquiet, -⟩ := ha r hr
      cases hquiet.symm.trans (raises x hx)
    · intro e' x hb' hx
      obtain rfl := hb.unique hb'
      exact he x hx
  | @again c w h after t' visits handle idle repeatable handed command tells =>
    rw [handed] at total
    subst visits
    refine ⟨by rw [total]; exact le_rfl, by rw [total]; simp [ht, command], ?_, ?_, ?_, ?_⟩
    · intro t₁ t₂ h₁₂
      rw [total] at h₁₂
      obtain ⟨rfl, -⟩ := List.cons.inj h₁₂
      exact ⟨⟨e, hb⟩, repeatable, before, _, c, w, h, rfl, hv, handle, idle⟩
    · rintro (hwrite | rfl | rfl)
      · rw [Command.not_repeatable_of_isWrite hwrite] at repeatable
        cases repeatable
      · cases repeatable
      · cases repeatable
    · intro r hr
      refine ⟨t', by rw [total]; rfl, ?_⟩
      obtain ⟨x, hx, hquiet, rfl⟩ := ha r hr
      rcases tells x hx with hraise | ⟨y, hshows, rfl⟩
      · cases hquiet.symm.trans hraise
      · exact hshows
    · intro t₁ ts e' x h₁ hb' hx
      rw [total] at h₁
      obtain ⟨rfl, -⟩ := List.cons.inj h₁
      obtain rfl := hb.unique hb'
      exact he x hx

end HandedOnce

section Execute

variable [Cluster σ] {d : Deployment} {s s' : Scene σ} {cmd : Command} {vs : List (Visit σ)}

omit [Cluster σ] in
theorem Scene.AtRest.ran {m : Scene σ} {h : Handle} {reply : Reply} {w : World σ}
    (hm : m.AtRest d) (hr : Routed m.connection [cmd] m.world h)
    (hran : Ran h cmd reply m.world w) :
    Scene.AtRest ⟨m.connection, w, m.tasks⟩ d ∧ (w.handles.get? h.session).isSome = true := by
  have hk : Work h.session [cmd] m.world w := hran.work hr.known (List.mem_singleton_self cmd)
  exact ⟨⟨hm.settled.work hk, hm.lawful⟩, hk.keeps _ (by rw [hr.known]; rfl)⟩

theorem Course.remembered {β : Type} {y : β} {a : Option β}
    (h : Course (Meanwhile d) (do rememberDatabase cmd; return y) s vs a s') (hs : s.AtRest d) :
    handedOver vs = [] ∧ ∀ z, a = some z → z = y := by
  refine ⟨h.calm ((all_rememberDatabase cmd).bind fun _ => .done y) hs, ?_⟩
  intro z hz
  rcases h.of_bind with ⟨rfl, -⟩ | ⟨-, vs₁, vs₂, m, -, -, h₂⟩
  · cases hz
  · obtain ⟨-, rfl, -⟩ := h₂.of_done
    exact (Option.some.inj hz).symm

/-- What a command comes to after it was handed over to a session that broke. -/
theorem Course.resumed {n : SessionId} {e : Error} {reply : Option Reply} {before : List (Visit σ)}
    {a : Option (Except Error QueryResult)} (h : Course (Meanwhile d) (resume d cmd n e) s vs a s')
    (hs : s.AtRest d) (hn : (s.world.handles.get? n).isSome = true)
    (hv : handedOver before = [⟨n, cmd, reply⟩]) (hb : Handover.Breaks ⟨n, cmd, reply⟩ e) :
    HandedOnce cmd (before ++ vs) a := by
  have logged : (Job.reading fun _ => log .debug
      s!"{cmd.name} failed on a broken connection: {e.message}" : Job σ _).All (Calm d) :=
    Job.all_atomic (calm_unchanged fun _ => beside_log _ _)
  unfold resume at h
  rcases h.of_bind with ⟨rfl, h₁⟩ | ⟨_, vs₁, vs₂, m₁, rfl, h₁, h₂⟩
  · refine .of_one (t := ⟨n, cmd, reply⟩) ?_ rfl (fun r hr => nomatch hr)
      fun e' x _ hx => nomatch hx
    rw [handedOver_append, hv, h₁.calm logged hs]
    rfl
  obtain ⟨hs₁, hkeeps⟩ := h₁.atRest logged.lawful hs rfl
  have hv₁ : handedOver (before ++ vs₁) = [⟨n, cmd, reply⟩] := by
    rw [handedOver_append, hv, h₁.calm logged hs]
    rfl
  rw [← List.append_assoc]
  rcases h₂.of_bind with ⟨rfl, h₃⟩ | ⟨report, vs₃, vs₄, m₃, rfl, h₃, h₄⟩
  · rw [← List.append_nil vs₂]
    exact .of_resent hv₁ rfl rfl hb (h₃.resent hs₁ (hkeeps _ hn))
      nofun nofun
  have hres := h₃.resent hs₁ (hkeeps _ hn)
  split at h₄
  · obtain ⟨rfl, rfl, -⟩ := h₄.of_done
    refine .of_resent hv₁ rfl rfl hb hres (fun r hr => nomatch hr) fun x hx => ?_
    exact ⟨_, _, (Except.error.inj (Option.some.inj hx)).symm⟩
  next hquiet =>
    have hs₃ := (h₃.atRest (all_failOver _ _) hs₁ rfl).1
    obtain ⟨hv₄, ha⟩ := Course.remembered h₄ hs₃
    refine .of_resent hv₁ hv₄ rfl hb hres ?_ fun x hx => nomatch ha _ hx
    intro r hr
    cases ha _ hr
    exact ⟨report, rfl, by simpa using hquiet, rfl⟩

theorem Course.carriedOut {before : List (Visit σ)} {a : Option (Except Error QueryResult)}
    (h : Course (Meanwhile d) (carryOut d cmd) s vs a s') (hs : s.AtRest d)
    (hv : handedOver before = []) : HandedOnce cmd (before ++ vs) a := by
  unfold carryOut at h
  rcases h.of_bind with ⟨rfl, h₁⟩ | ⟨x, vs₁, vs₂, m₁, rfl, h₁, h₂⟩
  · obtain ⟨m, -, -, hd⟩ := h₁.delivered (dispatches_dispatch cmd)
    cases hd with
    | silent x hv₁ =>
      refine .of_one (by rw [handedOver_append, hv, hv₁]; rfl) rfl (fun r hr => nomatch hr) ?_
      exact fun e x _ hx => nomatch hx
  obtain ⟨m, hm, -, hd⟩ := h₁.delivered (dispatches_dispatch cmd)
  cases hd with
  | unsent e hv₁ hb =>
    obtain ⟨rfl, rfl, -⟩ := h₂.of_done
    refine .of_none ?_ fun r hr => nomatch hr
    rw [handedOver_append, handedOver_append, hv, hv₁]
    rfl
  | sent x wait result hv₁ hr hran =>
  obtain ⟨hrest, hknown⟩ := (atRest_of_meanwhile hm hs).1.ran hr hran
  have hsent : handedOver (before ++ vs₁) = [⟨x.session, cmd, some (.answer wait result)⟩] := by
    rw [handedOver_append, hv, hv₁]
    rfl
  rw [← List.append_assoc]
  cases hshown : cmd.shown result with
  | ok r =>
    rw [hshown] at h₂
    obtain ⟨hv₂, ha⟩ := Course.remembered h₂ hrest
    refine .of_one (by rw [handedOver_append, hsent, hv₂]; rfl) rfl ?_ ?_
    · intro r' hr'
      cases ha _ hr'
      exact ⟨wait, result, rfl, hshown⟩
    · exact fun e' x' _ hx => nomatch ha _ hx
  | error e =>
    rw [hshown] at h₂
    obtain rfl := Command.eq_error_of_shown hshown
    dsimp only at h₂
    split at h₂
    next hother =>
      obtain ⟨rfl, rfl, -⟩ := h₂.of_done
      refine .of_one (by rw [List.append_nil, hsent]) rfl (fun r hr => nomatch hr) ?_
      rintro e' x' ⟨wait', hreply, hconn⟩ -
      cases hreply
      simp [hconn] at hother
    next hbroken =>
      have hb : Handover.Breaks ⟨x.session, cmd, some (.answer wait (.error e))⟩ e :=
        ⟨wait, rfl, by simpa using hbroken⟩
      exact h₂.resumed hrest hknown hsent hb

theorem handedOnce_of_execute {a : Option (Except Error QueryResult)} (hs : Reachable d s)
    (h : Course (Meanwhile d) (execute d cmd) s vs a s') : HandedOnce cmd vs a := by
  unfold execute at h
  rcases h.of_bind with ⟨rfl, h₁⟩ | ⟨admitted, vs₁, vs₂, m₁, rfl, h₁, h₂⟩
  · exact .of_none (h₁.calm (all_prepare cmd) hs.atRest) fun r hr => nomatch hr
  have hv₁ := h₁.calm (all_prepare cmd) hs.atRest
  have hm₁ := (h₁.atRest (all_prepare cmd).lawful hs.atRest rfl).1
  cases admitted with
  | error e =>
    obtain ⟨rfl, rfl, -⟩ := h₂.of_done
    exact .of_none (by rw [List.append_nil, hv₁]) fun r hr => nomatch hr
  | ok _ => exact Course.carriedOut h₂ hm₁ hv₁

end Execute

/-- A pair whose master is lost by the next statement. -/
def breaking : Script where
  hosts := [("db1:3306",
    { ScriptedHost.plain with failures := [.query 2013 "08S01" "Lost connection"] })]

theorem handedOnce_of_breaking : ∃ (s s' : Scene Script) (vs : List (Visit Script))
    (r : QueryResult), Reachable pair s ∧
      Course (Meanwhile pair) (execute pair (.query "SELECT 1")) s vs (some (.ok r)) s' ∧
      (handedOver vs).length = 2 ∧ HandedOnce (.query "SELECT 1") vs (some (.ok r)) := by
  have hx : established.yields { servers := breaking } (fun x w =>
      ((execute pair (.query "SELECT 1")).run x.2).yields w fun r _ => r.1.isOk &&
        (handedOver ((execute pair (.query "SELECT 1")).visits x.2 w)).length == 2) = true := by
    decide +kernel
  obtain ⟨⟨b, c⟩, w, hy, hx⟩ := exists_of_yields hx
  have h := reachable_established hy
  obtain ⟨⟨_ | r, c'⟩, w', hz, hr⟩ := exists_of_yields hx <;>
    obtain ⟨hok, htwo⟩ := Bool.and_eq_true_iff.1 hr
  · cases hok
  · have course := Course.of_run (M := Meanwhile pair) (fun _ => .refl) hz [⟨_, .done b⟩]
    exact ⟨_, _, _, r, h, course, by simpa using htwo, handedOnce_of_execute h course⟩

end Failover
