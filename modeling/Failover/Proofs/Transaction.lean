import Failover.Proofs.Replay

/-!
# Calls within a transaction

While a transaction is open on the session routed to, a call that is answered without an error has
been answered by that session, with one exception: where a replica stands in for the master, the
search for the master before a command is dispatched does not look at the transaction. If it finds
the master, the command goes there and the transaction is left behind (`stays_iff`).
-/

namespace Failover

open Act World

variable {σ : Type}

/-- The servers, the clock and the blacklist go their own way. -/
def Drift (s s' : Scene σ) : Prop :=
  ∃ (servers : σ) (now : Nat) (blacklist : Blacklist),
    s' = { s with world := { s.world with servers, now, blacklist } }

/-- What an application sends: a command, or a batch of statements. -/
inductive DataCall
  | command (cmd : Command)
  | batch (statements : List String)

def DataCall.job [Cluster σ] (d : Deployment) : DataCall → Job σ (Except Error Unit)
  | command cmd => return (← execute d cmd).map fun _ => ()
  | batch statements => return (← executeAll d statements).map fun _ => ()

/-- A transaction is open on the session in this slot, which is the one routed to. -/
structure InTransaction (slot : Slot) (s : Scene σ) : Prop where
  routed : s.connection.currentSlot = some slot
  handle : ∃ h, s.world.handles.get? slot.session = some h ∧ h.inTransaction = true

/-- What preparing a command leaves of a transaction. -/
inductive Prepared (slot : Slot) (s m : Scene σ) (vs : List (Visit σ)) : Prop
  /-- It is still routed to, and no master has been found. -/
  | stayed (still : InTransaction slot m)
      (down : s.connection.isFallback = true → m.connection.masterDown = true)
      (seen : s.connection.isFallback = true → ∀ v ∈ vs, v.connection.masterDown = true)
  /-- The master has been found in place of the replica. -/
  | moved (fallback : s.connection.isFallback = true) (up : m.connection.masterDown = false)
      (away : ∀ t, m.connection.currentSlot = some t → t.session ≠ slot.session)

/-- Sessions are only looked for where there is none, or where a replica stands in. -/
theorem admission_cases (d : Deployment) (cmd : Command) (now : Nat) {c : Connection}
    (hc : c.currentSlot.isSome = true) :
    (∃ e, (admission d cmd now c).1 = .refuse e) ∨ (admission d cmd now c).1 = .pass ∨
      (c.isFallback = true ∧ ((admission d cmd now c).1 = .needMaster ∨
        (admission d cmd now c).1 = .tryMaster)) := by
  obtain ⟨s, hs⟩ := Option.isSome_iff_exists.1 hc
  have counted (n : Nat) : ({ c with fallbackReads := n } : Connection).currentSlot = some s := hs
  have fallback (n : Nat) :
      ({ c with fallbackReads := n } : Connection).isFallback = c.isFallback := rfl
  unfold admission
  cases hf : c.isFallback <;> cases hw : cmd.isWrite <;>
    simp only [Bool.not_true, Bool.not_false, Bool.and_true, Bool.and_false, Bool.false_eq_true,
      if_true, if_false, hs, counted, fallback, hf] <;>
    split_ifs <;> simp

theorem Connection.fallback_iff {c : Connection} : c.isFallback = true ↔
    c.current = some .replica ∧ c.readOnly = false ∧ c.masterDown = true := by
  simp [isFallback, and_assoc]

section Prepare

variable {slot : Slot} {d : Deployment} {cmd : Command} {s m : Scene σ} {vs : List (Visit σ)}

theorem Drift.refl (s : Scene σ) : Drift s s := ⟨_, _, _, rfl⟩

theorem Drift.inTransaction (h : Drift s m) (ht : InTransaction slot s) : InTransaction slot m := by
  obtain ⟨servers, now, blacklist, rfl⟩ := h
  exact ⟨ht.routed, ht.handle⟩

theorem Drift.connection (h : Drift s m) : m.connection = s.connection := by
  obtain ⟨servers, now, blacklist, rfl⟩ := h
  rfl

theorem Drift.settled (h : Drift s m) (hs : Settled d s.connection s.world) :
    Settled d m.connection m.world := by
  obtain ⟨servers, now, blacklist, rfl⟩ := h
  exact hs.drift servers now blacklist

variable [Cluster σ]

theorem Drift.meanwhile (h : Drift s m) : Meanwhile d s m := by
  obtain ⟨servers, now, blacklist, rfl⟩ := h
  exact .single (.drift s servers now blacklist)

omit [Cluster σ] in
/-- Looking for the master where a replica stands in leaves the transaction open on the replica,
and moves away from it when the master is found. -/
theorem Sought.transaction {c : Connection} {w : World σ} (h : Sought d m.connection m.world c w)
    (hs : m.AtRest d) (ht : InTransaction slot m) (hf : m.connection.isFallback = true) :
    InTransaction slot ⟨c, w, m.tasks⟩ ∧ c.masterDown = true ∨
      c.masterDown = false ∧ ∀ t, c.currentSlot = some t → t.session ≠ slot.session := by
  obtain ⟨hcur, hro, hdown⟩ := Connection.fallback_iff.1 hf
  have hslot : m.connection.replica = some slot := by
    have hr := ht.routed
    unfold Connection.currentSlot at hr
    rwa [hcur] at hr
  have hrep : c.replica = some slot := h.replica.trans hslot
  have hmode : c.readOnly = false := h.readOnly.trans hro
  cases hm : c.masterDown with
  | true =>
    left
    have hmaster : c.master = none := h.settled.coherent.master_eq_none hm
    have hc : c.current = some .replica := by
      rw [h.settled.rest]
      simp [Connection.target, hrep, hmaster]
    obtain ⟨x, hx, hopen⟩ := ht.handle
    refine ⟨⟨?_, x, ?_, hopen⟩, rfl⟩
    · simp [Connection.currentSlot, hc, Connection.slot?, hrep]
    · have hknown := hs.settled.orderly.known _ _ hx
      exact (h.onward.handle _ hknown (Set.notMem_empty _)).trans hx
  | false =>
    right
    obtain ⟨t, hmaster⟩ : ∃ t, c.master = some t := by
      have hd := h.settled.coherent.masterDown
      rw [hm] at hd
      exact Option.isSome_iff_exists.1 (Option.isNone_eq_false_iff.1 hd.symm)
    have hc : c.current = some .master := by
      rw [h.settled.rest]
      simp [Connection.target, hmode, hmaster]
    refine ⟨rfl, ?_⟩
    intro t' ht'
    have ht' : c.slot? .master = some t' := by
      simpa [Connection.currentSlot, hc] using ht'
    exact h.settled.toSound.session_ne ht' (q := .replica) hrep (by decide)

/-- The section in which the master is looked for, with what it makes of its outcome. -/
theorem Course.sought {act : Section σ (Except Error Unit)} {s' : Scene σ} {a : Except Error Unit}
    (hact : ∀ c w, Settled d c w →
      (act c).Meets w (fun x w' => Sought d c w x.2 w') w.Quiet)
    (h : Course Drift (.atomic act) s vs (some a) s') (hs : s.AtRest d)
    (ht : InTransaction slot s) (hf : s.connection.isFallback = true) :
    (∀ v ∈ vs, v.connection = s.connection) ∧
      (InTransaction slot s' ∧ s'.connection.masterDown = true ∨
        s'.connection.masterDown = false ∧
          ∀ t, s'.connection.currentSlot = some t → t.session ≠ slot.session) := by
  obtain ⟨m, hm, rfl, ⟨b, c, w, hx, -, rfl⟩ | ⟨w, -, hn⟩⟩ := h.of_atomic
  · have hrest := (atRest_of_meanwhile hm.meanwhile hs).1
    refine ⟨by simp [hm.connection], ?_⟩
    exact ((hact _ _ hrest.settled).value hx).transaction hrest (hm.inTransaction ht)
      (by rwa [hm.connection])
  · cases hn

theorem Course.prepared (h : Course Drift (prepare d cmd) s vs (some (.ok ())) m)
    (hs : s.AtRest d) (ht : InTransaction slot s) : Prepared slot s m vs := by
  unfold prepare at h
  rcases h.of_bind with ⟨hn, -⟩ | ⟨a, vs₁, vs₂, m₁, rfl, h₁, h₂⟩
  · cases hn
  have hrest := (h₁.mono fun _ _ h => h.meanwhile).atRest
    (Job.all_atomic (calm_assess (d := d) cmd)).lawful hs rfl
  obtain ⟨m₀, hm₀, rfl, ⟨b, c, w, hx, hb, rfl⟩ | ⟨w, -, hn⟩⟩ := h₁.of_atomic
  swap
  · cases hn
  obtain rfl := Option.some.inj hb
  have hassess : (assess d cmd m₀.connection).Meets m₀.world _ fun _ => False := meets_assess
  obtain ⟨hadm, hw⟩ := hassess.value hx
  have hshape : c.shape = s.connection.shape := by
    rw [← hm₀.connection, ← admission_shape (d := d) cmd m₀.world.now m₀.connection, ← hadm]
  have ht₁ : InTransaction slot ⟨c, w, m₀.tasks⟩ := by
    obtain ⟨x, hget, hopen⟩ := (hm₀.inTransaction ht).handle
    exact ⟨(Connection.currentSlot_of_shape hshape).trans ht.routed, x, by rwa [hw.handles], hopen⟩
  have hfall : c.isFallback = s.connection.isFallback := Connection.isFallback_of_shape hshape
  have seen (hf : s.connection.isFallback = true) :
      ∀ v ∈ [(⟨assess d cmd, m₀.connection, m₀.world⟩ : Visit σ)],
        v.connection.masterDown = true := by
    simpa [hm₀.connection] using (Connection.fallback_iff.1 hf).2.2
  have search {act : Section σ (Except Error Unit)}
      (hact : ∀ c w, Settled d c w →
        (act c).Meets w (fun x w' => Sought d c w x.2 w') w.Quiet)
      (hf : s.connection.isFallback = true)
      (h : Course Drift (.atomic act) ⟨c, w, m₀.tasks⟩ vs₂ (some (.ok ())) m) :
      Prepared slot s m ([⟨assess d cmd, m₀.connection, m₀.world⟩] ++ vs₂) := by
    have hdown : c.masterDown = true := (Connection.fallback_iff.1 (hfall.trans hf)).2.2
    obtain ⟨hv, ⟨htm, hm⟩ | ⟨hm, haway⟩⟩ := h.sought hact hrest.1 ht₁ (hfall.trans hf)
    · refine .stayed htm (fun _ => hm) fun _ v hv' => ?_
      rcases List.mem_append.1 hv' with hv' | hv'
      · exact seen hf v hv'
      · rw [hv v hv']
        exact hdown
    · exact .moved hf hm haway
  have hslot : m₀.connection.currentSlot.isSome = true := by
    rw [hm₀.connection, ht.routed]
    rfl
  have hadm : (admission d cmd m₀.world.now m₀.connection).1 = a := by rw [← hadm]
  rcases admission_cases d cmd _ hslot with
    ⟨e, ha⟩ | ha | ⟨hf, ha | ha⟩ <;> obtain rfl := ha.symm.trans hadm
  · obtain ⟨-, hn, -⟩ := h₂.of_done
    cases hn
  · obtain ⟨rfl, -, rfl⟩ := h₂.of_done
    refine .stayed ht₁ ?_ fun hf v hv => seen hf v (by simpa using hv)
    intro hf
    exact (Connection.fallback_iff.1 (hfall.trans hf)).2.2
  · exact search (fun _ _ => meets_seekMaster) (by rwa [hm₀.connection] at hf) h₂
  · exact search (fun _ _ => meets_tryMaster) (by rwa [hm₀.connection] at hf) h₂

end Prepare

/-- What a call that was prepared and then answered did with its commands. -/
structure Answered (slot : Slot) (m s' : Scene σ) (vs : List (Visit σ)) : Prop where
  /-- One of them at least went to the session that was routed to. -/
  sent : ∃ t ∈ handedOver vs, ∃ r, m.connection.currentSlot = some r ∧ t.session = r.session
  found : ∃ v ∈ vs, v.connection = m.connection
  stays : InTransaction slot m → (∀ t ∈ handedOver vs, t.session = slot.session) ∧
    s'.connection.currentSlot = some slot ∧ ∀ v ∈ vs, v.connection = m.connection

section Answer

variable {slot : Slot} {d : Deployment} {cmd : Command} {s m s' : Scene σ} {vs : List (Visit σ)}

theorem Prepared.stays_iff {vs' : List (Visit σ)} (hp : Prepared slot s m vs)
    (hv : handedOver vs = []) (ha : Answered slot m s' vs') :
    ((∀ t ∈ handedOver (vs ++ vs'), t.session = slot.session) ∧
        s'.connection.currentSlot = some slot) ↔
      ¬(s.connection.isFallback = true ∧
        ∃ v ∈ vs ++ vs', v.connection.masterDown = false) := by
  rw [handedOver_append, hv, List.nil_append]
  cases hp with
  | stayed ht hdown hseen =>
    obtain ⟨hall, hcur, hfound⟩ := ha.stays ht
    refine iff_of_true ⟨hall, hcur⟩ ?_
    rintro ⟨hf, v, hmem, hup⟩
    rcases List.mem_append.1 hmem with hmem | hmem
    · cases (hseen hf v hmem).symm.trans hup
    · rw [hfound v hmem, hdown hf] at hup
      cases hup
  | moved hf hup haway =>
    obtain ⟨t, ht, r, hr, htr⟩ := ha.sent
    obtain ⟨v, hmem, hconn⟩ := ha.found
    refine iff_of_false ?_ fun h => h ⟨hf, v, List.mem_append_right _ hmem, ?_⟩
    · intro h
      exact haway r hr (htr.symm.trans (h.1 t ht))
    · rw [hconn, hup]

theorem Course.rememberedAlone {β : Type} {y : β} {a : Option β}
    (h : Course Drift (do rememberDatabase cmd; return y) s vs a s') :
    handedOver vs = [] ∧ (∀ v ∈ vs, v.connection = s.connection) ∧
      (a.isSome = true → s'.connection.currentSlot = s.connection.currentSlot) := by
  unfold rememberDatabase at h
  split at h
  next database =>
    rcases h.of_bind with ⟨rfl, h₁⟩ | ⟨_, vs₁, vs₂, m, rfl, h₁, h₂⟩
    · obtain ⟨m, hm, rfl, ⟨_, _, _, -, hn, -⟩ | ⟨w, hx, -⟩⟩ := h₁.of_atomic
      · cases hn
      · cases hx
    · obtain ⟨rfl, -, rfl⟩ := h₂.of_done
      obtain ⟨m₀, hm₀, rfl, ⟨_, c, w, hx, -, rfl⟩ | ⟨w, hx, -⟩⟩ := h₁.of_atomic
      · cases hx
        refine ⟨?_, by simp [hm₀.connection], fun _ => by rw [← hm₀.connection]; rfl⟩
        rw [List.append_nil, handedOver_visit rfl]
        exact (Quiet.refl _).handovers
      · cases hx
  next =>
    obtain ⟨rfl, -, rfl⟩ := h.of_done
    exact ⟨rfl, by simp, fun _ => rfl⟩

variable [Cluster σ]

/-- After a failure within a transaction the caller is always told. -/
theorem Course.raises {n : SessionId} {cmd : Option Command} {r : Report}
    (h : Course Drift (failOver d n cmd) s vs (some r) s')
    (hn : ∃ x, s.world.handles.get? n = some x ∧ x.inTransaction = true) :
    r.mustRaise = true := by
  obtain ⟨x, hx, hopen⟩ := hn
  unfold failOver at h
  rcases h.of_bind with ⟨hn, -⟩ | ⟨flag, vs₁, vs₂, m, rfl, h₁, h₂⟩
  · cases hn
  obtain ⟨m₁, w, ⟨servers, now, blacklist, rfl⟩, -, hflag, -, -⟩ := h₁.of_reading
  obtain rfl : flag = true := by
    rw [readFlag_apply, hx] at hflag
    cases hflag
    exact hopen
  rcases h₂.of_bind with ⟨hn, -⟩ | ⟨recovery, vs₃, vs₄, m₂, rfl, -, h₄⟩
  · cases hn
  have raised {cause : Option Error}
      (h : Course Drift (sendAgain cmd true cause) m₂ vs₄ (some r) s') : r.mustRaise = true := by
    have hnone : (cmd.filter fun cmd => cmd.isRepeatable && !true) = none := by
      cases cmd <;> simp
    unfold sendAgain at h
    rw [hnone] at h
    obtain ⟨-, hr, -⟩ := h.of_done
    rw [Option.some.inj hr]
    rfl
  cases recovery with
  | restored => exact raised h₄
  | standIn e => exact raised h₄
  | failed e =>
    obtain ⟨-, hr, -⟩ := h₄.of_done
    rw [Option.some.inj hr]
    rfl

theorem Course.unanswered {n : SessionId} {e : Error} {r : QueryResult}
    (hn : ∃ x, s.world.handles.get? n = some x ∧ x.inTransaction = true) :
    ¬Course Drift (resume d cmd n e) s vs (some (.ok r)) s' := by
  intro h
  unfold resume at h
  rcases h.of_bind with ⟨ha, -⟩ | ⟨_, vs₁, vs₂, m, -, h₁, h₂⟩
  · cases ha
  rcases h₂.of_bind with ⟨ha, -⟩ | ⟨report, vs₃, vs₄, m', -, h₃, h₄⟩
  · cases ha
  have hraise : report.mustRaise = true := by
    obtain ⟨m₁, w, ⟨servers, now, blacklist, rfl⟩, -, hlog, -, hm⟩ := h₁.of_reading
    rw [hm rfl] at h₃
    cases hlog
    exact h₃.raises hn
  rw [hraise] at h₄
  obtain ⟨-, ha, -⟩ := h₄.of_done
  cases ha

theorem Course.answered {r : QueryResult}
    (h : Course Drift (carryOut d cmd) m vs (some (.ok r)) s') : Answered slot m s' vs := by
  unfold carryOut at h
  rcases h.of_bind with ⟨hn, -⟩ | ⟨x, vs₁, vs₂, m₁, rfl, h₁, h₂⟩
  · cases hn
  obtain ⟨m₀, hm₀, hvs₁, hd⟩ := h₁.delivered (dispatches_dispatch cmd)
  have hfound : ∀ v ∈ vs₁, v.connection = m.connection := by simp [hvs₁, hm₀.connection]
  cases hd with
  | unsent e hv hb =>
    obtain ⟨-, hn, -⟩ := h₂.of_done
    cases hn
  | @sent x wait result w hv hr hran =>
  obtain ⟨q, hq, hx⟩ := hr.slot
  have hxq : x.session = q.session := session_of_get? hx
  rw [hm₀.connection] at hq
  have hsent : ⟨x.session, cmd, some (.answer wait result)⟩ ∈ handedOver (vs₁ ++ vs₂) := by
    rw [handedOver_append, hv]
    exact List.mem_append_left _ (List.mem_singleton_self _)
  have hvisit : ⟨Job.unchanged (dispatch cmd), m₀.connection, m₀.world⟩ ∈ vs₁ ++ vs₂ := by
    rw [hvs₁]
    exact List.mem_cons_self
  refine ⟨⟨_, hsent, q, hq, hxq⟩, ⟨_, hvisit, hm₀.connection⟩, ?_⟩
  intro ht
  obtain rfl : q = slot := Option.some.inj (hq.symm.trans ht.routed)
  obtain ⟨y, hy, hopen⟩ := (hm₀.inTransaction ht).handle
  obtain rfl : x = y := Option.some.inj (hx.symm.trans hy)
  cases hshown : cmd.shown result with
  | ok r' =>
    rw [hshown] at h₂
    obtain ⟨hv₂, hvisits, hcur⟩ := Course.rememberedAlone h₂
    refine ⟨?_, (hcur rfl).trans (hm₀.connection ▸ hq), ?_⟩
    · rw [handedOver_append, hv, hv₂]
      simp [hxq]
    · intro v hmem
      rcases List.mem_append.1 hmem with hmem | hmem
      · exact hfound v hmem
      · exact (hvisits v hmem).trans hm₀.connection
  | error e =>
    exfalso
    rw [hshown] at h₂
    obtain rfl := Command.eq_error_of_shown hshown
    dsimp only at h₂
    split at h₂
    · obtain ⟨-, hn, -⟩ := h₂.of_done
      cases hn
    have hsame : w.handles = m₀.world.handles := hran.handles
    refine Course.unanswered ⟨x, ?_, hopen⟩ h₂
    change w.handles.get? x.session = some x
    rw [hsame, hxq, hx]

theorem Course.answeredAll {cmds : List Command} {rs : List QueryResult} (hne : cmds ≠ [])
    (h : Course Drift (carryOutAll d cmds) m vs (some (.ok rs)) s') : Answered slot m s' vs := by
  unfold carryOutAll at h
  rcases h.of_bind with ⟨hn, -⟩ | ⟨x, vs₁, vs₂, m₁, rfl, h₁, h₂⟩
  · cases hn
  obtain ⟨m₀, w, hm₀, hvs₁, hx, hv, hm₁⟩ := h₁.of_reading
  have hfound : ∀ v ∈ vs₁, v.connection = m.connection := by simp [hvs₁, hm₀.connection]
  cases meets_dispatchAll.value hx with
  | unsent e hb =>
    obtain ⟨-, hn, -⟩ := h₂.of_done
    cases hn
  | sent x results hr hk hfirst =>
  cases results with
  | error e =>
    dsimp only at h₂
    split at h₂
    · obtain ⟨-, hn, -⟩ := h₂.of_done
      cases hn
    rcases h₂.of_bind with ⟨hn, -⟩ | ⟨report, vs₃, vs₄, m₃, -, -, h₄⟩
    · cases hn
    · obtain ⟨-, hn, -⟩ := h₄.of_done
      cases hn
  | ok results =>
  obtain ⟨rfl, -, rfl⟩ := h₂.of_done
  obtain ⟨q, hq, hxq⟩ := hr.slot
  have hxq : x.session = q.session := session_of_get? hxq
  rw [hm₀.connection] at hq
  rw [List.append_nil]
  have hvisit : ⟨Job.unchanged (dispatchAll cmds), m₀.connection, m₀.world⟩ ∈ vs₁ := by
    rw [hvs₁]
    exact List.mem_cons_self
  refine ⟨?_, ⟨_, hvisit, hm₀.connection⟩, ?_⟩
  · obtain ⟨cmd, rest, rfl⟩ := List.exists_cons_of_ne_nil hne
    obtain ⟨later, hlater⟩ := hfirst cmd rfl
    have hnew : w.journal =
        (later ++ [⟨m₀.world.now, .ran x.session cmd⟩]) ++ m₀.world.journal := by
      rw [← hlater, List.append_assoc, List.singleton_append]
    have hran : .ran x.session cmd ∈ m₀.world.since w := by
      rw [since_eq hnew]
      simp
    obtain ⟨t, ht, hts, -⟩ := ran_mem_iff.1 hran
    rw [← hv] at ht
    exact ⟨t, ht, q, hq, hts.trans hxq⟩
  · intro ht
    refine ⟨?_, ?_, hfound⟩
    · intro t hmem
      rw [hv] at hmem
      obtain ⟨new, hj, hnew⟩ := hk.adds
      have hran := ran_mem_iff.2 ⟨t, hmem, rfl, rfl⟩
      rw [since_eq hj] at hran
      obtain ⟨e, he, her⟩ := List.mem_map.1 (List.mem_reverse.1 hran)
      have hwork := hnew e he
      rw [her] at hwork
      rw [hwork.of_ran.1, hxq, Option.some.inj (hq.symm.trans ht.routed)]
    · rw [hm₁ rfl]
      exact (congrArg Connection.currentSlot hm₀.connection).trans ht.routed

omit [Cluster σ] in
theorem Course.of_mapped {β γ : Type} {M : Scene σ → Scene σ → Prop} {t : Job σ (Except Error β)}
    {f : β → γ} {y : γ} (h : Course M (do return (← t).map f) s vs (some (.ok y)) s') :
    ∃ r, Course M t s vs (some (.ok r)) s' := by
  rcases h.of_bind with ⟨hn, -⟩ | ⟨x, vs₁, vs₂, m, rfl, h₁, h₂⟩
  · cases hn
  obtain ⟨rfl, hx, rfl⟩ := h₂.of_done
  rw [List.append_nil]
  cases x with
  | error e => cases hx
  | ok r => exact ⟨r, h₁⟩

theorem Course.of_admitted {β : Type} {M : Scene σ → Scene σ → Prop} {y : β}
    {next : Job σ (Except Error β)}
    (h : Course M (do
      if let .error e ← prepare d cmd then return .error e
      next) s vs (some (.ok y)) s') :
    ∃ vs₁ vs₂ m, vs = vs₁ ++ vs₂ ∧ Course M (prepare d cmd) s vs₁ (some (.ok ())) m ∧
      Course M next m vs₂ (some (.ok y)) s' := by
  rcases h.of_bind with ⟨hn, -⟩ | ⟨admitted, vs₁, vs₂, m, rfl, h₁, h₂⟩
  · cases hn
  cases admitted with
  | error e =>
    obtain ⟨-, hn, -⟩ := h₂.of_done
    cases hn
  | ok _ => exact ⟨vs₁, vs₂, m, rfl, h₁, h₂⟩

/-- A call that is answered leaves the open transaction exactly when a replica stands in for the
master and the master is found before the call is dispatched. -/
theorem call_stays_in_transaction_iff {h : Handle} {call : DataCall} (hs : Reachable d s)
    (routed : s.connection.currentSlot = some slot)
    (known : s.world.handles.get? slot.session = some h) (inTransaction : h.inTransaction = true)
    (course : Course Drift (call.job d) s vs (some (.ok ())) s') :
    ((∀ t ∈ handedOver vs, t.session = slot.session) ∧ s'.connection.currentSlot = some slot) ↔
      ¬(s.connection.isFallback = true ∧ ∃ v ∈ vs, v.connection.masterDown = false) := by
  have ht : InTransaction slot s := ⟨routed, h, known, inTransaction⟩
  have prepared {cmd : Command} {m : Scene σ} {vs₁ vs₂ : List (Visit σ)}
      (h₁ : Course Drift (prepare d cmd) s vs₁ (some (.ok ())) m) (h₂ : Answered slot m s' vs₂) :
      ((∀ t ∈ handedOver (vs₁ ++ vs₂), t.session = slot.session) ∧
          s'.connection.currentSlot = some slot) ↔
        ¬(s.connection.isFallback = true ∧
          ∃ v ∈ vs₁ ++ vs₂, v.connection.masterDown = false) :=
    (h₁.prepared hs.atRest ht).stays_iff
      ((h₁.mono fun _ _ h => h.meanwhile).calm (all_prepare cmd) hs.atRest) h₂
  cases call with
  | command cmd =>
    obtain ⟨r, hexecute⟩ := course.of_mapped
    unfold execute at hexecute
    obtain ⟨vs₁, vs₂, m, rfl, h₁, h₂⟩ := hexecute.of_admitted
    exact prepared h₁ (Course.answered h₂)
  | batch statements =>
    obtain ⟨r, hexecute⟩ := course.of_mapped
    unfold executeAll at hexecute
    dsimp only at hexecute
    split at hexecute
    next first hfirst =>
      obtain ⟨vs₁, vs₂, m, rfl, h₁, h₂⟩ := hexecute.of_admitted
      refine prepared h₁ (Course.answeredAll ?_ h₂)
      intro hnil
      rw [hnil] at hfirst
      cases hfirst
    next =>
      obtain ⟨rfl, -, rfl⟩ := hexecute.of_done
      refine iff_of_true ⟨fun t ht => (nomatch ht), routed⟩ ?_
      rintro ⟨-, v, hv, -⟩
      cases hv

end Answer

section StandIn

/-! ## A stand-in left in the middle of a transaction -/

/-- The pair loses its master, and on the replica that stands in a transaction is opened. -/
def standIn : Act Script Connection := do
  let (_, c) ← establish pair (.new true)
  change fun w =>
    { w with
      servers := w.servers.setHost "db1:3306" { ScriptedHost.plain with reachable := false } }
  let (_, c) ← (execute pair (.query "SELECT 1")).run c
  let (_, c) ← (execute pair .begin).run c
  return c

theorem reachable_standIn {c : Connection} {w : World Script}
    (h : standIn { servers := {} } = (some c, w)) :
    ∃ tasks, Reachable pair ⟨c, w, tasks⟩ := by
  obtain ⟨⟨b₁, c₁⟩, w₁, h₁, h⟩ := bind_eq_some.1 h
  obtain ⟨_, w₂, h₂, h⟩ := bind_eq_some.1 h
  obtain ⟨⟨b₃, c₃⟩, w₃, h₃, h⟩ := bind_eq_some.1 h
  obtain ⟨⟨b₄, c₄⟩, w₄, h₄, h⟩ := bind_eq_some.1 h
  cases h
  cases h₂
  have r₂ := (reachable_established h₁).step (.drift _
    (w₁.servers.setHost "db1:3306" { ScriptedHost.plain with reachable := false }) w₁.now
    w₁.blacklist)
  have r₃ := r₂.alone (.execute (.query "SELECT 1")) rfl h₃
  exact ⟨_, r₃.alone (.execute .begin) rfl h₄⟩

/-- Whether a call in a transaction is answered, and whether other sessions have a part in it. -/
def answeredIn (others : Bool) (call : DataCall) (c : Connection) (w : World Script) : Bool :=
  c.currentSlot.any fun slot =>
    (w.handles.get? slot.session).any (·.inTransaction) &&
      (((call.job pair).run c w).1.any (·.1.isOk) &&
        (handedOver ((call.job pair).visits c w)).any (·.session ≠ slot.session) == others)

theorem of_answeredIn {others : Bool} {call : DataCall} {c : Connection} {w : World Script}
    (h : answeredIn others call c w = true) (tasks : List (Task Script)) :
    ∃ slot x vs s', c.currentSlot = some slot ∧ w.handles.get? slot.session = some x ∧
      x.inTransaction = true ∧
      Course Drift (call.job pair) ⟨c, w, tasks⟩ vs (some (.ok ())) s' ∧
      (handedOver vs).any (·.session ≠ slot.session) = others := by
  obtain ⟨slot, hslot, h⟩ := (Option.any_eq_true _ _).1 h
  obtain ⟨hopen, h⟩ := Bool.and_eq_true_iff.1 h
  obtain ⟨hok, hothers⟩ := Bool.and_eq_true_iff.1 h
  obtain ⟨x, hx, hopen⟩ := (Option.any_eq_true _ _).1 hopen
  rcases hrun : (call.job pair).run c w with ⟨_ | ⟨_ | u, c'⟩, w'⟩ <;> rw [hrun] at hok
  · cases hok
  · cases hok
  · exact ⟨slot, x, _, _, hslot, hx, hopen, Course.of_run Drift.refl hrun tasks,
      by simpa using hothers⟩

/-- As long as the master is away, the transaction goes on. -/
theorem call_stays_in_transaction_on_standIn : ∃ (s s' : Scene Script) (slot : Slot) (x : Handle)
    (vs : List (Visit Script)), Reachable pair s ∧ s.connection.currentSlot = some slot ∧
      s.world.handles.get? slot.session = some x ∧ x.inTransaction = true ∧
      Course Drift ((DataCall.command (.query "SELECT 2")).job pair) s vs (some (.ok ())) s' ∧
      (((∀ t ∈ handedOver vs, t.session = slot.session) ∧
          s'.connection.currentSlot = some slot) ↔
        ¬(s.connection.isFallback = true ∧ ∃ v ∈ vs, v.connection.masterDown = false)) := by
  have hx : standIn.yields { servers := {} } (fun c w =>
      answeredIn false (.command (.query "SELECT 2")) c w) = true := by
    decide +kernel
  obtain ⟨c, w, hy, hx⟩ := exists_of_yields hx
  obtain ⟨tasks, h⟩ := reachable_standIn hy
  obtain ⟨slot, x, vs, s', hslot, hget, hopen, course, -⟩ := of_answeredIn hx tasks
  exact ⟨_, s', slot, x, vs, h, hslot, hget, hopen, course,
    call_stays_in_transaction_iff h hslot hget hopen course⟩

/-- When the master is back and the next try for it is due, a read goes there without a word. -/
theorem call_leaves_transaction_for_master :
    ¬∀ (s s' : Scene Script) (slot : Slot) (x : Handle) (call : DataCall)
      (vs : List (Visit Script)), Reachable pair s → s.connection.currentSlot = some slot →
        s.world.handles.get? slot.session = some x → x.inTransaction = true →
        Course Drift (call.job pair) s vs (some (.ok ())) s' →
        ∀ t ∈ handedOver vs, t.session = slot.session := by
  intro claim
  have hx : standIn.yields { servers := {} } (fun c w =>
      answeredIn true (.command (.query "SELECT 2")) c
        { w with
          servers := w.servers.setHost "db1:3306" .plain
          now := w.now + 30000 }) = true := by
    decide +kernel
  obtain ⟨c, w, hy, hx⟩ := exists_of_yields hx
  obtain ⟨tasks, h⟩ := reachable_standIn hy
  have h' := h.step (.drift _ (w.servers.setHost "db1:3306" .plain) (w.now + 30000) w.blacklist)
  obtain ⟨slot, x, vs, s', hslot, hget, hopen, course, hothers⟩ := of_answeredIn hx tasks
  obtain ⟨t, ht, hne⟩ := List.any_eq_true.1 hothers
  exact of_decide_eq_true hne (claim _ _ _ _ _ _ h' hslot hget hopen course t ht)

end StandIn

end Failover
