import Failover.Proofs.Promotion
import Failover.Proofs.Stages
import Mathlib.Algebra.GroupWithZero.Nat

/-!
# How long an election may take

Inside an election statements are sent to ask for a role, to look the master up and to select the
remembered database. The first two are given up after the connect timeout. The last one is waited
for as long as it takes, so that an election comes to an end unless a server keeps silent on it
(`election_ends_iff`).
-/

namespace Failover

open Act World

variable {σ α β : Type}

section Errands

/-! ## What the stages are made of -/

/-- What is done to the servers and to the blacklist in an election. -/
inductive Errand [Cluster σ] (d : Deployment) : (α : Type) → Act σ α → Prop
  | connects (h : Host) : Errand d _ (connect h)
  | blacklists (h : Host) : Errand d _ (Act.blacklist h)
  | chore {α : Type} {x : Act σ α} (h : Chore d α x) : Errand d α x

/-- Made of errands. -/
abbrev Act.Errands [Cluster σ] (d : Deployment) (x : Act σ α) : Prop := MadeOf (Errand d) α x

variable [Cluster σ] {d : Deployment}

theorem Act.Chores.errands {x : Act σ α} (h : x.Chores d) : x.Errands d :=
  h.refine fun _ _ hx => .kind (.chore hx)

theorem errands_drop {x : Act σ α} (hx : x.Errands d) (n : SessionId) (h : Host) :
    (do discard (hangUp n); Act.blacklist h; x : Act σ α).Errands d :=
  .bind (chores_discard d (.kind (.hangsUp n))).errands fun _ =>
    .bind (.kind (.blacklists h)) fun _ => hx

theorem errands_tryHost (h : Host) (waiting : List Host) (e : Election) :
    (tryHost d h waiting e : Act σ (Election × Option Endpoint)).Errands d := by
  unfold tryHost
  refine .bind (.kind (.connects h)) fun outcome => ?_
  split
  · exact .bind (chores_log d _ _).errands fun _ => .bind (.kind (.blacklists h)) fun _ => .pure _
  refine .bind ((inert_forgive h).chores d).errands fun _ =>
    .bind (.kind (.chore (.judges h _))) fun v => ?_
  split
  · refine .bind (chores_log d _ _).errands fun _ => ?_
    split
    · exact .bind (.kind (.chore (.looksUp h _ waiting))) fun _ =>
        .bind (chores_place d _ _ _ _).errands fun _ => .pure _
    · exact .bind (.pure _) fun _ => .bind (chores_place d _ _ _ _).errands fun _ => .pure _
  · exact .bind (chores_log d _ _).errands fun _ => errands_drop (.pure _) _ h
  · exact errands_drop (.pure _) _ h

theorem errands_abandon (slot : Option Slot) (role searched : String) :
    (abandon slot role searched : Act σ Unit).Errands d := by
  unfold abandon
  split
  · exact .bind (chores_closeSession d _).errands fun _ =>
      .bind (chores_log d _ _).errands fun _ => .kind (.blacklists _)
  · exact .pure _

theorem Act.Staged.errands {x : Act σ α} (h : x.Staged d) : x.Errands d :=
  h.refine fun _ _ hx => match hx with
    | .tries h waiting e => errands_tryHost h waiting e
    | .chore hx => .kind (.chore hx)

theorem errands_recover (failed : SessionId) (inTransaction : Bool) (c : Connection) :
    (recover d failed inTransaction c : Act σ _).Errands d := by
  rcases recover_cases (σ := σ) d failed inTransaction c with h | ⟨r, name, searched, later, hl, h⟩
  · exact h.errands
  · rw [h]
    exact .bind ((inert_ask _).chores d).errands fun now =>
      .bind (errands_abandon _ _ _) fun _ => (hl now).errands

end Errands

section Time

/-! ## The time that passes -/

/-- Sessions are opened and closed within so many milliseconds. -/
structure Prompt (σ : Type) [Cluster σ] (limit : Nat) : Prop where
  connect : ∀ (h : Host) (n : SessionId) (s : σ), (Cluster.connect h n s).1 ≤ limit
  close : ∀ (n : SessionId) (s : σ), (Cluster.close n s).1 ≤ limit

/-- A database was to be selected, and there was no answer. -/
def Event.Stalls (e : Event) : Prop :=
  ∃ n database, e = .called n (.execute (Sql.useDatabase database)) .silence

/-- What an event may take where sessions are opened and closed within `limit`: a statement is
waited for until it is answered, or else for the connect timeout. -/
def Event.cost (d : Deployment) (limit : Nat) : Event → Nat
  | .refused _ _ | .opened _ _ | .closed _ => limit
  | .called _ _ (.answer wait _) => wait
  | .called _ _ .silence => d.connectTimeout
  | .judged _ _ | .ran _ _ => 0

variable [Cluster σ] {d : Deployment} {stalled : Prop} {u v w w' : World σ}

/-- The time that has passed is accounted for by what happened meanwhile. -/
def World.Elapses (d : Deployment) (stalled : Prop) (w w' : World σ) : Prop :=
  ∃ new, w'.journal = new ++ w.journal ∧ ((∃ e ∈ new, e.event.Stalls) ↔ stalled) ∧
    ∀ limit, Prompt σ limit → w'.now ≤ w.now + (new.map (·.event.cost d limit)).sum

theorem World.Elapses.trans {u v w : World σ} (h : u.Elapses d False v)
    (h' : v.Elapses d stalled w) : u.Elapses d stalled w := by
  obtain ⟨xs, hx, hxs, hxt⟩ := h
  obtain ⟨ys, hy, hys, hyt⟩ := h'
  refine ⟨ys ++ xs, by rw [hy, hx, List.append_assoc], ?_, ?_⟩
  · have hno : ∀ e ∈ xs, ¬e.event.Stalls := fun e he hs => hxs.1 ⟨e, he, hs⟩
    rw [← hys]
    constructor
    · rintro ⟨e, he, hs⟩
      rcases List.mem_append.1 he with he | he
      · exact ⟨e, he, hs⟩
      · exact absurd hs (hno e he)
    · rintro ⟨e, he, hs⟩
      exact ⟨e, List.mem_append_left _ he, hs⟩
  · intro limit hl
    have h₁ := hxt limit hl
    have h₂ := hyt limit hl
    rw [List.map_append, List.sum_append]
    omega

theorem elapses_of_same (hj : w'.journal = w.journal) (ht : w'.now = w.now) :
    w.Elapses d False w' :=
  ⟨[], hj, by simp, fun _ _ => ht.le⟩

/-- One event, which takes no more than it may cost. -/
theorem elapses_of_event {e : Entry} (hj : w'.journal = e :: w.journal)
    (hs : e.event.Stalls ↔ stalled)
    (ht : ∀ limit, Prompt σ limit → w'.now ≤ w.now + e.event.cost d limit) :
    w.Elapses d stalled w' :=
  ⟨[e], hj, by simpa using hs, fun limit hl => by simpa using ht limit hl⟩

theorem elapses_of_answer {e : Entry} (hj : w'.journal = e :: w.journal)
    (hs : ∀ n database, e.event ≠ .called n (.execute (Sql.useDatabase database)) .silence)
    (ht : ∀ limit, Prompt σ limit → w'.now ≤ w.now + e.event.cost d limit) :
    w.Elapses d False w' :=
  elapses_of_event hj (iff_false_intro fun ⟨n, database, h⟩ => hs n database h) ht

/-- The clock may have been stopped earlier. -/
theorem World.Elapses.earlier (h : w.Elapses d stalled w') {t : Nat} (ht : t ≤ w'.now) :
    w.Elapses d stalled { w' with now := t } := by
  obtain ⟨new, hj, hs, hcost⟩ := h
  exact ⟨new, hj, hs, fun limit hl => ht.trans (hcost limit hl)⟩

/-- Takes no more time than its events may cost, and stays unanswered only when a database is to be
selected. -/
def Act.Patient (d : Deployment) (x : Act σ α) : Prop :=
  ∀ w : World σ, x.Meets w (fun _ w' => w.Elapses d False w') (w.Elapses d True)

theorem Act.Patient.bind {x : Act σ α} {f : α → Act σ β} (hx : x.Patient d)
    (hf : ∀ a, (f a).Patient d) : (x >>= f).Patient d := by
  intro w
  refine meets_bind (hx w) ?_
  intro a w₁ h
  exact (hf a w₁).mono (fun _ _ h' => h.trans h') fun _ h' => h.trans h'

theorem Act.Inert.patient {x : Act σ α} (h : x.Inert) : x.Patient d :=
  fun _ => h.meets fun _ _ hw => elapses_of_same hw.journal hw.now

theorem Act.MadeOf.patient {P : (α : Type) → Act σ α → Prop} {x : Act σ α} (h : MadeOf P α x)
    (hP : ∀ (α : Type) (x : Act σ α), P α x → x.Patient d) : x.Patient d := by
  intro u
  refine h.meets (I := u.Elapses d False) ?_ (elapses_of_same rfl rfl)
  intro α x w hk hw
  exact (hP α x hk w).mono (fun _ _ h => hw.trans h) fun _ h => hw.trans h

/-- Takes no more time than its events may cost, and stays unanswered only at a question. -/
def Act.Asks (d : Deployment) (x : Act σ α) : Prop :=
  ∀ w : World σ, x.Meets w (fun _ w' => w.Elapses d False w') fun w' => w'.now = w.now ∧
    ∃ n sql, w'.journal = ⟨w.now, .called n (.query sql) .silence⟩ :: w.journal

theorem asks_pure (a : α) : (pure a : Act σ α).Asks d :=
  fun _ => meets_pure (elapses_of_same rfl rfl)

theorem asks_call {n : SessionId} {sql : String} {f : Except Error QueryResult → Act σ α}
    (hf : ∀ result, (f result).Inert) : (call n (.query sql) >>= f).Asks d := by
  intro w
  refine meets_bind (m := fun _ w' => w.Elapses d False w') (meets_call ?_ ?_) ?_
  · intro wait result servers _
    exact elapses_of_answer rfl (fun _ _ => by simp) fun _ _ => le_rfl
  · exact fun servers _ => ⟨rfl, n, sql, rfl⟩
  · exact fun result w₁ h => (hf result).meets fun _ _ hw =>
      h.trans (elapses_of_same hw.journal hw.now)

/-- A question that stays unanswered costs the connect timeout. -/
theorem Act.Asks.within {x : Act σ α} (hx : x.Asks d) : (within d.connectTimeout x).Patient d := by
  intro w
  refine meets_within ((hx w).mono ?_ ?_)
  · intro a w' h
    exact ⟨fun _ => h, fun ht => h.earlier ht.le⟩
  · rintro w' ⟨-, n, sql, hj⟩
    exact elapses_of_answer hj (fun _ _ => by simp) fun _ _ => le_rfl

theorem asks_roleOf (t : Topology) (h : Host) (n : SessionId) :
    (t.roleOf h n : Act σ _).Asks d := by
  cases t with
  | aurora =>
    refine asks_call fun result => ?_
    cases result <;> exact inert_pure _
  | _ => exact asks_pure _

theorem asks_reportedMaster (t : Topology) (n : SessionId) (candidates : List Host) :
    (t.reportedMaster n candidates : Act σ _).Asks d := by
  cases t with
  | aurora =>
    refine asks_call fun result => ?_
    cases result <;> exact inert_pure _
  | _ => exact asks_pure _

theorem patient_judge (t : Topology) (h : Host) (n : SessionId) :
    (t.judge d.connectTimeout h n : Act σ _).Patient d := by
  unfold Topology.judge
  refine (asks_roleOf t h n).within.bind fun outcome => .bind ?_ fun _ => (inert_pure _).patient
  intro w
  exact meets_change (elapses_of_answer rfl (fun _ _ => by simp) fun _ _ => le_rfl)

theorem patient_namedMaster (h : Host) (n : SessionId) (waiting : List Host) :
    (namedMaster d h n waiting : Act σ _).Patient d := by
  have failed (e : Error) : (do
      log .debug s!"Master lookup on {h.text} failed: {e.message}"
      return none : Act σ (Option Endpoint)).Patient d :=
    ((inert_log _ _).bind fun _ => inert_pure _).patient
  unfold namedMaster
  refine (asks_reportedMaster _ n _).within.bind fun outcome => ?_
  split
  · exact (inert_pure _).patient
  · split
    · exact ((inert_log _ _).bind fun _ => inert_pure _).patient
    · exact (inert_pure _).patient
  · exact failed _
  · exact failed _

theorem patient_followCatalog (c : Connection) (h : Handle) :
    (followCatalog c h : Act σ _).Patient d := by
  unfold followCatalog
  split
  swap
  · exact (inert_pure _).patient
  refine .bind (fun w => meets_call ?_ ?_) fun result => ?_
  · intro wait result servers _
    exact elapses_of_answer rfl (fun _ _ => by simp) fun _ _ => le_rfl
  · intro servers _
    exact elapses_of_event rfl (iff_of_true ⟨_, _, rfl⟩ trivial) fun _ _ => Nat.le_add_right _ _
  · split
    · exact (inert_log _ _).patient
    · exact (inert_pure _).patient

theorem Chore.patient {x : Act σ α} (h : Chore d α x) : x.Patient d := by
  cases h with
  | judges h n => exact patient_judge _ h n
  | looksUp h n waiting => exact patient_namedMaster h n waiting
  | follows c h => exact patient_followCatalog c h
  | hangsUp n =>
    intro w
    refine meets_hangUp_of fun wait o servers hc => ?_
    refine elapses_of_answer rfl (fun _ _ => by simp) fun limit hl => Nat.add_le_add_left ?_ _
    have hwait := hl.close n w.servers
    rwa [hc] at hwait
  | inert h => exact h.patient

theorem Errand.patient {x : Act σ α} (h : Errand d α x) : x.Patient d := by
  cases h with
  | connects h =>
    intro w
    refine meets_connect_of (fun wait e servers hc => ?_) fun wait servers hc => ?_
    all_goals
      refine elapses_of_answer rfl (fun _ _ => by simp) fun limit hl =>
        Nat.add_le_add_left ?_ _
      have hwait := hl.connect h (w.opened + 1) w.servers
      rwa [hc] at hwait
  | blacklists h =>
    exact .bind (fun w => meets_change (elapses_of_same rfl rfl)) fun _ => (inert_log _ _).patient
  | chore h => exact h.patient

end Time

section Elections

/-! ## The elections -/

/-- The sections that run an election, and the election for any goal. -/
inductive Electing [Cluster σ] (d : Deployment) : (β : Type) → Section σ β → Prop
  | search (g : Goal) : Electing d _ fun c => electAndRoute d c g
  | establish : Electing d _ (establish d)
  | reconnect : Electing d _ (reconnect d)
  | seekMaster : Electing d _ (seekMaster d)
  | tryMaster : Electing d _ (tryMaster d)
  | switchMode (readOnly : Bool) : Electing d _ (switchMode d readOnly)
  | recover (failed : SessionId) (inTransaction : Bool) :
      Electing d _ (recover d failed inTransaction)

variable [Cluster σ] {d : Deployment} {act : Section σ β}

theorem Electing.errands (h : Electing d β act) (c : Connection) : (act c).Errands d := by
  cases h with
  | search g => exact (staged_electAndRoute d c g).errands
  | establish => exact (staged_establish d c).errands
  | reconnect => exact (staged_reconnect d c).errands
  | seekMaster => exact (staged_seekMaster d c).errands
  | tryMaster => exact (staged_tryMaster d c).errands
  | switchMode b => exact (staged_switchMode d b c).errands
  | recover n b => exact errands_recover n b c

/-- What has passed is read off the events of the visit. -/
theorem World.Elapses.visit {c : Connection} {w : World σ} {stalled : Prop}
    (h : w.Elapses d stalled (act c w).2) :
    ((∃ e ∈ (⟨act, c, w⟩ : Visit σ).events, e.Stalls) ↔ stalled) ∧
      ∀ limit, Prompt σ limit → (act c w).2.now ≤
        w.now + ((⟨act, c, w⟩ : Visit σ).events.map (·.cost d limit)).sum := by
  obtain ⟨new, hj, hs, ht⟩ := h
  have hevents : (⟨act, c, w⟩ : Visit σ).events = (new.map Entry.event).reverse := since_eq hj
  rw [hevents]
  refine ⟨by simpa using hs, ?_⟩
  intro limit hl
  rw [List.map_reverse, List.sum_reverse, List.map_map]
  exact ht limit hl

/-- From whatever state, an election comes to an end unless a selection of the database stays
unanswered. Until then each statement takes the time until its answer, or no more than the connect
timeout if there is none. -/
theorem election_ends_iff (elects : Electing d β act) (c : Connection) (w : World σ) :
    ((∃ x w', act c w = (some x, w')) ↔ ¬∃ e ∈ (⟨act, c, w⟩ : Visit σ).events, e.Stalls) ∧
      ∀ limit, Prompt σ limit → (act c w).2.now ≤
        w.now + ((⟨act, c, w⟩ : Visit σ).events.map (·.cost d limit)).sum := by
  have patient := (elects.errands c).patient (fun _ _ h => h.patient) w
  rcases hx : act c w with ⟨_ | x, w'⟩
  · have elapses : w.Elapses d True (act c w).2 := hx ▸ patient.stalled hx
    obtain ⟨hstalls, htime⟩ := elapses.visit
    rw [hx] at htime
    refine ⟨iff_of_false ?_ (not_not_intro (hstalls.2 trivial)), htime⟩
    rintro ⟨_, _, ⟨⟩⟩
  · have elapses : w.Elapses d False (act c w).2 := hx ▸ patient.value hx
    obtain ⟨hstalls, htime⟩ := elapses.visit
    rw [hx] at htime
    exact ⟨iff_of_true ⟨x, w', rfl⟩ hstalls.1, htime⟩

end Elections

section Silence

/-! ## Servers that keep silent -/

/-- From now on the first host does not answer to statements that begin like this. -/
def Script.muted (s : Script) (statement : String) : Script :=
  s.setHost "db1:3306" { ScriptedHost.plain with stall := some statement }

theorem prompt_script : Prompt Script 0 := ⟨fun _ _ _ => le_rfl, fun _ _ => le_rfl⟩

def Event.isSilence : Event → Bool
  | .called _ _ .silence => true
  | _ => false

def Event.isQuestion : Event → Bool
  | .called _ (.query _) _ => true
  | _ => false

theorem Event.not_stalls {e : Event} (h : (!e.isSilence || e.isQuestion) = true) :
    ¬e.Stalls := by
  rintro ⟨_, _, rfl⟩
  cases h

/-- The host that does not say which role it has is left after the connect timeout. -/
theorem election_ends_of_muted : ∃ (c : Connection) (w : World Script) (v : Visit Script),
    v = ⟨establish cloud, c, w⟩ ∧ v.events.any Event.isSilence = true ∧
      (∃ x w', establish cloud c w = (some x, w')) ∧
      (establish cloud c w).2.now ≤ w.now + cloud.connectTimeout := by
  let v : Visit Script := ⟨establish cloud, .new true, { servers := Script.muted {} "SHOW" }⟩
  have hsilent : v.events.any Event.isSilence = true := by decide +kernel
  have hno : v.events.all (fun e => !e.isSilence || e.isQuestion) = true := by decide +kernel
  have hcost : (v.events.map (·.cost cloud 0)).sum = cloud.connectTimeout := by decide +kernel
  obtain ⟨hends, htime⟩ := election_ends_iff (.establish (d := cloud)) (.new true)
    ({ servers := Script.muted {} "SHOW" } : World Script)
  refine ⟨_, _, v, rfl, hsilent, hends.2 ?_, ?_⟩
  · rintro ⟨e, he, hstalls⟩
    exact Event.not_stalls (List.all_eq_true.1 hno e he) hstalls
  · rw [← hcost]
    exact htime 0 prompt_script

/-- A new session is put on the remembered database, and the server does not answer to that. -/
theorem reconnect_stays_on_database : ¬∀ (s : Scene Script) (β : Type) (act : Section Script β),
    Reachable pair s → Electing pair β act →
      ∃ x w, act s.connection s.world = (some x, w) := by
  intro claim
  have hx : established.yields { servers := {} } (fun x w =>
      ((execute pair (.setCatalog "shop")).run x.2).yields w fun y w =>
        ((reconnect pair y.2) { w with servers := w.servers.muted "USE" }).1.isNone) = true := by
    decide +kernel
  obtain ⟨⟨b, c⟩, w, hy, hx⟩ := exists_of_yields hx
  obtain ⟨⟨r, c₁⟩, w₁, hz, hnone⟩ := exists_of_yields hx
  have h := ((reachable_established hy).alone (.execute (.setCatalog "shop")) rfl hz).step
    (.drift _ (w₁.servers.muted "USE") w₁.now w₁.blacklist)
  obtain ⟨x, w₂, hends⟩ := claim _ _ _ h .reconnect
  rw [hends] at hnone
  cases hnone

end Silence

end Failover
