import Failover.Proofs.Ownership
import Failover.Proofs.SharedRecovery

/-!
# Reconnecting before a command

A command that finds no session decides in one section to reconnect, and reconnects in a later one.
Between the two another task may elect a session of its own, and the decision is not looked at
again: the reconnect closes whatever it finds. So a session is spared only if there is none
(`reconnect_spares_iff`).
-/

namespace Failover

open Act World

variable {σ : Type} {d : Deployment} {c c' : Connection} {w w' : World σ} {n : SessionId}

section Closed

theorem closed_mem_since {kind : Event → Prop} (h : w.Adds kind w')
    (hn : closings n w.journal < closings n w'.journal) : .closed n ∈ w.since w' := by
  obtain ⟨new, hj, -⟩ := h
  have hsum : closings n w'.journal = closings n new + closings n w.journal := by
    rw [hj]
    exact List.countP_append
  obtain ⟨e, he, hends⟩ := List.countP_pos_iff.1 (show 0 < closings n new by omega)
  have hclosed : e.event = .closed n := by
    generalize e.event = event at hends
    cases event with
    | closed m => rw [of_decide_eq_true hends]
    | _ => cases hends
  rw [since_eq hj, List.mem_reverse]
  exact List.mem_map.2 ⟨e, he, hclosed⟩

variable [Cluster σ]

theorem meets_closeSlot_suffix {slot : Option Slot} {stuck : World σ → Prop} :
    (closeSlot slot).Meets w (fun _ w' => w.journal <:+ w'.journal) stuck := by
  cases slot with
  | none => exact meets_pure List.suffix_rfl
  | some s =>
    refine meets_closeSession_of (fun _ => List.suffix_rfl) fun x w' _ _ hc => ?_
    obtain ⟨t, hj⟩ := hc.journal
    rw [hj]
    exact List.suffix_cons _ _

omit [Cluster σ] in
theorem World.Quiet.ended (hq : w.Quiet w') (hn : 0 < closings n w.journal) :
    0 < closings n w'.journal :=
  hn.trans_le (closings_le_of_suffix hq.adds.suffix)

/-- That a session was closed is a fact for good. -/
theorem upkeep_ended (n : SessionId) : Upkeep (σ := σ) d
    (fun _ w => 0 < closings n w.journal) fun w => 0 < closings n w.journal where
  tries _ hs ho hn := (meets_tryHost hs ho).mono (fun _ _ h => h.quiet.ended hn)
    fun _ h => h.ended hn
  rechecks hs hn := (meets_recheckReplica hs).mono (fun _ _ h => h.quiet.ended hn)
    fun _ h => h.ended hn
  closes hw hn := (meets_closeSession hw).mono (fun _ _ h => h.quiet.ended hn) fun _ h => h
  still hn hw := hw.beside.quiet.ended hn
  fewer hn _ := hn

theorem meets_closeSessions_ends (hs : Settled d c w) {r : Role} {slot : Slot}
    {stuck : World σ → Prop} (hslot : c.slot? r = some slot) : (closeSessions c).Meets w
      (fun c' w' => Settled d { c' with fallbackReads := 0 } w' ∧
        0 < closings slot.session w'.journal) stuck := by
  have hlive : ¬w.Shut slot.session := (hs.holds r slot hslot).not_shut
  have hsettled := (upkeep_quiet w).closeSessions c.closed hs.toSound (Quiet.refl w)
  have hends : (closeSessions c).Meets w
      (fun _ w' => 0 < closings slot.session w'.journal) fun _ => False := by
    unfold closeSessions
    refine meets_bind (meets_closeSlot_ends hlive) fun _ w₁ ⟨hmas, hrep⟩ => ?_
    by_cases hm : slot.session ∈ sessionIn c.master
    · exact meets_bind meets_closeSlot_suffix fun _ w₂ h₂ =>
        meets_pure ((hmas hm).trans_le (closings_le_of_suffix h₂))
    · have hr : slot.session ∈ sessionIn c.replica := by
        cases r with
        | master => exact absurd (mem_sessionIn.2 ⟨slot, hslot, rfl⟩) hm
        | replica => exact mem_sessionIn.2 ⟨slot, hslot, rfl⟩
      exact meets_bind (meets_closeSlot_ends (hrep hm)) fun _ w₂ h₂ => meets_pure (h₂.1 hr)
  refine (hsettled.and hends).mono ?_ fun _ h => h.2.elim
  rintro c' w' ⟨⟨_, hs', _⟩, hn⟩
  exact ⟨hs'.of_shape rfl, hn⟩

/-- Reconnecting closes every session that it finds, even if it does not come to an end. -/
theorem meets_reconnect_ends (hs : Settled d c w) (hopen : c.closed = false) {r : Role}
    {slot : Slot} (hslot : c.slot? r = some slot) :
    (reconnect d c).Meets w (fun _ w' => 0 < closings slot.session w'.journal)
      fun w' => 0 < closings slot.session w'.journal := by
  unfold reconnect
  rw [hopen]
  refine meets_bind (meets_closeSessions_ends hs hslot) fun c' w₁ ⟨hs₁, hn⟩ => ?_
  exact ((upkeep_ended _).electRoles _ w₁ hs₁ hn).mono (fun _ _ h => h.2) fun _ h => h

end Closed

section Race

/-! ## The decision and the reconnect -/

/-- All sessions in slots have been opened after the first `n`. -/
structure Newer (n : SessionId) (c : Connection) (w : World σ) : Prop where
  opened : n ≤ w.opened
  slots : ∀ r slot, c.slot? r = some slot → n < slot.session

theorem Newer.grows (h : Newer n c w) (hw : w.opened ≤ w'.opened) : Newer n c w' :=
  ⟨h.opened.trans hw, h.slots⟩

theorem Newer.of_slots (h : Newer n c w)
    (hc : ∀ r slot, c'.slot? r = some slot → ∃ q, c.slot? q = some slot) : Newer n c' w := by
  refine ⟨h.opened, ?_⟩
  intro r slot hslot
  obtain ⟨q, hq⟩ := hc r slot hslot
  exact h.slots q slot hq

variable [Cluster σ]

theorem lasting_newer (n : SessionId) :
    Lasting (σ := σ) d (fun _ => True) (Newer n) fun _ => True where
  tries _ hs ho h := (meets_tryHost hs ho).mono (fun x w' ha => by
    cases ha with
    | unbound hc _ ho =>
      rw [hc]
      exact h.grows ho.opened
    | bound r s _ hf hc _ _ ho =>
      rw [hc]
      refine ⟨h.opened.trans ho.opened, ?_⟩
      intro q t ht
      rcases Connection.cases_slot_fill ht with ⟨-, rfl⟩ | ⟨-, ht⟩
      · exact h.opened.trans_lt hf
      · exact h.slots q t ht) fun _ _ => trivial
  rechecks hs h := (meets_recheckReplica hs).mono (fun x w' hr => by
    generalize x.1 = c', x.2 = g' at hr ⊢
    cases hr with
    | same _ ho => exact h.grows ho.opened
    | promoted s _ _ hrep _ _ ho =>
      refine (h.grows ho.opened).of_slots fun r t ht => ⟨.replica, ?_⟩
      obtain ⟨-, rfl⟩ := Connection.eq_of_slot_promote ht
      exact hrep) fun _ _ => trivial
  closes hw h := (meets_closeSession hw).mono (fun _ _ ho => h.grows ho.opened)
    fun _ (h : True) => h
  still h hw := h.grows hw.opened.ge
  fewer h hc := h.of_slots fun r slot hslot => ⟨r, hc.slot r slot hslot⟩
  works _ h _ _ hk := h.grows hk.opened
  stays _ := trivial
  remembers _ h := h.of_slots fun r slot hslot => ⟨r, by cases r <;> exact hslot⟩

/-- Without a session to route to, a command is refused or has the connection reconnect. -/
theorem admission_bare (cmd : Command) (now : Nat) (hc : c.currentSlot = none) :
    (∃ e, (admission d cmd now c).1 = .refuse e) ∨ (admission d cmd now c).1 = .reconnect := by
  have counted (k : Nat) : ({ c with fallbackReads := k } : Connection).currentSlot = none := hc
  unfold admission
  dsimp only
  split_ifs <;> simp [hc, counted]

variable {s s' : Scene σ} {cmd : Command} {v v' : Visit σ} {vs : List (Visit σ)}
  {a : Option (Except Error Unit)}

/-- The section that comes after no session was found is the reconnect, in whatever scene the
others have left: the decision before it counts what it has seen, and opens nothing. -/
theorem Course.reconnects (course : Course (Meanwhile d) (prepare d cmd) s (v :: v' :: vs) a s')
    (h : Reachable d s) (bare : v.connection.currentSlot = none) :
    ∃ c w tasks m, (∀ r, c.slot? r = none) ∧ w.opened = v.world.opened ∧
      Reachable d ⟨c, w, tasks⟩ ∧ Meanwhile d ⟨c, w, tasks⟩ m ∧
      v' = ⟨reconnect d, m.connection, m.world⟩ := by
  rcases course.of_bind with ⟨-, hfirst⟩ | ⟨b, vs₁, vs₂, m₀, hvs, hfirst, hrest⟩
  · obtain ⟨m, -, hone, -⟩ := hfirst.of_atomic
    simp at hone
  obtain ⟨m, hm, rfl, ⟨_, c, w, comes, hb, rfl⟩ | ⟨w, -, hb⟩⟩ := hfirst.of_atomic
  · obtain rfl := Option.some.inj hb
    obtain ⟨rfl, rfl⟩ := List.cons.inj hvs
    have h₁ := h.meanwhile hm
    have hassess : (assess d cmd m.connection).Meets m.world _ fun _ => True := meets_assess
    obtain ⟨hadm, hw⟩ := hassess.value comes
    have hshape : c.shape = m.connection.shape := by
      rw [show c = (admission d cmd m.world.now m.connection).2 from congrArg Prod.snd hadm]
      exact admission_shape cmd _ _
    have hvacant (r : Role) : c.slot? r = none :=
      (Connection.slot_of_shape hshape r).trans (h₁.atRest.settled.vacant bare r)
    have hfirst : b = (admission d cmd m.world.now m.connection).1 := congrArg Prod.fst hadm
    rcases admission_bare cmd m.world.now bare with ⟨e, he⟩ | he
    · obtain rfl := hfirst.trans he
      cases hrest.of_done.1
    · obtain rfl := hfirst.trans he
      obtain ⟨m', others, hv, -⟩ := hrest.of_atomic
      obtain ⟨rfl, rfl⟩ := List.cons.inj hv
      exact ⟨c, w, m.tasks, m', hvacant, hw.opened, h₁.visit (.prepare cmd) rfl comes, others, rfl⟩
  · cases hb

/-- A session that is in a slot when the connection reconnects is closed. -/
theorem Reachable.closed_mem_reconnect {m : Scene σ} (h : Reachable d m) {r : Role} {slot : Slot}
    (hslot : m.connection.slot? r = some slot) :
    .closed slot.session ∈ (⟨reconnect d, m.connection, m.world⟩ : Visit σ).events := by
  have hs := h.atRest.settled
  have hlive : closings slot.session m.world.journal = 0 :=
    (h.custody.owned _ (hs.holds r slot hslot).not_shut).1
  have hends := (meets_reconnect_ends hs (h.isOpen hslot) hslot).world
  have hquiet : m.world.Quiet (reconnect d m.connection m.world).2 :=
    (((upkeep_quiet m.world).reconnect _ _ hs (Quiet.refl _)).mono (fun _ _ h => h.2)
      fun _ h => h).world
  exact closed_mem_since hquiet.adds (hlive ▸ hends)

/-- The course of a command that decides to reconnect, and does so after the others. -/
theorem Course.of_reconnect {m : Scene σ} {b : Except Error Unit}
    (decides : assess d cmd s.connection s.world = (some (.reconnect, c), w))
    (others : Meanwhile d ⟨c, w, s.tasks⟩ m)
    (reconnects : reconnect d m.connection m.world = (some (b, c'), w')) :
    Course (Meanwhile d) (prepare d cmd) s
      [⟨assess d cmd, s.connection, s.world⟩, ⟨reconnect d, m.connection, m.world⟩] (some b)
      ⟨c', w', m.tasks⟩ :=
  .step .refl decides (.step others reconnects (.done _ _))

/-- The reconnect that a command starts because it found no session closes every session that it
finds: those that others have elected since are spared only if there are none. -/
theorem reconnect_spares_iff (h : Reachable d s)
    (course : Course (Meanwhile d) (prepare d cmd) s (v :: v' :: vs) a s')
    (bare : v.connection.currentSlot = none) :
    (∀ r slot, v'.connection.slot? r = some slot → v.world.opened < slot.session) ∧
      ((∀ r slot, v'.connection.slot? r = some slot → .closed slot.session ∉ v'.events) ↔
        ∀ r, v'.connection.slot? r = none) := by
  obtain ⟨c, w, tasks, m, vacant, hw, h₁, others, rfl⟩ := course.reconnects h bare
  have start : Newer v.world.opened c w := by
    refine ⟨hw.ge, ?_⟩
    intro r slot hslot
    cases (vacant r).symm.trans hslot
  have hnewer : Newer v.world.opened m.connection m.world :=
    h₁.maintains_meanwhile others (lasting_newer _) (fun hn => ⟨hn.opened, hn.slots⟩) start
  refine ⟨hnewer.slots, ?_, ?_⟩
  · intro spared r
    cases hslot : m.connection.slot? r with
    | none => rfl
    | some slot =>
      exact absurd ((h₁.meanwhile others).closed_mem_reconnect hslot) (spared r slot hslot)
  · intro hnone r slot hslot
    cases (hnone r).symm.trans hslot

end Race

section Lone

/-! ## A single server that comes back -/

/-- One server, and reconnecting by itself. -/
def lone : Deployment where
  config :=
    { topology := .standalone
      hosts := ["db1"]
      failover := { retriesAllDown := 1, autoReconnect := true } }
  hosts := [⟨⟨"db1", 3306⟩, none⟩]

/-- The server goes down or comes back. -/
def turn (reachable : Bool) : Act Script Unit :=
  change fun w =>
    { w with servers := w.servers.setHost "db1:3306" { ScriptedHost.plain with reachable } }

/-- The session broke and was given up while the server was down; now the server is back. -/
def stranded : Act Script Connection := do
  let (_, c) ← establish lone (.new false)
  turn false
  let (_, c) ← (failOver lone 1 none).run c
  turn true
  return c

theorem reachable_stranded {c : Connection} {w : World Script}
    (h : stranded { servers := {} } = (some c, w)) : Reachable lone ⟨c, w, []⟩ := by
  have turned {c : Connection} {w w' : World Script} {tasks : List (Task Script)} {b : Bool}
      (hr : Reachable lone ⟨c, w, tasks⟩) (h : turn b w = (some (), w')) :
      Reachable lone ⟨c, w', []⟩ := by
    cases h
    exact (hr.step (.drift _
      (w.servers.setHost "db1:3306" { ScriptedHost.plain with reachable := b })
      w.now w.blacklist)).deserted
  obtain ⟨⟨b, c₁⟩, w₁, h₁, h⟩ := bind_eq_some.1 h
  obtain ⟨⟨⟩, w₂, h₂, h⟩ := bind_eq_some.1 h
  obtain ⟨⟨report, c₃⟩, w₃, h₃, h⟩ := bind_eq_some.1 h
  obtain ⟨⟨⟩, w₄, h₄, h⟩ := bind_eq_some.1 h
  cases h
  have hnew : Reachable lone ⟨c₁, w₁, _⟩ :=
    (Reachable.start (d := lone) {} 0 {}).alone .establish rfl (by rw [Job.run_atomic]; exact h₁)
  exact turned ((turned hnew h₂).alone (.failOver 1 none) rfl h₃) h₄

def Admission.isReconnect : Admission → Bool
  | .reconnect => true
  | _ => false

theorem Admission.eq_reconnect {a : Admission} (h : a.isReconnect = true) : a = .reconnect := by
  cases a <;> first | rfl | cases h

/-- While nobody else has elected a session, there is none to be closed. -/
theorem reconnect_spares_of_stranded : ∃ (s s' : Scene Script) (v v' : Visit Script)
    (a : Option (Except Error Unit)), Reachable lone s ∧
      Course (Meanwhile lone) (prepare lone .ping) s [v, v'] a s' ∧
      v.connection.currentSlot = none ∧
      (∀ r slot, v'.connection.slot? r = some slot → v.world.opened < slot.session) ∧
      ((∀ r slot, v'.connection.slot? r = some slot → .closed slot.session ∉ v'.events) ↔
        ∀ r, v'.connection.slot? r = none) := by
  have hx : stranded.yields { servers := {} } (fun c w => c.currentSlot.isNone &&
      (assess lone .ping c).yields w fun x w => x.1.isReconnect &&
        (reconnect lone x.2).yields w fun _ _ => true) = true := by
    decide +kernel
  obtain ⟨c, w, hy, hx⟩ := exists_of_yields hx
  obtain ⟨bare, hx⟩ := Bool.and_eq_true_iff.1 hx
  obtain ⟨⟨admitted, c₁⟩, w₁, decides, hx⟩ := exists_of_yields hx
  obtain ⟨hreconnect, hx⟩ := Bool.and_eq_true_iff.1 hx
  obtain ⟨⟨b, c₂⟩, w₂, reconnects, -⟩ := exists_of_yields hx
  obtain rfl := Admission.eq_reconnect hreconnect
  have bare := Option.isNone_iff_eq_none.1 bare
  have course := Course.of_reconnect (s := ⟨c, w, []⟩) decides .refl reconnects
  exact ⟨_, _, _, _, _, reachable_stranded hy, course, bare,
    reconnect_spares_iff (reachable_stranded hy) course bare⟩

/-- After one task has decided to reconnect, another one reconnects and begins a transaction. Then
the first one closes its session. -/
theorem reconnect_closes_transaction : ¬∀ (s s' : Scene Script) (cmd : Command)
    (v v' : Visit Script) (vs : List (Visit Script)) (a : Option (Except Error Unit)),
    Reachable lone s → Course (Meanwhile lone) (prepare lone cmd) s (v :: v' :: vs) a s' →
      v.connection.currentSlot = none →
      ∀ r slot, v'.connection.slot? r = some slot → .closed slot.session ∉ v'.events := by
  intro claim
  have hx : stranded.yields { servers := {} } (fun c w => c.currentSlot.isNone &&
      (assess lone .ping c).yields w fun x w => x.1.isReconnect &&
        ((execute lone .begin).run x.2).yields w fun x w => x.2.master.isSome &&
          (reconnect lone x.2).yields w fun _ _ => true) = true := by
    decide +kernel
  obtain ⟨c, w, hy, hx⟩ := exists_of_yields hx
  obtain ⟨bare, hx⟩ := Bool.and_eq_true_iff.1 hx
  obtain ⟨⟨admitted, c₁⟩, w₁, decides, hx⟩ := exists_of_yields hx
  obtain ⟨hreconnect, hx⟩ := Bool.and_eq_true_iff.1 hx
  obtain ⟨⟨begun, c₂⟩, w₂, begins, hx⟩ := exists_of_yields hx
  obtain ⟨hmaster, hx⟩ := Bool.and_eq_true_iff.1 hx
  obtain ⟨⟨b, c₃⟩, w₃, reconnects, -⟩ := exists_of_yields hx
  obtain rfl := Admission.eq_reconnect hreconnect
  obtain ⟨slot, hslot⟩ := Option.isSome_iff_exists.1 hmaster
  have h := reachable_stranded hy
  have others : Meanwhile lone ⟨c₁, w₁, []⟩ ⟨c₂, w₂, [⟨_, .done begun⟩]⟩ :=
    .head (.call _ (.execute .begin))
      ((Scene.joins_run (n := 1) [] begins).lift id fun _ _ h => h.1)
  have course := Course.of_reconnect (s := ⟨c, w, []⟩) decides others reconnects
  have hm := (h.visit (.prepare .ping) rfl decides).meanwhile others
  exact claim _ _ _ _ _ _ _ h course (Option.isNone_iff_eq_none.1 bare) .master slot hslot
    (hm.closed_mem_reconnect (r := .master) hslot)

end Lone

end Failover
