import Failover.Proofs.Course
import Failover.Proofs.Finding
import Mathlib.Tactic.Set

/-!
# Noticing a promotion

A live replica that has become the master is left out of the hosts that an election tries, so it is
noticed only by asking it again. After the loss of a master that is done first of all; an election
asks before its second pass, if there is a host to try in the first one; and the single pass of a
retry asks nobody. Unless it is asked, such an election comes to a master only by a new session
(`promotion_noticed_iff`).
-/

namespace Failover

open Act World

variable {σ : Type}

/-- The elections for a master alone. -/
inductive MasterElection
  /-- Before a write on a replica that stands in. -/
  | write
  /-- Before a read on one, now and then. -/
  | read
  /-- After the first pass for both roles. -/
  | passes
  /-- On leaving read-only mode. -/
  | mode
  /-- After the loss of the master. -/
  | failover (inTransaction : Bool)

namespace MasterElection

def run [Cluster σ] (d : Deployment) (c : Connection) : MasterElection → Act σ Connection
  | write => Prod.snd <$> seekMaster d c
  | read => Prod.snd <$> tryMaster d c
  | passes => Prod.snd <$> electMaster d c
  | mode => Prod.snd <$> enterMode d { c with readOnly := false }
  | failover inTransaction => Prod.snd <$> recoverMaster d inTransaction c

/-- Whether the live replica is asked again before the election gives up. -/
def AsksAgain (d : Deployment) (c : Connection) : MasterElection → Prop
  | write | read => False
  | passes | mode => Asked d c d.passes
  | failover _ => True

end MasterElection

/-- Since `u` the session was asked for its role, and did not show in time that it is a master's. -/
def Denied (limit : Nat) (n : SessionId) (u w : World σ) : Prop :=
  ∃ reply, .called n (.query roleProbe) reply ∈ u.since w ∧ reply.shownRole limit ≠ some .master

/-- An election for a master alone that began in `u` with a live replica, before it is asked. -/
structure Lone (slot : Slot) (u : World σ) (c : Connection) (g : Goal) (w : World σ) : Prop where
  masterOnly : g.wantsReplica = false
  plain : g.replicaSuffices = false
  vacant : g.wantsMaster = true → c.master = none
  fresh : g.wantsMaster = false → ∃ t, c.master = some t ∧ u.opened < t.session
  replica : c.replica = some slot
  opened : u.opened ≤ w.opened

/-- What an election comes to that asks the live replica or does not. -/
structure Sighted (d : Deployment) (slot : Slot) (u : World σ) (asks : Prop) (c : Connection)
    (w : World σ) : Prop where
  quiet : u.Quiet w
  asked : asks → Denied d.connectTimeout slot.session u w ∨ c.master.isSome = true
  unasked : ¬asks → ∀ t, c.master = some t → u.opened < t.session

section Since

variable {u w w' : World σ} {limit : Nat} {n : SessionId}

theorem World.mem_since {new : List Entry} (h : w.journal = new ++ u.journal) {e : Event} :
    e ∈ u.since w ↔ ∃ x ∈ new, x.event = e := by
  rw [since_eq h, List.mem_reverse, List.mem_map]

theorem Denied.quiet (h : Denied limit n u w) (hu : u.Quiet w) (hw : w.Quiet w') :
    Denied limit n u w' := by
  obtain ⟨reply, hmem, hr⟩ := h
  obtain ⟨new, hj, -⟩ := hu.adds
  obtain ⟨later, hj', -⟩ := hw.adds
  obtain ⟨x, hx, he⟩ := (mem_since hj).1 hmem
  have hall : w'.journal = (later ++ new) ++ u.journal := by rw [hj', hj, List.append_assoc]
  exact ⟨reply, (mem_since hall).2 ⟨x, List.mem_append_right _ hx, he⟩, hr⟩

theorem kept_denied {d : Deployment} :
    Kept d fun _ _ (w : World σ) => Denied limit n u w ∧ u.Quiet w where
  attempt _ h ha := ⟨h.1.quiet h.2 ha.quiet, h.2.trans ha.quiet⟩
  beside h hw := ⟨h.1.quiet h.2 hw.quiet, h.2.trans hw.quiet⟩

theorem keptByRecheck_denied {d : Deployment} :
    KeptByRecheck d fun _ _ (w : World σ) => Denied limit n u w ∧ u.Quiet w :=
  fun _ h hr => ⟨h.1.quiet h.2 hr.quiet, h.2.trans hr.quiet⟩

end Since

section Lone

variable {d : Deployment} {slot : Slot} {u w w' : World σ} {c c' : Connection} {g : Goal}
  {asks : Prop}

theorem Sighted.of_master (h : Sighted d slot u asks c w) (hc : c'.master = c.master)
    (hw : w.Quiet w') : Sighted d slot u asks c' w' := by
  constructor
  case quiet => exact h.quiet.trans hw
  case asked =>
    intro ha
    rcases h.asked ha with hd | hm
    · exact .inl (hd.quiet h.quiet hw)
    · rw [hc]
      exact .inr hm
  case unasked =>
    intro ha t ht
    rw [hc] at ht
    exact h.unasked ha t ht

theorem Lone.newer (h : Lone slot u c g w) (t : Slot) (ht : c.master = some t) :
    u.opened < t.session := by
  cases hw : g.wantsMaster with
  | true =>
    rw [h.vacant hw] at ht
    cases ht
  | false =>
    obtain ⟨t', ht', hlt⟩ := h.fresh hw
    rwa [Option.some.inj (ht.symm.trans ht')]

theorem Lone.wants (h : Lone slot u c g w) : g.isEnough = !g.wantsMaster :=
  Goal.isEnough_eq h.masterOnly h.plain

theorem Lone.forMaster (h : Lone slot u c g w) : ForMaster c g := by
  refine ⟨h.masterOnly, h.plain, ?_⟩
  intro hw
  obtain ⟨t, ht, -⟩ := h.fresh hw
  rw [ht]
  rfl

theorem kept_lone : Kept d (Lone slot u) where
  attempt := by
    intro e e' w w' _ h ha
    cases ha with
    | unbound hc hg ho =>
      rw [hc, hg]
      exact ⟨h.masterOnly, h.plain, h.vacant, h.fresh, h.replica, h.opened.trans ho.opened⟩
    | bound r s hw hf hc hg _ ho =>
      rw [hc, hg]
      cases r with
      | replica => exact absurd (h.masterOnly.symm.trans hw) Bool.false_ne_true
      | master =>
        refine ⟨h.masterOnly, h.plain, nofun, ?_, ?_,
          h.opened.trans ho.opened⟩
        · intro _
          exact ⟨s, e.connection.slot_fill_self s .master, h.opened.trans_lt hf⟩
        · exact (e.connection.slot_fill_of_ne (q := .replica) s (by decide)).trans h.replica
  beside h hw :=
    ⟨h.masterOnly, h.plain, h.vacant, h.fresh, h.replica, h.opened.trans hw.opened⟩

end Lone

section Passes

variable [Cluster σ] {d : Deployment} {slot : Slot} {u w : World σ} {c : Connection} {g : Goal}
  (aurora : d.config.topology = .aurora)

include aurora

theorem meets_recheck_lone (hs : Sound d c w) (hu : u.Quiet w) (hm : c.master = none)
    (hrep : c.replica = some slot) : (recheckReplica d c g).Meets w (fun x w' =>
      Denied d.connectTimeout slot.session u w' ∨ x = (c.promote slot, g.masterFound))
      fun _ => True := by
  have hdown : c.masterDown = true := by
    rw [hs.coherent.masterDown, hm]
    rfl
  refine meets_recheck_of hs ?_ fun s h _ hs' _ _ _ => ?_
  · rintro (hup | hnone)
    · cases hup.symm.trans hdown
    · cases hnone.symm.trans hrep
  obtain rfl : s = slot := Option.some.inj (hs'.symm.trans hrep)
  refine meets_judged fun v w₁ hv => ⟨fun _ _ _ => .inr rfl, ?_⟩
  intro hno w₂ hw₂
  left
  have hu₁ := hu.trans hv.beside.quiet
  have hjudged : w₁.Quiet (w₁.noting (.judged s.session v)) := ⟨adds_cons rfl rfl, keeps_of_eq rfl⟩
  refine Denied.quiet ?_ hu₁ (hjudged.trans hw₂.beside.quiet)
  cases hv with
  | declared r known =>
    rw [aurora] at known
    cases known
  | @probed _ reply servers now _ _ shows =>
    obtain ⟨new, hj, -⟩ := hu.adds
    have hcalled : (w.noting (.called s.session (.query roleProbe) reply)).journal =
        (⟨w.now, .called s.session (.query roleProbe) reply⟩ :: new) ++ u.journal := by
      rw [List.cons_append, ← hj]
      rfl
    exact ⟨reply, (mem_since hcalled).2 ⟨_, List.mem_cons_self, rfl⟩, fun h => hno ((shows _).2 h)⟩

/-- The passes after the first begin with asking the live replica. -/
theorem meets_passes_again {n : Nat} {e : Election} (ho : Ongoing d u e.connection e.goal w)
    (hm : e.connection.master = none) (hrep : e.connection.replica = some slot)
    (honly : e.goal.wantsReplica = false) : (passes d false (n + 1) e).Meets w (fun x w' =>
      u.Quiet w' ∧ (Denied d.connectTimeout slot.session u w' ∨
        x.1.connection.master.isSome = true)) fun _ => True := by
  have hkept : Upheld d (fun _ _ w => Denied d.connectTimeout slot.session u w ∧ u.Quiet w)
      fun _ => True := kept_denied.upheld
  refine meets_pass (B := fun e' w' => Ongoing d u e'.connection e'.goal w' ∧
    (Denied d.connectTimeout slot.session u w' ∨
      e'.connection.master.isSome = true ∧ e'.goal.isEnough = true))
    ((hkept.sweeping (u := u)).mono fun _ _ => trivial) ?begins ?enough ?alone ?starts ?ends ?next
  case begins =>
    have hasked := (meets_recheck_lone (g := e.goal) aurora ho.sound ho.quiet hm hrep).and
      (meets_recheckReplica ho.sound)
    refine hasked.mono ?_ fun _ _ => trivial
    rintro ⟨c', g'⟩ w' ⟨hseen, hr⟩
    refine ⟨ho.recheck hr, hseen.imp_right fun h => ?_⟩
    cases h
    refine ⟨congrArg Option.isSome (e.connection.slot_promote_master slot), ?_⟩
    simp [Goal.isEnough, Goal.isReached, Goal.masterFound, honly]
  case enough =>
    rintro e' w' ⟨ho', hseen⟩ -
    exact ⟨rfl, ho'.quiet, hseen.imp_right And.left⟩
  case alone =>
    rintro e' w' w'' ⟨ho', hdenied | ⟨-, henough⟩⟩ hno hw -
    · exact ⟨(ho'.beside hw.beside).quiet, .inl (hdenied.quiet ho'.quiet hw.beside.quiet)⟩
    · cases hno.symm.trans henough
  case starts =>
    rintro hs e' w' w'' ⟨ho', hdenied | ⟨-, henough⟩⟩ hno hw hp -
    · have ho'' := ho'.beside hw.beside
      exact ⟨Deployment.waits_of_perm hp, ho'', hdenied.quiet ho'.quiet hw.beside.quiet, ho''.quiet⟩
    · cases hno.symm.trans henough
  case ends =>
    rintro left e' w' ⟨-, -, hd, hquiet⟩ -
    exact ⟨hquiet, .inl hd⟩
  case next =>
    rintro e' w' ⟨-, ho', hd⟩ hno
    have standing : Standing d (fun _ _ w => Denied d.connectTimeout slot.session u w ∧ u.Quiet w) u
        (e', false) w' := by
      refine ⟨ho', hd, ?_, fun _ => hno⟩
      intro hf
      cases hf
    have hpasses := meets_passes hkept n false e' w' (fun _ => keptByRecheck_denied.upheld) standing
    refine hpasses.mono ?_ fun _ _ => trivial
    intro x w'' h
    obtain ⟨hdenied, hquiet⟩ := h.kept
    exact ⟨hquiet, .inl hdenied⟩

/-- The live replica is asked after the first pass, unless that was the only one or there was no
host to try in it. -/
theorem meets_passes_lone {n : Nat} {e : Election} (ho : Ongoing d u e.connection e.goal w)
    (hl : Lone slot u e.connection e.goal w) (hwant : e.goal.wantsMaster = true) :
    (passes d true (n + 1) e).Meets w (fun x w' =>
      Sighted d slot u (Asked d e.connection (n + 1)) x.1.connection w') fun _ => True := by
  have hkept : Upheld d (Lone slot u) fun _ => True := kept_lone.upheld
  refine meets_pass (B := fun e' w' => e = e' ∧ w = w')
    (((hkept.sweeping (u := u)).mono fun _ _ => trivial).given
      (∃ h ∈ d.hosts, e.connection.isBound h = false))
    ?begins ?enough ?alone ?starts ?ends ?next
  case begins => exact meets_pure ⟨rfl, rfl⟩
  case enough =>
    rintro _ _ ⟨rfl, rfl⟩ henough
    rw [hl.wants, hwant] at henough
    cases henough
  case alone =>
    rintro _ _ w'' ⟨rfl, rfl⟩ - hw hbound
    refine ⟨(ho.beside hw.beside).quiet, ?_, fun _ => hl.newer⟩
    rintro ⟨-, x, hx, hfree⟩
    cases hfree.symm.trans (hbound x hx)
  case starts =>
    rintro hs _ _ w'' ⟨rfl, rfl⟩ - hw hp hne
    obtain ⟨x, hx⟩ := List.exists_mem_of_ne_nil hs hne
    have hfree : x ∈ d.hosts ∧ e.connection.isBound x = false := by
      simpa using List.mem_filter.1 (hp.mem_iff.1 hx)
    exact ⟨⟨x, hfree⟩, Deployment.waits_of_perm hp, ho.beside hw.beside, hkept.still hl hw⟩
  case ends =>
    rintro left e' w' ⟨-, -, ho', hl'⟩ hover
    have hm : e'.connection.master.isSome = true := hl'.forMaster.isSome_master ho'.sound hover
    exact ⟨ho'.quiet, fun _ => .inr hm, fun _ => hl'.newer⟩
  case next =>
    rintro e' w' ⟨hfree, -, ho', hl'⟩ hno
    cases n with
    | zero =>
      unfold passes
      exact meets_pure ⟨ho'.quiet, fun ha => absurd ha.1 (by decide), fun _ => hl'.newer⟩
    | succ n =>
      have hw : e'.goal.wantsMaster = true := by simpa [hl'.wants] using hno
      refine (meets_passes_again aurora ho' (hl'.vacant hw) hl'.replica hl'.masterOnly).mono
        ?_ fun _ _ => trivial
      rintro x w'' ⟨hquiet, hseen⟩
      exact {
        quiet := hquiet
        asked := fun _ => hseen
        unasked := fun hna => absurd ⟨by omega, hfree⟩ hna }

theorem meets_electAndRoute_lone (hs : Sound d c w) (hopen : c.closed = false)
    (hm : c.master = none) (hrep : c.replica = some slot) (hwant : g.wantsMaster = true)
    (honly : g.wantsReplica = false) (hplain : g.replicaSuffices = false) :
    (electAndRoute d c g).Meets w (fun x w' => Sighted d slot w (Asked d c (g.passesIn d)) x.2 w')
      fun _ => True := by
  unfold electAndRoute
  refine meets_bind (m := fun x w' => Sighted d slot w (Asked d c (g.passesIn d)) x.2.1 w')
    (meets_elect_of ?_ ?_ fun _ w₁ h₁ => ?_) ?_
  · intro hc
    cases hopen.symm.trans hc
  · intro hup
    rw [hs.coherent.masterDown, hm] at hup
    cases hup
  · have ho : Ongoing d w c g w₁ := by
      refine ⟨hs.beside h₁.beside, hopen, ?_, h₁.beside.quiet⟩
      intro h
      rw [honly] at h
      cases h
    have hl : Lone slot w c g w₁ := by
      refine ⟨honly, hplain, fun _ => hm, ?_, hrep, h₁.beside.opened⟩
      intro h
      rw [hwant] at h
      cases h
    obtain ⟨n, hn⟩ : ∃ n, g.passesIn d = n + 1 := by
      unfold Goal.passesIn Deployment.passes
      exact ⟨_, (Nat.sub_add_cancel (by split_ifs <;> omega)).symm⟩
    have hpasses := meets_passes_lone aurora (e := ⟨c, g, none⟩) (n := n) ho hl hwant
    rw [← hn] at hpasses
    refine hpasses.mono ?_ fun _ h => h
    intro x w₂ h
    exact ⟨fun _ => h, fun _ _ _ h₂ => h.of_master rfl h₂.beside.quiet⟩
  · rintro ⟨outcome, c', g'⟩ w' h
    exact meets_pure (h.of_master (c'.slot_route .master) (Quiet.refl w'))

end Passes

section Elections

variable [Cluster σ] {d : Deployment} {slot : Slot} {c c' : Connection} {w w' : World σ}
  (aurora : d.config.topology = .aurora)

include aurora

theorem meets_seekMaster_lone (hs : Settled d c w) (hopen : c.closed = false)
    (hm : c.master = none) (hrep : c.replica = some slot) : (seekMaster d c).Meets w
      (fun x w' => Sighted d slot w False x.2 w') fun _ => True := by
  refine meets_seekMaster_of ?_ ?_
  · intro hup
    rw [hs.coherent.masterDown, hm] at hup
    cases hup
  · intro _
    have hs' : Settled d { c with fallbackReads := 0 } w := hs.of_shape rfl
    refine (meets_electAndRoute_lone aurora hs'.toSound hopen hm hrep rfl rfl rfl).mono
      ?_ fun _ h => h
    intro x w' h answer failure
    have hone : ¬Asked d { c with fallbackReads := 0 } 1 := fun ha => Nat.lt_irrefl 1 ha.1
    exact {
      quiet := h.quiet
      asked := False.elim
      unasked := fun _ => h.unasked hone }

theorem meets_electMaster_lone (hs : Sound d c w) (hopen : c.closed = false)
    (hm : c.master = none) (hrep : c.replica = some slot) : (electMaster d c).Meets w
      (fun x w' => Sighted d slot w (Asked d c d.passes) x.2 w') fun _ => True := by
  unfold electMaster
  refine meets_bind (meets_electAndRoute_lone aurora hs hopen hm hrep rfl rfl rfl) ?_
  rintro ⟨_ | e, c'⟩ w' h <;> exact meets_pure h

theorem meets_recoverMaster_lone (inTransaction : Bool) (hs : Settled d c w)
    (hrep : c.replica = some slot) : (recoverMaster d inTransaction c).Meets w
      (fun x w' => Sighted d slot w True x.2 w') fun _ => True := by
  have gone : (abandon c.master "Master" "master").Meets w
      (fun _ w' => w.Onward (sessionIn c.master) w' ∧ w.Quiet w') fun _ => True :=
    ((upkeep_quiet (d := d) w).abandon (c := c) hs.orderly (Quiet.refl w)).mono
      (fun _ _ h => ⟨h.1, h.2.2⟩) fun _ _ => trivial
  refine meets_recoverMaster_of (B := fun now x w₂ => w.Quiet w₂ ∧
      (Denied d.connectTimeout slot.session w w₂ ∨
        x = ((c.masterLost now).promote slot, Goal.masterOnly.masterFound)))
    hs.toSound gone (fun now w₁ hq₁ hs₁ => ?asks) ?promoted fun now w₂ hb hs₂ => ?elects
  case asks =>
    refine ((meets_recheck_lone aurora hs₁ hq₁ rfl hrep).and (meets_recheckReplica hs₁)).mono
      ?_ fun _ _ => trivial
    rintro x w₂ ⟨hseen, hr⟩
    exact ⟨hq₁.trans hr.quiet, hseen⟩
  case promoted =>
    rintro now s w₂ ⟨hq₂, -⟩ -
    refine ⟨hq₂, fun _ => .inr ?_, fun h => absurd trivial h⟩
    exact congrArg Option.isSome (Connection.slot_promote_master _ s)
  case elects =>
    have hdenied : Denied d.connectTimeout slot.session w w₂ := by
      rcases hb.2 with hd | h
      · exact hd
      · cases congrArg (fun x => x.2.wantsMaster) h
    have helected : (electAndRoute d (c.masterLost now) .masterOnly).Meets w₂ _ w₂.Quiet :=
      meets_electAndRoute kept_denied (.inr keptByRecheck_denied) hs₂ ⟨hdenied, hb.1⟩ rfl nofun
    refine helected.mono ?_ fun _ _ => trivial
    rintro ⟨outcome, _⟩ w₃ ⟨c', g', rfl, h₃⟩
    have hsighted : Sighted d slot w True c'.route w₃ :=
      ⟨h₃.kept.2, fun _ => .inl h₃.kept.1, fun h => absurd trivial h⟩
    constructor
    · intro _
      exact hsighted
    · intro e _
      exact ⟨hsighted, fun _ w₄ h₄ => hsighted.of_master rfl h₄.beside.quiet⟩

theorem meets_enterMode_lone (hs : Settled d c w) (hopen : c.closed = false)
    (hm : c.master = none) (hrep : c.replica = some slot) :
    (enterMode d { c with readOnly := false }).Meets w
      (fun x w' => Sighted d slot w (Asked d c d.passes) x.2 w') fun _ => True := by
  have htarget : c.target = ({ c with readOnly := false } : Connection).target := by
    simp [Connection.target, hm]
  have hs' : Settled d { c with readOnly := false } w := hs.toSound.aimed (hs.rest.trans htarget)
  have havail : ({ c with readOnly := false } : Connection).masterAvailable = false := by
    rw [hs'.coherent.masterAvailable, hm]
    rfl
  unfold enterMode
  rw [if_neg Bool.false_ne_true, havail, if_neg Bool.false_ne_true]
  exact meets_electMaster_lone aurora hs'.toSound hopen hm hrep

theorem MasterElection.meets_run {e : MasterElection} (hs : Settled d c w)
    (hopen : c.closed = false)
    (hm : (∃ inTransaction, e = .failover inTransaction) ∨ c.master = none)
    (hrep : c.replica = some slot) :
    (e.run d c).Meets w (Sighted d slot w (e.AsksAgain d c)) fun _ => True := by
  cases e with
  | write =>
    have hm := hm.resolve_left nofun
    exact meets_map (meets_seekMaster_lone aurora hs hopen hm hrep)
  | read =>
    have hm := hm.resolve_left nofun
    refine meets_map (meets_tryMaster_of ((meets_seekMaster_lone aurora hs hopen hm hrep).mono
      ?_ fun _ h => h))
    intro x w' h w'' hw
    exact h.of_master rfl hw.beside.quiet
  | passes =>
    have hm := hm.resolve_left nofun
    exact meets_map (meets_electMaster_lone aurora hs.toSound hopen hm hrep)
  | mode =>
    have hm := hm.resolve_left nofun
    exact meets_map (meets_enterMode_lone aurora hs hopen hm hrep)
  | failover inTransaction =>
    exact meets_map (meets_recoverMaster_lone aurora inTransaction hs hrep)

end Elections

/-- Whether the live replica's promotion is noticed. Every time it was asked for its role it showed
that it is the master. -/
theorem promotion_noticed_iff [Cluster σ] {d : Deployment} {slot : Slot} {c c' : Connection}
    {w w' : World σ} {e : MasterElection} (aurora : d.config.topology = .aurora)
    (settled : Settled d c w) (isOpen : c.closed = false)
    (missing : (∃ inTransaction, e = .failover inTransaction) ∨ c.master = none)
    (live : c.replica = some slot) (ended : e.run d c w = (some c', w'))
    (shows : ∀ reply, .called slot.session (.query roleProbe) reply ∈ w.since w' →
      reply.shownRole d.connectTimeout = some .master) :
    c'.master.isSome = true ↔
      e.AsksAgain d c ∨ ∃ t, c'.master = some t ∧ w.opened < t.session := by
  have sighted : Sighted d slot w (e.AsksAgain d c) c' w' :=
    (MasterElection.meets_run aurora settled isOpen missing live).value ended
  have undenied : ¬Denied d.connectTimeout slot.session w w' :=
    fun ⟨reply, hmem, hr⟩ => hr (shows reply hmem)
  refine ⟨?_, ?_⟩
  · intro hm
    by_cases ha : e.AsksAgain d c
    · exact .inl ha
    · obtain ⟨t, ht⟩ := Option.isSome_iff_exists.1 hm
      exact .inr ⟨t, ht, sighted.unasked ha t ht⟩
  · rintro (ha | ⟨t, ht, -⟩)
    · exact (sighted.asked ha).resolve_left undenied
    · rw [ht]
      rfl

section Cloud

/-! ## A replica promoted behind a stand-in's back -/

def cloud : Deployment where
  config :=
    { topology := .aurora
      hosts := ["db1", "db2"]
      failover := { retriesAllDown := 3 } }
  hosts := [⟨⟨"db1", 3306⟩, none⟩, ⟨⟨"db2", 3306⟩, none⟩]

/-- The first host is the master, and the second one a replica. -/
def ordered : Script where
  hosts := [("db2:3306",
    { ScriptedHost.plain with probe := [ScriptedHost.variableAnswer (some "ON")] })]

/-- The first host is gone, and the second one is the master. -/
def succeeded : Script where
  hosts := [("db1:3306", { ScriptedHost.plain with reachable := false })]

theorem isSteady_succeeded : succeeded.IsSteady := by
  refine Script.isSteady_of_forall fun x hx => ?_
  rw [List.mem_singleton.1 hx]
  exact ⟨rfl, rfl, rfl, le_rfl, le_rfl⟩

/-- The master is lost, and the replica that stands in for it becomes the master after that. -/
def succession : Act Script Connection := do
  let (_, c) ← establish cloud (.new true)
  change fun w =>
    { w with
      servers := w.servers.setHost "db1:3306" { ScriptedHost.plain with reachable := false } }
  let (_, c) ← (execute cloud (.query "SELECT 1")).run c
  change fun w => { w with servers := { w.servers with hosts := succeeded.hosts } }
  return c

theorem reachable_succession {c : Connection} {w : World Script}
    (h : succession { servers := ordered } = (some c, w)) :
    (∃ tasks, Reachable cloud ⟨c, w, tasks⟩) ∧ w.servers.hosts = succeeded.hosts := by
  obtain ⟨⟨b₁, c₁⟩, w₁, h₁, h⟩ := bind_eq_some.1 h
  obtain ⟨_, w₂, h₂, h⟩ := bind_eq_some.1 h
  obtain ⟨⟨b₃, c₃⟩, w₃, h₃, h⟩ := bind_eq_some.1 h
  obtain ⟨_, w₄, h₄, h⟩ := bind_eq_some.1 h
  cases h
  cases h₂
  cases h₄
  have r₁ : Reachable cloud ⟨c₁, w₁, [⟨_, .done b₁⟩]⟩ := by
    refine (Reachable.start (d := cloud) ordered 0 {}).alone .establish rfl ?_
    rw [Job.run_atomic]
    exact h₁
  have r₂ := r₁.step (.drift _ (w₁.servers.setHost "db1:3306"
    { ScriptedHost.plain with reachable := false }) w₁.now w₁.blacklist)
  have r₃ := r₂.alone (.execute (.query "SELECT 1")) rfl h₃
  exact ⟨⟨_, r₃.step (.drift _ _ w₃.now w₃.blacklist)⟩, rfl⟩

/-- An event that is not a session's showing in time that it is no master's. -/
def Event.affirms (limit : Nat) (n : SessionId) : Event → Bool
  | .called m r reply =>
    !(m = n && r = .query roleProbe) || reply.shownRole limit = some .master
  | _ => true

/-- The replica leads to the second host, which another host has to be tried besides. The passes
for the master end with that, and the search before a write ends with none. -/
def isPassedOver (c : Connection) (w : World Script) : Bool :=
  !c.closed && c.master.isNone && c.replica.any fun slot =>
    slot.host = ⟨⟨"db2", 3306⟩, none⟩ &&
    (w.servers.session? slot.session).any (fun x => x.host = slot.host.text && !x.closed) &&
    cloud.hosts.any (!c.isBound ·) &&
    (MasterElection.passes.run cloud c).yields w (fun _ w' =>
      (w.since w').all (·.affirms cloud.connectTimeout slot.session)) &&
    (MasterElection.write.run cloud c).yields w fun c' _ => c'.master.isNone

/-- What the succession comes to. -/
structure PassedOver (s : Scene Script) (slot : Slot) : Prop where
  reachable : Reachable cloud s
  isOpen : s.connection.closed = false
  missing : s.connection.master = none
  live : s.connection.replica = some slot
  leads : succeeded.regime.Leads s.connection s.world
  role : succeeded.regime.role .aurora slot.host = some .master
  others : Asked cloud s.connection cloud.passes
  passes : (MasterElection.passes.run cloud s.connection).yields s.world (fun _ w' =>
    (s.world.since w').all (·.affirms cloud.connectTimeout slot.session)) = true
  write : (MasterElection.write.run cloud s.connection).yields s.world
    (fun c' _ => c'.master.isNone) = true

theorem exists_passedOver : ∃ s slot, PassedOver s slot := by
  have hx : succession.yields { servers := ordered } isPassedOver = true := by
    decide +kernel
  obtain ⟨c, w, hy, hx⟩ := exists_of_yields hx
  obtain ⟨⟨tasks, reachable⟩, hhosts⟩ := reachable_succession hy
  simp only [isPassedOver, Bool.and_eq_true, Bool.not_eq_true', Option.any_eq_true,
    Option.isNone_iff_eq_none, decide_eq_true_eq, List.any_eq_true] at hx
  obtain ⟨⟨isOpen, missing⟩, slot, live, ⟨⟨⟨hhost, x, hx, hleads⟩, hfree⟩, passes⟩, write⟩ := hx
  have leads : succeeded.regime.Leads c w := by
    refine ⟨fun key => by unfold Script.host; rw [hhosts], ?_⟩
    intro r t ht
    cases r with
    | master => exact nomatch missing.symm.trans ht
    | replica =>
      obtain rfl : t = slot := Option.some.inj (ht.symm.trans live)
      exact ⟨x, hx, hleads⟩
  have role : succeeded.regime.role .aurora slot.host = some .master := by
    rw [hhost]
    decide +kernel
  exact ⟨⟨c, w, tasks⟩, slot, reachable, isOpen, missing, live, leads, role, ⟨by decide, hfree⟩,
    passes, write⟩

/-- The passes for the master ask the replica again. -/
theorem promotion_noticed_by_passes : ∃ (s : Scene Script) (slot : Slot) (c' : Connection)
    (w' : World Script), Reachable cloud s ∧ s.connection.master = none ∧
      s.connection.replica = some slot ∧
      MasterElection.passes.run cloud s.connection s.world = (some c', w') ∧
      c'.master.isSome = true := by
  obtain ⟨s, slot, h⟩ := exists_passedOver
  obtain ⟨c', w', ended, hshows⟩ := exists_of_yields h.passes
  refine ⟨s, slot, c', w', h.reachable, h.missing, h.live, ended, ?_⟩
  refine (promotion_noticed_iff rfl h.reachable.atRest.settled h.isOpen (.inr h.missing) h.live
    ended fun reply hmem => ?_).2 (.inl h.others)
  simpa [Event.affirms] using List.all_eq_true.1 hshows _ hmem

/-- The search before a write asks nobody: the write is refused, though it would go to a master. -/
theorem promotion_missed_by_write :
    ¬∀ (K : Regime Script) (d : Deployment) (s : Scene Script) (slot : Slot) (e : MasterElection)
      (c' : Connection) (w' : World Script), K.Steady d.connectTimeout →
        d.config.topology = .aurora → Reachable d s → s.connection.closed = false →
        s.connection.master = none → s.connection.replica = some slot →
        K.Leads s.connection s.world → K.role .aurora slot.host = some .master →
        e.run d s.connection s.world = (some c', w') → c'.master.isSome = true := by
  intro claim
  obtain ⟨s, slot, h⟩ := exists_passedOver
  obtain ⟨c', w', ended, hnone⟩ := exists_of_yields h.write
  have hsome := claim _ cloud s slot .write c' w'
    (Script.steady_regime isSteady_succeeded cloud.connectTimeout) rfl h.reachable h.isOpen
    h.missing h.live h.leads h.role ended
  rw [Option.isNone_iff_eq_none.1 hnone] at hsome
  cases hsome

end Cloud

end Failover
