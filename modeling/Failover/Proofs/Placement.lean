import Failover.Proofs.Interleaving

/-!
# Hosts in slots

A slot holds a session to one of the hosts of the deployment, and where the topology alone says
what role a host has, that is the role of its slot.
-/

namespace Failover

open Act World

/-- The slots hold hosts of the deployment, each of them in the slot of its declared role. -/
structure Connection.Placed (d : Deployment) (c : Connection) : Prop where
  mem : ∀ r s, c.slot? r = some s → s.host ∈ d.hosts
  declared : ∀ r s q, c.slot? r = some s → d.config.topology.declared s.host = some q → q = r

/-- A sound connection whose slots hold the hosts that belong there. -/
structure Founded {σ : Type} (d : Deployment) (c : Connection) (w : World σ) : Prop
    extends Sound d c w where
  placed : c.Placed d

section Placed

variable {σ : Type} [Cluster σ] {d : Deployment} {c c' : Connection}

omit [Cluster σ] in
theorem Connection.Placed.of_slots (h : c.Placed d)
    (hc : ∀ r s, c'.slot? r = some s → c.slot? r = some s) : c'.Placed d where
  mem r s hs := h.mem r s (hc r s hs)
  declared r s q hs := h.declared r s q (hc r s hs)

omit [Cluster σ] in
theorem Connection.Placed.new (d : Deployment) (hasReplicas : Bool) :
    (Connection.new hasReplicas).Placed d := by
  have empty (r : Role) : (Connection.new hasReplicas).slot? r = none := by cases r <;> rfl
  constructor
  · intro r s hs
    exact (nomatch (empty r).symm.trans hs)
  · intro r s q hs
    exact (nomatch (empty r).symm.trans hs)

theorem Connection.Placed.fill (h : c.Placed d) {r : Role} {s : Slot} (hmem : s.host ∈ d.hosts)
    (hr : ∀ q, d.config.topology.declared s.host = some q → q = r) : (c.fill r s).Placed d := by
  refine ⟨?_, ?_⟩
  · intro q t ht
    rcases Connection.cases_slot_fill ht with ⟨rfl, rfl⟩ | ⟨-, ht⟩
    · exact hmem
    · exact h.mem q t ht
  · intro q t q' ht hq'
    rcases Connection.cases_slot_fill ht with ⟨rfl, rfl⟩ | ⟨-, ht⟩
    · exact hr q' hq'
    · exact h.declared q t q' ht hq'

omit [Cluster σ] in
theorem Connection.Placed.promote (h : c.Placed d) {s : Slot} (hrep : c.replica = some s)
    (hr : ∀ q, d.config.topology.declared s.host = some q → q = .master) :
    (c.promote s).Placed d := by
  constructor
  case mem =>
    intro r t ht
    obtain ⟨rfl, rfl⟩ := Connection.eq_of_slot_promote ht
    exact h.mem .replica t hrep
  case declared =>
    intro r t q ht hq
    obtain ⟨rfl, rfl⟩ := Connection.eq_of_slot_promote ht
    exact hr q hq

theorem Judged.declares {t : Topology} {limit : Nat} {h : Host} {n : SessionId} {v : Verdict}
    {w w' : World σ} (hv : Judged t limit h n w v w') {r q : Role} (hr : v = .role r)
    (hq : t.declared h = some q) : q = r := by
  cases hv with
  | declared r' known =>
    cases hr
    exact Option.some.inj (hq.symm.trans known)
  | probed hidden called shows => cases hq.symm.trans hidden

theorem trial_placed {h : Host} {e : Election} : Trial (σ := σ) d h e (fun _ _ => True)
    (fun _ v _ => ∀ r q, v = .role r → d.config.topology.declared h = some q → q = r)
    (fun _ => True) (fun _ r _ => ∀ q, d.config.topology.declared h = some q → q = r)
    fun _ => True where
  judges _ := meets_judged fun _ _ hv _ _ => hv.declares
  looksUp hj := meets_of_forall (fun _ _ => hj) fun _ => trivial
  hangsUp _ _ := meets_of_forall (fun _ _ => trivial) fun _ => trivial
  binds _ _ hj _ := meets_of_forall (fun _ _ q => hj _ q rfl) fun _ => trivial
  freshStill _ _ := trivial
  judgedStill hj _ := hj
  spentStill _ _ := trivial

theorem lasting_placed :
    Lasting d (fun _ => True) (fun c (_ : World σ) => c.Placed d) fun _ => True where
  tries hoffer _ ho hp := by
    refine (trial_placed.tryHost ho (meets_of_forall ?_ fun _ => trivial)).mono ?_ fun _ h => h
    · intro o _
      cases o <;> trivial
    · intro x w' h
      cases h with
      | unbound hc _ _ => rwa [hc]
      | bound n r _ hc _ hr =>
        rw [hc]
        exact hp.fill hoffer.mem hr
  rechecks hs hp := by
    refine meets_recheck_of hs (fun _ => hp) fun s h _ hrep _ hhost _ => ?_
    refine meets_judged fun v w' hv => ⟨?_, fun _ u _ => hp⟩
    intro hm u _
    apply hp.promote hrep
    intro q hq
    rw [← hhost] at hq
    exact hv.declares hm hq
  closes _ hp := meets_of_forall (fun _ _ => hp) fun _ => trivial
  still hp _ := hp
  fewer hp hc := hp.of_slots hc.slot
  works _ hp _ _ _ := hp
  remembers _ hp := hp.of_slots fun r s hs => by cases r <;> exact hs
  stays _ := trivial

theorem Reachable.founded {s : Scene σ} (h : Reachable d s) : Founded d s.connection s.world where
  toSound := h.atRest.settled.toSound
  placed := h.maintains lasting_placed (fun _ _ _ => .new d _) fun hp => hp

end Placed

end Failover
