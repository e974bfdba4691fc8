import Failover.Proofs.Chores

/-!
# What the sections that look for sessions are made of

They are put together from two kinds of stages: a host is tried, or something is done that tries
and blacklists none (`Stage`). What each of these keeps is kept by all that is made of them. Only a
recovery begins with something else, when it gives a slot up (`recover_cases`).
-/

namespace Failover

open Act World

variable {σ α β : Type}

/-- What the sections that look for sessions are made of. -/
inductive Stage [Cluster σ] (d : Deployment) : (α : Type) → Act σ α → Prop
  | tries (h : Host) (waiting : List Host) (e : Election) : Stage d _ (tryHost d h waiting e)
  | chore {α : Type} {x : Act σ α} (h : Chore d α x) : Stage d α x

/-- Made of stages. -/
abbrev Act.Staged [Cluster σ] (d : Deployment) (x : Act σ α) : Prop := MadeOf (Stage d) α x

section Staged

variable [Cluster σ] (d : Deployment)

theorem Act.Chores.staged {x : Act σ α} (h : x.Chores d) : x.Staged d :=
  h.refine fun _ _ hx => .kind (.chore hx)

theorem staged_log (level : LogLevel) (text : String) : (log level text : Act σ Unit).Staged d :=
  (chores_log d level text).staged

theorem staged_sweep : ∀ (waiting : List Host) (e : Election),
    (sweep d waiting e : Act σ _).Staged d
  | [], e => by
    unfold sweep
    exact .pure _
  | host :: waiting, e => by
    unfold sweep
    refine .bind (.kind (.tries host waiting e)) fun x => ?_
    obtain ⟨e', named⟩ := x
    dsimp only
    split_ifs
    · exact .bind (staged_log d _ _) fun _ => .pure _
    · exact .pure _
    · exact staged_sweep _ _
termination_by waiting => waiting.length
decreasing_by simp [length_bringForward]

theorem staged_passes (first : Bool) (n : Nat) (e : Election) :
    (passes d first n e : Act σ _).Staged d := by
  induction n generalizing first e with
  | zero => exact .pure _
  | succ n ih =>
    unfold passes
    dsimp only
    rw [← apply_ite (· >>= _)]
    refine .bind ?_ fun x => ?_
    · split
      · exact .pure _
      · exact (chores_recheckReplica d _ _).staged
    split
    · exact .pure _
    refine .bind ((inert_passOrder d _).chores d).staged fun waiting => ?_
    split
    · exact .pure _
    refine .bind (staged_sweep d _ _) fun y => ?_
    split
    · exact .pure _
    · exact ih _ _

theorem staged_elect (c : Connection) (g : Goal) : (elect d c g : Act σ _).Staged d := by
  unfold elect
  refine .bind (staged_log d _ _) fun _ => ?_
  split
  · exact .pure _
  split
  · exact .pure _
  refine .bind (staged_passes d _ _ _) fun x => ?_
  dsimp only
  split
  · exact .pure _
  · exact .bind (staged_log d _ _) fun _ => .pure _

theorem staged_electAndRoute (c : Connection) (g : Goal) :
    (electAndRoute d c g : Act σ _).Staged d := by
  unfold electAndRoute
  exact .bind (staged_elect d c g) fun _ => .pure _

theorem staged_electMaster (c : Connection) : (electMaster d c : Act σ _).Staged d := by
  unfold electMaster
  refine .bind (staged_electAndRoute d _ _) fun x => ?_
  split <;> exact .pure _

theorem staged_electRoles (c : Connection) : (electRoles d c : Act σ _).Staged d := by
  have rest (c' : Connection) :
      (if c'.masterDown then electMaster d c' else pure (.ok (), c') : Act σ _).Staged d := by
    split
    · exact staged_electMaster d c'
    · exact .pure _
  unfold electRoles
  split
  · rw [map_eq_pure_bind]
    exact .bind (.bind (staged_electAndRoute d _ _) fun _ => .pure _) rest
  · exact rest c

theorem staged_establish (c : Connection) : (establish d c : Act σ _).Staged d := by
  unfold establish
  refine .bind (staged_electRoles d c) fun x => ?_
  dsimp only
  split
  · exact .bind (staged_log d _ _) fun _ => .pure _
  · exact .pure _

theorem staged_reconnect (c : Connection) : (reconnect d c : Act σ _).Staged d := by
  unfold reconnect
  split
  · exact .pure _
  · exact .bind (chores_closeSessions d c).staged fun _ => staged_electRoles d _

theorem staged_seekMaster (c : Connection) : (seekMaster d c : Act σ _).Staged d := by
  unfold seekMaster
  split
  · exact .pure _
  refine .bind (staged_electAndRoute d _ _) fun x => ?_
  split
  · exact .pure _
  · exact .bind ((inert_ask _).chores d).staged fun _ => .pure _

theorem staged_tryMaster (c : Connection) : (tryMaster d c : Act σ _).Staged d := by
  unfold tryMaster
  refine .bind (staged_seekMaster d c) fun x => ?_
  dsimp only
  split
  · exact .bind (staged_log d _ _) fun _ => .pure _
  · exact .pure _

theorem staged_switchMode (readOnly : Bool) (c : Connection) :
    (switchMode d readOnly c : Act σ _).Staged d := by
  unfold switchMode
  split
  · exact .pure _
  refine .bind ((inert_isHeldBack readOnly c).chores d).staged fun held => ?_
  split
  · exact .pure _
  unfold enterMode
  split
  · split
    · exact .pure _
    split
    · exact .pure _
    refine .bind (staged_electAndRoute d _ _) fun x => ?_
    dsimp only
    split
    · exact .bind (staged_log d _ _) fun _ => .pure _
    · exact .pure _
  · split
    · exact .pure _
    · exact staged_electMaster d _

/-- Gives up what is in a slot before stages follow. -/
def Act.Vacates (c : Connection) (x : Act σ (Recovery × Connection)) : Prop :=
  ∃ (r : Role) (name searched : String) (later : Nat → Act σ (Recovery × Connection)),
    (∀ now, (later now).Staged d) ∧ x =
      (do
        let now ← ask (·.now)
        abandon (c.slot? r) name searched
        later now)

theorem vacates_recoverMaster (inTransaction : Bool) (c : Connection) :
    (recoverMaster d inTransaction c : Act σ _).Vacates d c := by
  refine ⟨.master, _, _, _, ?_, rfl⟩
  intro now
  refine .bind (chores_recheckReplica d _ _).staged fun x => ?_
  dsimp only
  split
  · exact .pure _
  refine .bind (staged_electAndRoute d _ _) fun y => ?_
  split
  · exact .pure _
  split
  · exact .bind (staged_log d _ _) fun _ => .pure _
  · exact .pure _

theorem vacates_recoverReplica (c : Connection) :
    (recoverReplica d c : Act σ _).Vacates d c := by
  refine ⟨.replica, _, _, fun _ => _, ?_, rfl⟩
  intro now
  dsimp only
  split
  · refine .bind (staged_electAndRoute d _ _) fun y => ?_
    split
    · exact .pure _
    · exact .bind (staged_log d _ _) fun _ => .pure _
  · refine .bind (staged_electAndRoute d _ _) fun y => ?_
    split <;> exact .pure _

/-- A recovery that gives up no slot is made of stages alone. -/
theorem recover_cases (failed : SessionId) (inTransaction : Bool) (c : Connection) :
    (recover d failed inTransaction c : Act σ _).Staged d ∨
      (recover d failed inTransaction c : Act σ _).Vacates d c := by
  unfold recover
  cases c.closed with
  | true => exact .inl (.pure _)
  | false =>
    rcases c.roleOf failed with _ | _ | _ <;> simp only [Bool.false_eq_true, if_false]
    · cases c.currentSlot.isSome with
      | true => exact .inl (.bind (staged_log d _ _) fun _ => .pure _)
      | false => exact .inr (vacates_recoverMaster d inTransaction c)
    · exact .inr (vacates_recoverMaster d inTransaction c)
    · exact .inr (vacates_recoverReplica d c)

end Staged

end Failover
