import Failover.World
import Mathlib.Tactic.SplitIfs

/-!
# What an action comes to

`Meets` says what holds when an action comes to a value, and what holds of the world in which it
stays unanswered instead. A sequence of actions meets what its parts meet in a row (`meets_bind`).
`Always` is the same for what relates the world before to the world after, whichever way the
action ends; a relation that is kept by every part and composes is kept by the whole.
-/

namespace Failover.Act

variable {σ α β : Type}

/-- From `w` the action comes to a value for which `post` holds, or stays unanswered in a world
for which `stuck` holds. -/
def Meets (x : Act σ α) (w : World σ) (post : α → World σ → Prop) (stuck : World σ → Prop) : Prop :=
  match x w with
  | (some a, w') => post a w'
  | (none, w') => stuck w'

section Meets

variable {x : Act σ α} {f : α → Act σ β} {w : World σ} {post m : α → World σ → Prop}
  {stuck : World σ → Prop}

theorem meets_iff : x.Meets w post stuck ↔
    (∀ a w', x w = (some a, w') → post a w') ∧ ∀ w', x w = (none, w') → stuck w' := by
  unfold Meets
  rcases x w with ⟨_ | a, w'⟩ <;> simp

theorem Meets.value (h : x.Meets w post stuck) {a : α} {w' : World σ} (hx : x w = (some a, w')) :
    post a w' :=
  (meets_iff.1 h).1 a w' hx

theorem Meets.stalled (h : x.Meets w post stuck) {w' : World σ} (hx : x w = (none, w')) :
    stuck w' :=
  (meets_iff.1 h).2 w' hx

/-- Whether from `w` the action comes to a value for which `p` holds. -/
def yields (x : Act σ α) (w : World σ) (p : α → World σ → Bool) : Bool :=
  match x w with
  | (some a, w') => p a w'
  | (none, _) => false

theorem exists_of_yields {p : α → World σ → Bool} (h : x.yields w p = true) :
    ∃ a w', x w = (some a, w') ∧ p a w' = true := by
  unfold yields at h
  split at h
  next a w' hx => exact ⟨a, w', hx, h⟩
  next => exact absurd h Bool.false_ne_true

theorem Meets.mono {post' : α → World σ → Prop} {stuck' : World σ → Prop}
    (h : x.Meets w post stuck) (hp : ∀ a w', post a w' → post' a w')
    (hs : ∀ w', stuck w' → stuck' w') : x.Meets w post' stuck' := by
  rw [meets_iff] at h ⊢
  constructor
  · intro a w' hx
    exact hp a w' (h.1 a w' hx)
  · intro w' hx
    exact hs w' (h.2 w' hx)

theorem Meets.exists_value (h : x.Meets w post fun _ => False) :
    ∃ a w', x w = (some a, w') ∧ post a w' := by
  unfold Meets at h
  rcases hx : x w with ⟨_ | a, w'⟩ <;> rw [hx] at h
  · exact h.elim
  · exact ⟨a, w', rfl, h⟩

/-- What holds whichever way the action ends. -/
theorem Meets.world {p : World σ → Prop} (h : x.Meets w (fun _ => p) p) : p (x w).2 := by
  unfold Meets at h
  rcases hx : x w with ⟨_ | a, w'⟩ <;> rw [hx] at h <;> exact h

theorem meets_of_forall (hp : ∀ a w', post a w') (hs : ∀ w', stuck w') : x.Meets w post stuck :=
  meets_iff.2 ⟨fun a w' _ => hp a w', fun w' _ => hs w'⟩

theorem Meets.and {post' : α → World σ → Prop} {stuck' : World σ → Prop}
    (h : x.Meets w post stuck) (h' : x.Meets w post' stuck') :
    x.Meets w (fun a w' => post a w' ∧ post' a w') fun w' => stuck w' ∧ stuck' w' := by
  rw [meets_iff] at *
  constructor
  · intro a w' hx
    exact ⟨h.1 a w' hx, h'.1 a w' hx⟩
  · intro w' hx
    exact ⟨h.2 w' hx, h'.2 w' hx⟩

theorem bind_eq_some {b : β} {w' : World σ} : (x >>= f) w = (some b, w') ↔
    ∃ a u, x w = (some a, u) ∧ f a u = (some b, w') := by
  rw [bind_apply]
  rcases x w with ⟨_ | a, u⟩
  · simp
  · constructor
    · intro h
      exact ⟨a, u, rfl, h⟩
    · rintro ⟨_, _, ⟨⟩, h⟩
      exact h

theorem meets_pure {a : α} (h : post a w) : (pure a : Act σ α).Meets w post stuck := h

theorem meets_ask {g : World σ → α} (h : post (g w) w) : (ask g).Meets w post stuck := h

theorem meets_change {post : Unit → World σ → Prop} {g : World σ → World σ} (h : post () (g w)) :
    (change g).Meets w post stuck := h

theorem meets_bind {post : β → World σ → Prop} (hx : x.Meets w m stuck)
    (hf : ∀ a w', m a w' → (f a).Meets w' post stuck) : (x >>= f).Meets w post stuck := by
  unfold Meets at *
  rw [bind_apply]
  rcases h : x w with ⟨_ | a, w'⟩ <;> rw [h] at hx
  · exact hx
  · exact hf a w' hx

theorem meets_map {post : β → World σ → Prop} {g : α → β}
    (h : x.Meets w (fun a w' => post (g a) w') stuck) : (g <$> x).Meets w post stuck := by
  rw [map_eq_pure_bind]
  exact meets_bind h fun a w' ha => meets_pure ha

theorem meets_discard {post : Unit → World σ → Prop} (h : x.Meets w (fun _ => post ()) stuck) :
    (discard x).Meets w post stuck :=
  meets_map (g := fun _ => ()) h

theorem meets_within {post : Option α → World σ → Prop} {limit : Nat}
    (hx : x.Meets w (fun a w' => (w'.now ≤ w.now + limit → post (some a) w') ∧
        (w.now + limit < w'.now → post none { w' with now := w.now + limit }))
      fun w' => post none { w' with now := w.now + limit }) :
    (within limit x).Meets w post stuck := by
  rw [meets_iff] at hx
  unfold Meets within
  rcases h : x w with ⟨_ | a, w'⟩ <;> dsimp only
  · exact hx.2 w' h
  · split_ifs with htime
    · exact (hx.1 a w' h).1 htime
    · exact (hx.1 a w' h).2 (Nat.not_le.1 htime)

end Meets

/-- Whatever becomes of the action, the world after it is related to the world before. -/
def Always (R : World σ → World σ → Prop) (x : Act σ α) : Prop := ∀ w, R w (x w).2

section Always

variable {R : World σ → World σ → Prop} {x : Act σ α} {f : α → Act σ β}

theorem Always.meets (h : x.Always R) (w : World σ) : x.Meets w (fun _ w' => R w w') (R w) := by
  have hw := h w
  unfold Meets
  rcases hx : x w with ⟨_ | a, w'⟩ <;> rw [hx] at hw <;> exact hw

theorem always_of_meets (h : ∀ w, x.Meets w (fun _ w' => R w w') (R w)) : x.Always R := by
  intro w
  have hw := h w
  unfold Meets at hw
  rcases hx : x w with ⟨_ | a, w'⟩ <;> rw [hx] at hw <;> exact hw

theorem always_change {g : World σ → World σ} (h : ∀ w, R w (g w)) : (change g).Always R := h

theorem always_bind (ht : ∀ u v w, R u v → R v w → R u w) (hx : x.Always R)
    (hf : ∀ a, (f a).Always R) : (x >>= f).Always R := by
  refine always_of_meets fun w => meets_bind (hx.meets w) ?_
  intro a w' hw
  exact ((hf a).meets w').mono (fun _ _ h => ht _ _ _ hw h) fun _ h => ht _ _ _ hw h

theorem always_within {limit : Nat} (hx : x.Always R)
    (hnow : ∀ (w w' : World σ) (t : Nat), R w w' → R w { w' with now := t }) :
    (within limit x).Always R := by
  refine always_of_meets fun w => meets_within ((hx.meets w).mono ?_ ?_)
  · intro _ _ h
    exact ⟨fun _ => h, fun _ => hnow _ _ _ h⟩
  · intro _ h
    exact hnow _ _ _ h

end Always

end Failover.Act
