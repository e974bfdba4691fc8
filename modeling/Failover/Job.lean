import Failover.Connection
import Failover.World

/-!
# Jobs

Several tasks may share a connection, and each of them holds it for one section at a time. Its job
is the tree of these sections: a job that is done has a value, any other one has a next section
whose value says how to go on. Alone, a job runs its sections in a row; between two of them other
tasks may run theirs.
-/

namespace Failover

/-- What is done in one piece, while the connection is held. -/
abbrev Section (σ β : Type) := Connection → Act σ (β × Connection)

inductive Job (σ α : Type) : Type 1
  | done (a : α)
  | step {β : Type} (act : Section σ β) (next : β → Job σ α)

namespace Job

variable {σ α β : Type}

def andThen : Job σ α → (α → Job σ β) → Job σ β
  | done a, f => f a
  | step act next, f => step act fun b => (next b).andThen f

instance : Monad (Job σ) where
  pure := done
  bind := andThen

theorem pure_eq (a : α) : (pure a : Job σ α) = done a := rfl

theorem done_bind (a : α) (f : α → Job σ β) : (done a >>= f) = f a := rfl

theorem step_bind {γ : Type} (act : Section σ γ) (next : γ → Job σ α) (f : α → Job σ β) :
    (step act next >>= f) = step act fun b => next b >>= f := rfl

/-- A single section. -/
def atomic (act : Section σ β) : Job σ β := step act done

/-- The section that leaves the connection as it is. -/
def unchanged (act : Connection → Act σ β) : Section σ β := fun c => do return (← act c, c)

/-- A single section that leaves the connection as it is. -/
def reading (act : Connection → Act σ β) : Job σ β := atomic (unchanged act)

/-- Runs a job alone. -/
def run : Job σ α → Section σ α
  | done a, c => pure (a, c)
  | step act next, c => do
    let (b, c) ← act c
    (next b).run c

theorem run_bind (t : Job σ α) (f : α → Job σ β) (c : Connection) :
    (t >>= f).run c = t.run c >>= fun (a, c) => (f a).run c := by
  induction t generalizing c with
  | done a => rfl
  | step act next ih => simp only [step_bind, run, ih, bind_assoc]

theorem run_atomic (act : Section σ β) (c : Connection) : (atomic act).run c = act c := by
  simp only [atomic, run]
  exact bind_pure _

end Job

end Failover
