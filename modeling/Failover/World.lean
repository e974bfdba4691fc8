import Failover.Blacklist
import Failover.Cluster
import Failover.Command
import Failover.Handle

/-!
# The world of a client

The world holds the servers, the clock, the blacklist, the handles and the journal of all that was
done to the servers. An action changes the world and comes to a value, unless a call in it stays
unanswered: then it has no value, and the world stays as it was at that call.
-/

namespace Failover

/-- The outcome of asking for a role. -/
inductive Verdict
  | role (r : Role)
  | failed (e : Error)
  | unanswered

/-- What was done to the servers. -/
inductive Event
  | refused (host : Host) (e : Error)
  | opened (host : Host) (session : SessionId)
  | called (session : SessionId) (request : Request) (reply : Reply)
  | closed (session : SessionId)
  /-- The role of a session was asked for, by whatever means the topology has. -/
  | judged (session : SessionId) (verdict : Verdict)
  /-- A command was handed to the session's handle. -/
  | ran (session : SessionId) (command : Command)

/-- An event with the instant at which it was noted: a call when it is made, connecting and closing
when they have come to an end. -/
structure Entry where
  time : Nat
  event : Event

inductive LogLevel
  | debug
  | info
  | warn
  deriving DecidableEq, Repr

def LogLevel.name : LogLevel → String
  | debug => "DEBUG"
  | info => "INFO"
  | warn => "WARN"

structure LogLine where
  level : LogLevel
  text : String
  deriving DecidableEq, Repr

structure World (σ : Type) where
  servers : σ
  /-- The clock, in milliseconds. -/
  now : Nat := 0
  blacklist : Blacklist := {}
  handles : Handles := {}
  /-- Sessions opened so far, which is also the number of the last one. -/
  opened : Nat := 0
  /-- Newest first. -/
  journal : List Entry := []
  /-- Newest first. -/
  log : List LogLine := []

/-- The world with one more event in its journal. -/
def World.noting {σ : Type} (w : World σ) (e : Event) : World σ :=
  { w with journal := ⟨w.now, e⟩ :: w.journal }

/-- An action on the world. -/
def Act (σ α : Type) := World σ → Option α × World σ

namespace Act

variable {σ α β : Type}

instance : Monad (Act σ) where
  pure a w := (some a, w)
  bind x f w :=
    match x w with
    | (some a, w') => f a w'
    | (none, w') => (none, w')

theorem pure_apply (a : α) (w : World σ) : (pure a : Act σ α) w = (some a, w) := rfl

theorem bind_apply (x : Act σ α) (f : α → Act σ β) (w : World σ) :
    (x >>= f) w = match x w with
      | (some a, w') => f a w'
      | (none, w') => (none, w') := rfl

instance : LawfulMonad (Act σ) :=
  LawfulMonad.mk' (Act σ)
    (fun x => by
      funext w; simp only [Functor.map, Function.comp]; rcases x w with ⟨_ | _, _⟩ <;> rfl)
    (fun _ _ => rfl)
    (fun x f g => by funext w; simp only [bind]; rcases x w with ⟨_ | _, _⟩ <;> rfl)

/-- Reads off the world. -/
def ask (f : World σ → α) : Act σ α := fun w => (some (f w), w)

def change (f : World σ → World σ) : Act σ Unit := fun w => (some (), f w)

def log (level : LogLevel) (text : String) : Act σ Unit :=
  change fun w => { w with log := ⟨level, text⟩ :: w.log }

def note (e : Event) : Act σ Unit := change (·.noting e)

/-- Gives an action up when it takes longer than `limit`. -/
def within (limit : Nat) (x : Act σ α) : Act σ (Option α) := fun w =>
  match x w with
  | (some a, w') =>
    if w'.now ≤ w.now + limit then (some (some a), w')
    else (some none, { w' with now := w.now + limit })
  | (none, w') => (some none, { w' with now := w.now + limit })

/-- The failure of a host at the present instant. -/
def blacklist (h : Host) : Act σ Unit := do
  change fun w => { w with blacklist := w.blacklist.record h.toEndpoint w.now w.now }
  log .debug s!"Blacklisted {h.text}"

/-- Forgets the failure of a host that answered again. -/
def forgive (h : Host) : Act σ Unit := do
  if ← ask (·.blacklist.contains h.toEndpoint) then
    change fun w => { w with blacklist := w.blacklist.clear h.toEndpoint }
    log .debug s!"Removed {h.text} from blacklist"

section Servers

variable [Cluster σ]

/-- Opens a session. -/
def connect (h : Host) : Act σ (Except Error SessionId) := fun w =>
  let n := w.opened + 1
  let (wait, outcome, servers) := Cluster.connect h n w.servers
  let w := { w with servers, now := w.now + wait }
  match outcome with
  | .ok () => (some (.ok n), { w.noting (.opened h n) with opened := n })
  | .error e => (some (.error e), w.noting (.refused h e))

/-- Calls a session, and waits for the answer as long as it takes. -/
def call (n : SessionId) (r : Request) : Act σ (Except Error QueryResult) := fun w =>
  let (reply, servers) := Cluster.call n r w.servers
  let w := { w.noting (.called n r reply) with servers }
  match reply with
  | .answer wait result => (some result, { w with now := w.now + wait })
  | .silence => (none, w)

/-- Closes a session. An error does not keep it open. -/
def hangUp (n : SessionId) : Act σ (Option Error) := fun w =>
  let (wait, outcome, servers) := Cluster.close n w.servers
  (some outcome, { w with servers, now := w.now + wait }.noting (.closed n))

def draw (bound : Nat) : Act σ Nat := fun w =>
  let (k, servers) := Cluster.draw bound w.servers
  (some (k % bound), { w with servers })

/-- A random order, in which each element goes to a random place among those after it. -/
def shuffle : List α → Act σ (List α)
  | [] => pure []
  | x :: rest => do
    let rest ← shuffle rest
    return rest.insertIdx (← draw (rest.length + 1)) x

end Servers

end Act

end Failover
