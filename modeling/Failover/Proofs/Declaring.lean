import Failover.Proofs.Placement
import Failover.Proofs.Setup

/-!
# Declared masters

In a replication a host is a master only if the host list says so, and a list that is sound need not
name one: what makes one without being told to is a first host whose type is left open
(`declared_master_iff`). Without a declared master no connection comes about, since a session to a
replica never gets into the slot of the master.
-/

namespace Failover

section Declared

variable {σ : Type} [Cluster σ] {d : Deployment} {s : Scene σ} {c : Connection} {w : World σ}

theorem Connection.Placed.master_tagged (h : c.Placed d) (hr : d.config.topology = .replication)
    {slot : Slot} (hslot : c.master = some slot) : slot.host.tag = some .master := by
  have hrole := h.declared .master slot _ hslot (by rw [hr]; rfl)
  by_contra htag
  rw [if_neg htag] at hrole
  cases hrole

/-- A connection that is set up has a session to a declared master. -/
theorem Reachable.exists_master_of_establish (h : Reachable d s)
    (hopen : s.connection.closed = false) (hr : d.config.topology = .replication)
    (hrun : establish d s.connection s.world = (some (.ok (), c), w)) :
    ∃ host ∈ d.hosts, host.tag = some .master := by
  have hbegun := (Setup.establish (d := d) s.connection s.world).begun h.atRest.settled hopen
  have hanswer : (electRoles d s.connection s.world).1 = some (.ok (), c) := by
    rw [← hbegun.answer, hrun]
  have hequipped : Equipped d s.connection s.world (.ok ()) c :=
    (meets_electRoles_equipped h.atRest.settled hopen).value (Prod.ext hanswer rfl)
  obtain ⟨slot, hslot⟩ := Option.isSome_iff_exists.1 (hequipped.ok.1 rfl)
  have hplaced : c.Placed d := (h.visit .establish rfl hrun).founded.placed
  exact ⟨slot.host, hplaced.mem .master slot hslot, hplaced.master_tagged hr hslot⟩

end Declared

/-- A sound list of a replication gives every host a type, and has a master if and only if one is
declared or the first host has its type left open. No connection is set up without a master in the
list. -/
theorem declared_master_iff {config : Config} {hosts : List Host}
    (hr : config.topology = .replication) (h : config.check = .ok hosts) :
    List.Forall₂ Host.Typed config.hosts hosts ∧
    ((∃ host ∈ hosts, host.tag = some .master) ↔
      (∃ text ∈ config.hosts, ∃ host, Host.parse text = .ok host ∧ host.tag = some .master) ∨
      ∃ text ∈ config.hosts.head?, ∃ host, Host.parse text = .ok host ∧ host.tag = none) ∧
    ∀ {σ : Type} [Cluster σ] (s : Scene σ) (c : Connection) (w : World σ),
      Reachable ⟨config, hosts⟩ s → s.connection.closed = false →
      establish ⟨config, hosts⟩ s.connection s.world = (some (.ok (), c), w) →
      ∃ host ∈ hosts, host.tag = some .master := by
  obtain ⟨-, -, -, -, hparse⟩ := Config.check_eq_ok_iff.1 h
  obtain ⟨parsed, hparsed, hhosts⟩ := Host.parseAll_eq_ok_iff.1 hparse
  rw [if_pos hr] at hhosts
  subst hhosts
  refine ⟨Host.typed_declareTypes hparsed, ?_, fun s c w hs hopen hrun =>
    hs.exists_master_of_establish hopen hr hrun⟩
  rw [Host.exists_master_declareTypes_iff, Host.exists_mem_iff_of_parsed hparsed,
    Host.exists_head_iff_of_parsed hparsed]

/-- A replication that declares no types. -/
def untyped : Config := { topology := .replication, hosts := ["db1", "db2:3307"] }

theorem first_host_is_master : ∃ hosts, untyped.check = .ok hosts ∧
    List.Forall₂ Host.Typed untyped.hosts hosts ∧ ∃ host ∈ hosts, host.tag = some .master := by
  have hcheck : untyped.check = .ok [{ name := "db1", port := 3306, tag := some .master },
      { name := "db2", port := 3307, tag := some .slave }] := by rfl
  obtain ⟨htyped, hmaster, -⟩ := declared_master_iff rfl hcheck
  have hopen : Host.parse "db1" = .ok { name := "db1", port := 3306, tag := none } := by rfl
  exact ⟨_, hcheck, htyped, hmaster.2 (.inr ⟨"db1", rfl, _, hopen, rfl⟩)⟩

/-- A replication whose first host is declared a replica. -/
def replicaFirst : Config := { topology := .replication, hosts := ["db1?type=slave", "db2"] }

theorem list_without_master : ¬∀ (config : Config) (hosts : List Host),
    config.topology = .replication → config.check = .ok hosts →
      ∃ host ∈ hosts, host.tag = some .master := by
  intro h
  have hsome : replicaFirst.check.toOption = some [
      { name := "db1", port := 3306, tag := some .slave },
      { name := "db2", port := 3306, tag := some .slave }] := by decide +kernel
  cases hcheck : replicaFirst.check with
  | error e => cases (congrArg Except.toOption hcheck).symm.trans hsome
  | ok hosts =>
    obtain rfl := Option.some.inj ((congrArg Except.toOption hcheck).symm.trans hsome)
    exact absurd (h replicaFirst _ rfl hcheck) (by decide)

end Failover
