import Failover.Config
import Mathlib.Data.List.Forall2

/-!
# Host lists

The hosts of a sound configuration are its texts, parsed one by one in their order
(`Config.check_eq_ok_iff`, `Host.parseAll_eq_ok_iff`). In a replication each of them has a type
besides, the one in its text if there is one (`Host.typed_declareTypes`). Filling in the types makes
a master only of a first host that has none (`Host.exists_master_declareTypes_iff`).
-/

namespace Failover

namespace Host

/-! ## Types -/

/-- The host with a type, which is `t` unless it has one. -/
def withType (t : HostTag) (h : Host) : Host := { h with tag := some (h.tag.getD t) }

theorem declareTypes_cons (first : Host) (rest : List Host) : declareTypes (first :: rest) =
    first.withType (if (first :: rest).any (·.tag = some .master) then .slave else .master) ::
      rest.map (withType .slave) := rfl

theorem exists_master_declareTypes_iff {hosts : List Host} :
    (∃ h ∈ declareTypes hosts, h.tag = some .master) ↔
      (∃ h ∈ hosts, h.tag = some .master) ∨ ∃ h ∈ hosts.head?, h.tag = none := by
  cases hosts with
  | nil => simp [declareTypes]
  | cons first rest =>
    have hslave (h : Host) : (h.withType .slave).tag = some .master ↔ h.tag = some .master := by
      rw [withType]
      cases h.tag <;> simp
    have hrest : (∃ h ∈ rest.map (withType .slave), h.tag = some .master) ↔
        ∃ h ∈ rest, h.tag = some .master := by
      simp [hslave]
    rw [declareTypes_cons, List.exists_mem_cons_iff, hrest, List.exists_mem_cons_iff]
    by_cases hmaster : ∃ h ∈ rest, h.tag = some .master
    · exact iff_of_true (.inr hmaster) (.inl (.inr hmaster))
    · have hrest : rest.any (·.tag = some .master) = false := by simpa using hmaster
      rw [List.any_cons, hrest, Bool.or_false, withType]
      simp only [hmaster, or_false, List.head?_cons, Option.mem_some_iff, exists_eq_left']
      rcases first.tag with _ | _ | _ <;> simp

/-- A host as its text has it, with a type that is the one in the text if there is one. -/
structure Typed (text : String) (host : Host) : Prop where
  parsed : ∃ parsed, parse text = .ok parsed ∧ host.toEndpoint = parsed.toEndpoint ∧
    ∀ tag, parsed.tag = some tag → host.tag = some tag
  tagged : host.tag.isSome = true

theorem typed_withType {text : String} {h : Host} (hp : parse text = .ok h) (t : HostTag) :
    Typed text (h.withType t) where
  parsed := ⟨h, hp, rfl, fun tag htag => by rw [withType, htag]; rfl⟩
  tagged := rfl

theorem typed_declareTypes {texts : List String} {hosts : List Host}
    (h : List.Forall₂ (fun text host => parse text = .ok host) texts hosts) :
    List.Forall₂ Typed texts (declareTypes hosts) := by
  cases h with
  | nil => exact .nil
  | cons hfirst hrest =>
    rw [declareTypes_cons]
    refine .cons (typed_withType hfirst _) ?_
    rw [List.forall₂_map_right_iff]
    exact hrest.imp fun _ _ hp => typed_withType hp .slave

/-! ## Lists -/

section Lists

variable {topology : Topology} {texts : List String} {hosts : List Host}

/-- The texts of a list are parsed one by one. -/
theorem mapM_parse_eq_ok_iff : texts.mapM parse = .ok hosts ↔
    List.Forall₂ (fun text host => parse text = .ok host) texts hosts := by
  induction texts generalizing hosts with
  | nil => cases hosts <;> simp [pure, Except.pure]
  | cons text texts ih =>
    rw [List.mapM_cons]
    rcases htext : parse text with e | host
    · cases hosts <;> simp [bind, Except.bind, htext]
    · rcases hrest : texts.mapM parse with e | rest <;>
        cases hosts <;> simp [bind, Except.bind, pure, Except.pure, ← ih, htext, hrest]

theorem parseAll_eq_ok_iff : parseAll topology texts = .ok hosts ↔
    ∃ parsed, List.Forall₂ (fun text host => parse text = .ok host) texts parsed ∧
      hosts = if topology = .replication then declareTypes parsed else parsed := by
  simp only [← mapM_parse_eq_ok_iff]
  rw [parseAll]
  rcases texts.mapM parse with e | parsed
  · refine iff_of_false nofun ?_
    rintro ⟨_, ⟨⟩, _⟩
  · constructor
    · exact fun h => ⟨parsed, rfl, (Except.ok.inj h).symm⟩
    · rintro ⟨_, ⟨⟩, rfl⟩
      rfl

theorem exists_mem_iff_of_parsed {p : Host → Prop}
    (h : List.Forall₂ (fun text host => parse text = .ok host) texts hosts) :
    (∃ host ∈ hosts, p host) ↔ ∃ text ∈ texts, ∃ host, parse text = .ok host ∧ p host := by
  induction h with
  | nil => simp
  | cons hfirst _ ih => simp [hfirst, ih]

theorem exists_head_iff_of_parsed {p : Host → Prop}
    (h : List.Forall₂ (fun text host => parse text = .ok host) texts hosts) :
    (∃ host ∈ hosts.head?, p host) ↔
      ∃ text ∈ texts.head?, ∃ host, parse text = .ok host ∧ p host := by
  cases h with
  | nil => simp
  | cons hfirst _ => simp [hfirst]

theorem length_declareTypes (hosts : List Host) : (declareTypes hosts).length = hosts.length := by
  cases hosts with
  | nil => rfl
  | cons h hosts => simp [declareTypes]

theorem length_parseAll (h : parseAll topology texts = .ok hosts) :
    hosts.length = texts.length := by
  obtain ⟨parsed, hparsed, rfl⟩ := parseAll_eq_ok_iff.1 h
  split
  · rw [length_declareTypes, hparsed.length_eq]
  · exact hparsed.length_eq.symm

end Lists

end Host

namespace Config

/-- A check that fails gives no value. -/
theorem refusal_eq_ok_iff {α : Type} {fault : Prop} [Decidable fault]
    {refused rest : Except Error α} {a : α} (h : ∀ a, refused ≠ .ok a) :
    (if fault then refused else rest) = .ok a ↔ ¬fault ∧ rest = .ok a := by
  split
  next hfault => exact iff_of_false (h a) fun hnot => hnot.1 hfault
  next hfault => exact (and_iff_right hfault).symm

/-- What the checks let pass. -/
theorem check_eq_ok_iff {c : Config} {hosts : List Host} : c.check = .ok hosts ↔
    c.hosts ≠ [] ∧ (c.topology = .standalone → c.hosts.length = 1) ∧
      c.failover.retriesAllDown ≠ 0 ∧ c.failover.connectTimeout ≠ 0 ∧
      Host.parseAll c.topology c.hosts = .ok hosts := by
  unfold check addresses
  rw [refusal_eq_ok_iff, refusal_eq_ok_iff, refusal_eq_ok_iff, refusal_eq_ok_iff, not_and, not_not]
  all_goals exact nofun

end Config

end Failover
