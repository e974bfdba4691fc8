import Failover.Host
import Failover.Proofs.Words

/-!
# Written addresses

An address is a name or a name in brackets, alone or with a port behind a colon (`Spells`). The
parser reads just these spellings (`Host.endpoint?_eq_some_iff`), and the text of an endpoint is
one of them, so that it is read back with whatever type is declared behind it (`parse_written`).
A name without brackets may have colons when a port follows, and what reads as the port may have
been a part of the name: only brackets, or no second colon, tell that it was not
(`colon_free_iff`).
-/

namespace Failover

namespace Text

section Marks

variable {α : Type} [DecidableEq α] {mark : α} {s : List α}

theorem cutLast_append (before : List α) {after : List α} (h : mark ∉ after) :
    cutLast mark (before ++ mark :: after) = some (before, after) := by
  induction before with
  | nil => simp [cutLast, cutLast_eq_none_iff.2 h]
  | cons x before ih => simp [cutLast, ih]

theorem pieces_of_not_mem (h : mark ∉ s) : pieces mark s = [s] := by
  induction s with
  | nil => rfl
  | cons x s ih =>
    rw [List.mem_cons, not_or] at h
    rw [pieces, if_neg (Ne.symm h.1), ih h.2]

/-- The two parts of a text, of which the second is empty without a mark. -/
theorem cut_getD (mark : α) (s : List α) : (cut mark s).getD (s, []) =
    (s.takeWhile (· ≠ mark), (s.dropWhile (· ≠ mark)).tail) := by
  induction s with
  | nil => rfl
  | cons x s ih =>
    by_cases hx : x = mark
    · simp [cut, hx]
    · rw [cut, if_neg hx, List.takeWhile_cons_of_pos (by simpa using hx),
        List.dropWhile_cons_of_pos (by simpa using hx)]
      revert ih
      cases cut mark s with
      | none =>
        simp only [Option.map_none, Option.getD_none, Prod.mk.injEq]
        rintro ⟨h, h'⟩
        exact ⟨congrArg _ h, h'⟩
      | some parts =>
        simp only [Option.map_some, Option.getD_some]
        rintro rfl
        rfl

end Marks

section Trim

theorem dropEndWhile_eq_nil {α : Type} {p : α → Bool} {s : List α} (h : ∀ x ∈ s, p x = true) :
    dropEndWhile p s = [] := by
  induction s with
  | nil => rfl
  | cons x s ih =>
    rw [List.forall_mem_cons] at h
    simp [dropEndWhile, ih h.2, h.1]

theorem dropBlankEnd_of_back {s : List Char} (h : ∀ x ∈ s.getLast?, isBlank x = false) :
    dropBlankEnd s = s := by
  rcases List.eq_nil_or_concat s with rfl | ⟨s, x, rfl⟩
  · rfl
  · rw [List.concat_eq_append] at h ⊢
    exact dropEndWhile_concat (h x (by simp)) s

theorem skipBlank_of_front {s : List Char} (h : ∀ x ∈ s.head?, isBlank x = false) :
    skipBlank s = s := by
  cases s with
  | nil => rfl
  | cons x s => exact skipBlank_cons (h x rfl) s

/-- Blanks around a text that has none at its ends are trimmed away. -/
theorem trim_append {front s back : List Char} (hs : Trimmed s)
    (hfront : ∀ x ∈ front, isBlank x = true) (hback : ∀ x ∈ back, isBlank x = true) :
    trim (front ++ s ++ back) = s := by
  have hskip : skipBlank (front ++ (s ++ back)) = skipBlank (s ++ back) :=
    List.dropWhile_append_of_pos hfront
  have hdrop : dropBlankEnd (s ++ back) = dropBlankEnd s :=
    dropEndWhile_append_of_nil (dropEndWhile_eq_nil hback) s
  rw [trim, List.append_assoc, hskip, ← skipBlank_dropBlankEnd, hdrop, dropBlankEnd_of_back hs.back,
    skipBlank_of_front hs.front]

theorem not_isBlank_of_isDigit {x : Char} (h : x.isDigit = true) : isBlank x = false := by
  have hdigit : 48 ≤ x.toNat ∧ x.toNat ≤ 57 := by
    simpa [Char.isDigit, UInt32.le_iff_toNat_le] using h
  rw [← Bool.not_eq_true, isBlank_iff]
  omega

theorem trimmed_append {s t : List Char} (hs : s ≠ []) (ht : t ≠ [])
    (hfront : ∀ x ∈ s.head?, isBlank x = false) (hback : ∀ x ∈ t.getLast?, isBlank x = false) :
    Trimmed (s ++ t) where
  front := by rwa [List.head?_append_of_ne_nil _ hs]
  back := by rwa [List.getLast?_append_of_ne_nil _ ht]

end Trim

end Text

open Text

/-! ## Ports -/

/-- The ways of writing a port: decimal digits, which a plus sign may precede. -/
inductive PortText (port : UInt16) : List Char → Prop
  | digits {s : List Char} : s ≠ [] → s.all Char.isDigit → Nat.ofDigitChars 10 s 0 = port.toNat →
      PortText port s
  | plus {s : List Char} : s ≠ [] → s.all Char.isDigit → Nat.ofDigitChars 10 s 0 = port.toNat →
      PortText port ('+' :: s)

namespace Host

section Ports

variable {port : UInt16} {s : List Char}

theorem port?_plus (s : List Char) : port? ('+' :: s) =
    if s ≠ [] ∧ s.all Char.isDigit ∧ Nat.ofDigitChars 10 s 0 < 65536 then
      some (.ofNat (Nat.ofDigitChars 10 s 0)) else none := rfl

theorem port?_of_not_plus (h : s.head? ≠ some '+') : port? s =
    if s ≠ [] ∧ s.all Char.isDigit ∧ Nat.ofDigitChars 10 s 0 < 65536 then
      some (.ofNat (Nat.ofDigitChars 10 s 0)) else none := by
  unfold port?
  split
  · exact absurd rfl h
  · rfl

theorem ofNat_eq_iff {n : ℕ} : n < 65536 ∧ UInt16.ofNat n = port ↔ n = port.toNat := by
  constructor
  · rintro ⟨hn, rfl⟩
    exact (UInt16.toNat_ofNat_of_lt' hn).symm
  · rintro rfl
    exact ⟨port.toNat_lt, UInt16.ofNat_toNat⟩

theorem port?_eq_some_iff : port? s = some port ↔ PortText port s := by
  have hvalue (t : List Char) : (if t ≠ [] ∧ t.all Char.isDigit ∧
      Nat.ofDigitChars 10 t 0 < 65536 then some (UInt16.ofNat (Nat.ofDigitChars 10 t 0)) else none)
        = some port ↔
      t ≠ [] ∧ t.all Char.isDigit ∧ Nat.ofDigitChars 10 t 0 = port.toNat := by
    simp only [Option.ite_none_right_eq_some, Option.some.injEq, and_assoc, ofNat_eq_iff]
  by_cases hplus : s.head? = some '+'
  · obtain ⟨t, rfl⟩ : ∃ t, s = '+' :: t := by
      cases s <;> simp_all
    rw [port?_plus, hvalue]
    constructor
    · exact fun ⟨hne, hdigits, hport⟩ => .plus hne hdigits hport
    · rintro (⟨-, hdigits, -⟩ | ⟨hne, hdigits, hport⟩)
      · simp at hdigits
      · exact ⟨hne, hdigits, hport⟩
  · rw [port?_of_not_plus hplus, hvalue]
    constructor
    · exact fun ⟨hne, hdigits, hport⟩ => .digits hne hdigits hport
    · rintro (⟨hne, hdigits, hport⟩ | -)
      · exact ⟨hne, hdigits, hport⟩
      · exact absurd rfl hplus

end Ports

end Host

/-! ## Addresses -/

/-- The ways of writing an address, with the names that may stand before a port without
brackets. -/
inductive Spells (plain : List Char → Prop) (name : List Char) (port : UInt16) : List Char → Prop
  | name : ':' ∉ name → name.head? ≠ some '[' → port = Host.defaultPort →
      Spells plain name port name
  | nameAndPort {digits : List Char} : plain name → name.head? ≠ some '[' →
      PortText port digits → Spells plain name port (name ++ ':' :: digits)
  | brackets : ']' ∉ name → port = Host.defaultPort →
      Spells plain name port ('[' :: (name ++ [']']))
  | bracketsAndPort {digits : List Char} : ']' ∉ name → PortText port digits →
      Spells plain name port ('[' :: (name ++ ']' :: ':' :: digits))

section Addresses

variable {plain : List Char → Prop} {name s : List Char} {port : UInt16}

theorem PortText.not_mem (h : PortText port s) {x : Char} (hx : x.isDigit = false)
    (hplus : x ≠ '+') : x ∉ s := by
  intro hmem
  cases h with
  | digits _ hdigits _ =>
    exact Bool.false_ne_true (hx.symm.trans (List.all_eq_true.1 hdigits x hmem))
  | plus _ hdigits _ =>
    rcases List.mem_cons.1 hmem with rfl | hmem
    · exact hplus rfl
    · exact Bool.false_ne_true (hx.symm.trans (List.all_eq_true.1 hdigits x hmem))

theorem PortText.colon_not_mem (h : PortText port s) : ':' ∉ s := h.not_mem rfl (by decide)

theorem head?_append_colon (h : name.head? ≠ some '[') (s : List Char) :
    (name ++ ':' :: s).head? ≠ some '[' := by
  cases name with
  | nil => simp
  | cons x name => simpa using h

namespace Host

theorem endpoint?_of_bracket (s : List Char) : endpoint? ('[' :: s) =
    match cut ']' s with
    | some (name, []) => some (name, defaultPort)
    | some (name, ':' :: digits) => (port? digits).map (name, ·)
    | _ => none := rfl

theorem endpoint?_of_not_bracket (h : s.head? ≠ some '[') : endpoint? s =
    match cutLast ':' s with
    | some (name, digits) => (port? digits).map (name, ·)
    | none => some (s, defaultPort) := by
  unfold endpoint?
  split
  · exact absurd rfl h
  · rfl

theorem spells_of_bracket (h : endpoint? ('[' :: s) = some (name, port)) :
    Spells (fun _ => True) name port ('[' :: s) := by
  rw [endpoint?_of_bracket] at h
  split at h
  next hcut =>
    obtain ⟨rfl, hname⟩ := eq_of_cut hcut
    obtain ⟨rfl, rfl⟩ := Prod.mk.inj (Option.some.inj h)
    exact .brackets hname rfl
  next hcut =>
    obtain ⟨rfl, hname⟩ := eq_of_cut hcut
    obtain ⟨_, hport, he⟩ := Option.map_eq_some_iff.1 h
    obtain ⟨rfl, rfl⟩ := Prod.mk.inj he
    exact .bracketsAndPort hname (port?_eq_some_iff.1 hport)
  next => cases h

theorem spells_of_not_bracket (hs : s.head? ≠ some '[') (h : endpoint? s = some (name, port)) :
    Spells (fun _ => True) name port s := by
  rw [endpoint?_of_not_bracket hs] at h
  split at h
  next hcut =>
    obtain ⟨rfl, -⟩ := eq_of_cutLast hcut
    obtain ⟨_, hport, he⟩ := Option.map_eq_some_iff.1 h
    obtain ⟨rfl, rfl⟩ := Prod.mk.inj he
    refine .nameAndPort trivial (fun hhead => hs ?_) (port?_eq_some_iff.1 hport)
    rw [List.head?_append, hhead, Option.some_or]
  next hcut =>
    obtain ⟨rfl, rfl⟩ := Prod.mk.inj (Option.some.inj h)
    exact .name (cutLast_eq_none_iff.1 hcut) hs rfl

/-- The parser reads the four spellings, whatever the name before a port. -/
theorem endpoint?_eq_some_iff :
    endpoint? s = some (name, port) ↔ Spells (fun _ => True) name port s := by
  constructor
  · intro h
    by_cases hbracket : s.head? = some '['
    · obtain ⟨t, rfl⟩ : ∃ t, s = '[' :: t := by
        cases s <;> simp_all
      exact spells_of_bracket h
    · exact spells_of_not_bracket hbracket h
  · intro h
    cases h with
    | name hcolon hhead hport =>
      rw [endpoint?_of_not_bracket hhead, cutLast_eq_none_iff.2 hcolon, hport]
    | nameAndPort _ hhead hport =>
      rw [endpoint?_of_not_bracket (head?_append_colon hhead _),
        cutLast_append name hport.colon_not_mem]
      simp only [port?_eq_some_iff.2 hport, Option.map_some]
    | brackets hname hport => rw [endpoint?_of_bracket, cut_append [] hname, hport]
    | bracketsAndPort hname hport =>
      rw [endpoint?_of_bracket, cut_append _ hname]
      simp only [port?_eq_some_iff.2 hport, Option.map_some]

end Host

/-- Only of the name before a port is it said what it may be. -/
theorem Spells.of_plain {plain' : List Char → Prop} (h : Spells plain name port s)
    (hplain : ∀ digits, s = name ++ ':' :: digits → name.head? ≠ some '[' → plain' name) :
    Spells plain' name port s := by
  cases h with
  | name hcolon hhead hport => exact .name hcolon hhead hport
  | nameAndPort _ hhead hport => exact .nameAndPort (hplain _ rfl hhead) hhead hport
  | brackets hname hport => exact .brackets hname hport
  | bracketsAndPort hname hport => exact .bracketsAndPort hname hport

theorem Spells.any_name (h : Spells plain name port s) : Spells (fun _ => True) name port s :=
  h.of_plain fun _ _ _ => trivial

/-- Without a second colon the name before a port has none. -/
theorem Spells.colon_free_iff (h : Spells (fun _ => True) name port s) :
    Spells (':' ∉ ·) name port s ↔ s.head? = some '[' ∨ s.count ':' ≤ 1 := by
  constructor
  · rintro (⟨hcolon, -, -⟩ | ⟨hcolon, -, hport⟩ | ⟨-, -⟩ | ⟨-, -⟩)
    · exact .inr (by simp [List.count_eq_zero_of_not_mem hcolon])
    · refine .inr (le_of_eq ?_)
      rw [List.count_append, List.count_cons_self, List.count_eq_zero_of_not_mem hcolon,
        List.count_eq_zero_of_not_mem hport.colon_not_mem]
    · exact .inl rfl
    · exact .inl rfl
  · refine fun hcount => h.of_plain ?_
    rintro digits rfl hhead
    have hle := hcount.resolve_left (head?_append_colon hhead digits)
    rw [List.count_append, List.count_cons_self] at hle
    exact List.count_eq_zero.1 (by omega)

end Addresses

/-! ## Hosts -/

namespace Host

section Parts

/-- What stands before the first question mark in the text of a host. -/
def addressIn (text : String) : List Char := (trim text.toList).takeWhile (· ≠ '?')

/-- What stands behind the first question mark in the text of a host. -/
def parametersIn (text : String) : List Char := ((trim text.toList).dropWhile (· ≠ '?')).tail

theorem parse_eq_ok_iff {text : String} {host : Host} : Host.parse text = .ok host ↔
    Spells (fun _ => True) host.name.toList host.port (addressIn text) ∧ host.name ≠ "" ∧
      readParameters (String.ofList (trim text.toList)) (pieces '&' (parametersIn text)) none
        = .ok host.tag := by
  have hparts : (cut '?' (trim text.toList)).getD (trim text.toList, []) =
      (addressIn text, parametersIn text) := cut_getD '?' _
  rw [← endpoint?_eq_some_iff, Host.parse]
  simp only [hparts]
  cases endpoint? (addressIn text) with
  | none => simp
  | some found =>
    obtain ⟨name, port⟩ := found
    obtain ⟨⟨ownName, ownPort⟩, tag⟩ := host
    simp only [Option.some.injEq, Prod.mk.injEq, bind, Except.bind]
    have hname : name = ownName.toList ↔ String.ofList name = ownName := by
      rw [← String.toList_inj, String.toList_ofList]
    by_cases hnil : name = []
    · rw [if_pos hnil]
      refine iff_of_false nofun ?_
      rintro ⟨⟨he, -⟩, hne, -⟩
      exact hne (by rw [← hname.1 he, hnil])
    · have hne : String.ofList name = ownName → ownName ≠ "" := by
        rintro he rfl
        exact hnil (hname.2 he)
      rw [if_neg hnil, hname]
      cases readParameters (String.ofList (trim text.toList)) (pieces '&' (parametersIn text)) none
      · refine iff_of_false nofun ?_
        rintro ⟨-, -, ⟨⟩⟩
      · simp only [pure, Except.pure, Except.ok.injEq, Host.mk.injEq, Endpoint.mk.injEq]
        tauto

end Parts

end Host

/-- An address is read in one of its spellings. One without brackets and with a second colon is
read as well, all of it before the last colon as the name. -/
theorem address_colon_free_iff {text : String} {host : Host} (h : Host.parse text = .ok host) :
    host.name ≠ "" ∧
    Spells (fun _ => True) host.name.toList host.port (Host.addressIn text) ∧
    (Spells (':' ∉ ·) host.name.toList host.port (Host.addressIn text) ↔
      (Host.addressIn text).head? = some '[' ∨ (Host.addressIn text).count ':' ≤ 1) := by
  obtain ⟨hspells, hname, -⟩ := Host.parse_eq_ok_iff.1 h
  exact ⟨hname, hspells, hspells.colon_free_iff⟩

theorem address_colon_free_of_brackets :
    Host.parse "[::1]:3310" = .ok { name := "::1", port := 3310, tag := none } ∧
    Spells (':' ∉ ·) "::1".toList 3310 (Host.addressIn "[::1]:3310") := by
  have h : Host.parse "[::1]:3310" = .ok { name := "::1", port := 3310, tag := none } := by rfl
  exact ⟨h, (address_colon_free_iff h).2.2.2 (.inl (by decide +kernel))⟩

/-- The last group of an unbracketed IPv6 address is read as a port. -/
theorem last_group_read_as_port : ¬∀ (text : String) (host : Host), Host.parse text = .ok host →
    Spells (':' ∉ ·) host.name.toList host.port (Host.addressIn text) := by
  intro h
  have hread : Host.parse "::1" = .ok { name := ":", port := 1, tag := none } := by rfl
  have hspells := (Host.parse_eq_ok_iff.1 hread).1.colon_free_iff.1 (h _ _ hread)
  exact absurd hspells (by decide +kernel)

/-! ## Texts of endpoints -/

section Texts

/-- The text of a type in a host list is written in letters. -/
theorem isAlpha_of_parse {spelling : String} {tag : HostTag}
    (h : HostTag.parse spelling = .ok tag) : ∀ x ∈ spelling.toList, x.isAlpha = true := by
  have hnames : spelling.toLower ∈ ["master", "primary", "slave", "replica", "secondary"] := by
    rw [HostTag.parse] at h
    split at h <;> simp_all
  have hlower : ∀ name ∈ ["master", "primary", "slave", "replica", "secondary"],
      ∀ x ∈ name.toList, x.isAlpha = true := by simp
  intro x hx
  have hmem : x.toLower ∈ spelling.toLower.toList := by
    rw [String.toLower, String.toList_map]
    exact List.mem_map_of_mem hx
  simpa using hlower _ hnames _ hmem

/-- What may stand behind an address to declare a type, or none. -/
inductive Declares : Option HostTag → String → Prop
  | nothing : Declares none ""
  | type {spelling : String} {tag : HostTag} : HostTag.parse spelling = .ok tag →
      Declares (some tag) ("?type=" ++ spelling)

variable {e : Endpoint} {tag : Option HostTag} {declared : String}

theorem portText_toDigits (port : UInt16) : PortText port (Nat.toDigits 10 port.toNat) := by
  refine .digits Nat.toDigits_ne_nil ?_ (Nat.ofDigitChars_toDigits (by decide) (by decide))
  exact List.all_eq_true.2 fun x hx => Nat.isDigit_of_mem_toDigits (by decide) (by decide) hx

theorem toList_text (e : Endpoint) : e.text.toList =
    if ':' ∈ e.name.toList then
      '[' :: (e.name.toList ++ ']' :: ':' :: Nat.toDigits 10 e.port.toNat)
    else e.name.toList ++ ':' :: Nat.toDigits 10 e.port.toNat := by
  rw [Endpoint.text]
  split <;> simp [String.toList_append, Nat.toList_repr, ToString.toString]

theorem spells_text (hmarks : ∀ x ∈ ['[', ']', '?'], x ∉ e.name.toList) :
    Spells (':' ∉ ·) e.name.toList e.port e.text.toList := by
  rw [toList_text]
  split
  next => exact .bracketsAndPort (hmarks ']' (by decide)) (portText_toDigits e.port)
  next hcolon =>
    refine .nameAndPort hcolon ?_ (portText_toDigits e.port)
    intro hhead
    exact hmarks '[' (by decide) (List.mem_of_mem_head? hhead)

/-- Only digits are behind the last colon. -/
theorem trimmed_text (hname : e.name.toList ≠ []) (htrimmed : Trimmed e.name.toList) :
    Trimmed e.text.toList := by
  have hdigits (x : Char) (hx : x ∈ (Nat.toDigits 10 e.port.toNat).getLast?) :
      isBlank x = false :=
    not_isBlank_of_isDigit
      (Nat.isDigit_of_mem_toDigits (by decide) (by decide) (List.mem_of_mem_getLast? hx))
  have hback (front : List Char) :
      ∀ x ∈ (front ++ Nat.toDigits 10 e.port.toNat).getLast?, isBlank x = false := by
    rwa [List.getLast?_append_of_ne_nil _ Nat.toDigits_ne_nil]
  rw [toList_text]
  split
  · exact trimmed_append (List.cons_ne_nil '[' _) (List.cons_ne_nil _ _) (by simp [isBlank])
      (hback [']', ':'])
  · exact trimmed_append hname (List.cons_ne_nil _ _) htrimmed.front (hback [':'])

theorem mark_not_mem_text (hmarks : ∀ x ∈ ['[', ']', '?'], x ∉ e.name.toList) :
    '?' ∉ e.text.toList := by
  have hname : '?' ∉ e.name.toList := hmarks '?' (by decide)
  have hdigits := (portText_toDigits e.port).not_mem (x := '?') rfl (by decide)
  rw [toList_text]
  split <;> simp [hname, hdigits]

theorem Declares.takeWhile_eq_nil (h : Declares tag declared) :
    declared.toList.takeWhile (· ≠ '?') = [] := by
  cases h with
  | nothing => rfl
  | type _ => simp [String.toList_append]

theorem Declares.dropWhile_eq_self (h : Declares tag declared) :
    declared.toList.dropWhile (· ≠ '?') = declared.toList := by
  cases h with
  | nothing => rfl
  | type _ => simp [String.toList_append]

theorem Declares.not_isBlank (h : Declares tag declared) :
    ∀ x ∈ declared.toList, isBlank x = false := by
  cases h with
  | nothing => exact fun x hx => absurd hx (by simp)
  | type hspelling =>
    intro x hx
    rw [String.toList_append, List.mem_append] at hx
    rcases hx with hx | hx
    · have hmark : ∀ y ∈ "?type=".toList, isBlank y = false := by simp [isBlank]
      exact hmark x hx
    · exact not_isBlank_of_isAlpha (isAlpha_of_parse hspelling x hx)

/-- No blank ends the text of an endpoint with a type declared behind it. -/
theorem Declares.trimmed (h : Declares tag declared) (hname : e.name.toList ≠ [])
    (htrimmed : Trimmed e.name.toList) : Trimmed (e.text.toList ++ declared.toList) := by
  have htext := trimmed_text hname htrimmed
  by_cases hdeclared : declared.toList = []
  · rwa [hdeclared, List.append_nil]
  · refine trimmed_append ?_ hdeclared htext.front fun x hx =>
      h.not_isBlank x (List.mem_of_mem_getLast? hx)
    rw [toList_text]
    split <;> simp

theorem Declares.read (h : Declares tag declared) (whole : String) :
    Host.readParameters whole (pieces '&' declared.toList.tail) none = .ok tag := by
  cases h with
  | nothing => rfl
  | @type spelling t hspelling =>
    have hletters (x : Char) (hx : x.isAlpha = false) : x ∉ spelling.toList := fun hmem =>
      Bool.false_ne_true (hx.symm.trans (isAlpha_of_parse hspelling x hmem))
    have hpiece : '&' ∉ ['t', 'y', 'p', 'e', '='] ++ spelling.toList := by
      simp [hletters '&' rfl]
    have hcut : cut '=' (['t', 'y', 'p', 'e'] ++ '=' :: spelling.toList) =
        some (['t', 'y', 'p', 'e'], spelling.toList) := cut_append _ (by decide)
    rw [String.toList_append, show "?type=".toList = ['?', 't', 'y', 'p', 'e', '='] by rfl,
      List.cons_append, List.tail_cons, pieces_of_not_mem hpiece, Host.readParameters,
      if_neg (by simp)]
    simp only [List.cons_append, List.nil_append] at hcut ⊢
    simp only [hcut, String.ofList_toList, hspelling]
    rfl

/-- The text of an endpoint is read back, with a type declared behind it and blanks around. -/
theorem parse_written {front back : String} (hname : e.name ≠ "")
    (hmarks : ∀ x ∈ ['[', ']', '?'], x ∉ e.name.toList) (htrimmed : Trimmed e.name.toList)
    (hdeclared : Declares tag declared) (hfront : ∀ x ∈ front.toList, isBlank x = true)
    (hback : ∀ x ∈ back.toList, isBlank x = true) :
    Host.parse (front ++ e.text ++ declared ++ back) = .ok { e with tag } := by
  have hne : e.name.toList ≠ [] := fun h => hname (String.toList_inj.1 h)
  have htext : ∀ x ∈ e.text.toList, decide (x ≠ '?') = true := fun x hx =>
    decide_eq_true fun h => mark_not_mem_text hmarks (h ▸ hx)
  have htrim : trim (front ++ e.text ++ declared ++ back).toList =
      e.text.toList ++ declared.toList := by
    simp only [String.toList_append, List.append_assoc]
    rw [← List.append_assoc e.text.toList, ← List.append_assoc front.toList]
    exact trim_append (hdeclared.trimmed hne htrimmed) hfront hback
  have haddress : Host.addressIn (front ++ e.text ++ declared ++ back) = e.text.toList := by
    rw [Host.addressIn, htrim, List.takeWhile_append_of_pos htext, hdeclared.takeWhile_eq_nil,
      List.append_nil]
  have hparameters : Host.parametersIn (front ++ e.text ++ declared ++ back) =
      declared.toList.tail := by
    rw [Host.parametersIn, htrim, List.dropWhile_append_of_pos htext, hdeclared.dropWhile_eq_self]
  rw [Host.parse_eq_ok_iff, haddress, hparameters]
  exact ⟨(spells_text hmarks).any_name, hname, hdeclared.read _⟩

/-- An IPv6 address with capitals in the type. -/
theorem parse_written_primary :
    Host.parse ("\t" ++ ({ name := "fe80::1", port := 3307 } : Endpoint).text ++
      ("?type=" ++ "Primary") ++ " \n") =
        .ok { name := "fe80::1", port := 3307, tag := some .master } := by
  have hspelling : HostTag.parse "Primary" = .ok .master := by
    rw [HostTag.parse, show "Primary".toLower = "primary" by decide +kernel]
    rfl
  exact parse_written (by decide) (by simp) ⟨by simp [isBlank], by simp [isBlank]⟩
    (.type hspelling) (by simp [isBlank]) (by simp [isBlank])

end Texts

end Failover
