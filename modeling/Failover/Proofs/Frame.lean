import Failover.Election
import Failover.Proofs.Action
import Mathlib.Data.Set.Insert
import Mathlib.Logic.Relation

/-!
# What actions leave alone

Most of what an election does happens beside the handles: it logs, looks up the blacklist, opens
and closes sessions and calls them, and neither binds a session nor runs a command on one
(`World.Beside`). Logging, the blacklist and the order of the hosts do not even concern a session
(`World.Still`), and they always come to an end (`Act.Harmless`). What does touch handles is told by
the sessions it touches: of all others known before, the handle and the last verdict stay as they
were (`World.Onward`). No action of an election runs a command, and all of them only add to the
journal.
-/

namespace Failover

open Act

/-- The verdict of an event on a session. -/
def Event.verdictOn (n : SessionId) : Event → Option Verdict
  | .judged m v => if m = n then some v else none
  | _ => none

/-- Whether a command was handed to a session. -/
def Event.isRun : Event → Bool
  | .ran _ _ => true
  | _ => false

/-- Whether the session begins with the event. -/
def Event.opens (n : SessionId) : Event → Bool
  | .opened _ m => m = n
  | _ => false

/-- The last verdict on a session in a journal, newest entry first. -/
def latestVerdict (n : SessionId) (journal : List Entry) : Option Verdict :=
  journal.findSome? (·.event.verdictOn n)

theorem latestVerdict_append {n : SessionId} {new journal : List Entry}
    (h : ∀ e ∈ new, e.event.verdictOn n = none) :
    latestVerdict n (new ++ journal) = latestVerdict n journal := by
  unfold latestVerdict
  rw [List.findSome?_append, List.findSome?_eq_none_iff.2 h, Option.none_or]

namespace World

variable {σ : Type}

/-- The journal has only grown, by events of a kind. -/
def Adds (kind : Event → Prop) (w w' : World σ) : Prop :=
  ∃ new, w'.journal = new ++ w.journal ∧ ∀ e ∈ new, kind e.event

section Adds

variable {kind : Event → Prop} {u v w : World σ}

theorem Adds.refl (w : World σ) : w.Adds kind w := ⟨[], rfl, by simp⟩

theorem Adds.trans (h : u.Adds kind v) (h' : v.Adds kind w) : u.Adds kind w := by
  obtain ⟨xs, hx, hxs⟩ := h
  obtain ⟨ys, hy, hys⟩ := h'
  refine ⟨ys ++ xs, by rw [hy, hx, List.append_assoc], ?_⟩
  intro e he
  rcases List.mem_append.1 he with he | he
  · exact hys e he
  · exact hxs e he

theorem Adds.mono {kind' : Event → Prop} (h : u.Adds kind v) (hk : ∀ e, kind e → kind' e) :
    u.Adds kind' v := by
  obtain ⟨new, hj, hn⟩ := h
  exact ⟨new, hj, fun e he => hk _ (hn e he)⟩

theorem Adds.suffix (h : u.Adds kind v) : u.journal <:+ v.journal := by
  obtain ⟨new, hj, -⟩ := h
  exact ⟨new, hj.symm⟩

/-- What is new since `u` in front of which more came. -/
theorem Adds.entry {x : Entry} {past : List Entry} (h : u.Adds kind v)
    (hx : x :: past <:+ v.journal) (hu : u.journal <:+ past) :
    kind x.event ∧ ∃ new, past = new ++ u.journal ∧ ∀ e ∈ new, kind e.event := by
  obtain ⟨new, hj, hn⟩ := h
  obtain ⟨later, hl⟩ := hx
  obtain ⟨earlier, rfl⟩ := hu
  have he : later ++ x :: earlier = new := by
    refine List.append_cancel_right (?_ : _ ++ u.journal = new ++ u.journal)
    rw [← hj, ← hl, List.append_assoc, List.cons_append]
  refine ⟨hn x ?_, earlier, rfl, fun e hm => hn e ?_⟩
  · simp [← he]
  · simp [← he, hm]

/-- What is in the journal was there before, or is new. -/
theorem Adds.entry_cases {x : Entry} {past : List Entry} (h : u.Adds kind v)
    (hx : x :: past <:+ v.journal) :
    x :: past <:+ u.journal ∨ kind x.event ∧ u.journal <:+ past := by
  rcases List.suffix_or_suffix_of_suffix hx h.suffix with hold | hnew
  · exact .inl hold
  rcases List.suffix_cons_iff.1 hnew with heq | hpast
  · exact .inl (heq ▸ List.suffix_rfl)
  · exact .inr ⟨(h.entry hx hpast).1, hpast⟩

theorem adds_of_eq (h : v.journal = u.journal) : u.Adds kind v := ⟨[], h, by simp⟩

theorem adds_cons {e : Entry} (h : v.journal = e :: u.journal) (hk : kind e.event) :
    u.Adds kind v :=
  ⟨[e], h, by simpa using hk⟩

theorem Adds.latestVerdict {n : SessionId} (h : u.Adds (fun e => e.verdictOn n = none) v) :
    latestVerdict n v.journal = latestVerdict n u.journal := by
  obtain ⟨new, hj, hn⟩ := h
  rw [hj, latestVerdict_append hn]

end Adds

/-- No handle is ever given up. -/
def Keeps (w w' : World σ) : Prop :=
  ∀ n, (w.handles.get? n).isSome = true → (w'.handles.get? n).isSome = true

/-- No command was handed to a session. -/
structure Quiet (w w' : World σ) : Prop where
  adds : w.Adds (fun e => e.isRun = false) w'
  keeps : w.Keeps w'

/-- Neither the handles nor the verdicts changed, and no command was handed to a session. -/
structure Beside (w w' : World σ) : Prop where
  opened : w.opened ≤ w'.opened
  handles : w'.handles = w.handles
  adds : w.Adds (fun e => e.isRun = false ∧ ∀ n, e.verdictOn n = none) w'

/-- Numbers were drawn, one after another. -/
def Drawn [Cluster σ] : σ → σ → Prop :=
  Relation.ReflTransGen fun s s' => ∃ bound, s' = (Cluster.draw bound s).2

/-- No session was opened or called, and no handle was touched. -/
structure Still [Cluster σ] (w w' : World σ) : Prop where
  servers : Drawn w.servers w'.servers
  opened : w'.opened = w.opened
  handles : w'.handles = w.handles
  journal : w'.journal = w.journal

/-- Handles are of sessions that were opened, and one that is pinned as a master's was judged to
be one at last. -/
structure Orderly (w : World σ) : Prop where
  known : ∀ n h, w.handles.get? n = some h → n ≤ w.opened
  trusted : ∀ n h, w.handles.get? n = some h → h.role = .master →
    latestVerdict n w.journal = some (.role .master)

/-- No command was handed to a session, and but for those `touched`, the handles and verdicts of
the sessions opened before are the same. -/
structure Onward (touched : Set SessionId) (w w' : World σ) : Prop where
  opened : w.opened ≤ w'.opened
  quiet : w.Quiet w'
  handle : ∀ n ≤ w.opened, n ∉ touched → w'.handles.get? n = w.handles.get? n
  verdict : ∀ n ≤ w.opened, n ∉ touched →
    latestVerdict n w'.journal = latestVerdict n w.journal
  orderly : w.Orderly → w'.Orderly

section Relations

variable {touched touched' : Set SessionId} {u v w w' : World σ}

theorem Keeps.trans (h : u.Keeps v) (h' : v.Keeps w) : u.Keeps w := fun n hn => h' n (h n hn)

theorem keeps_of_eq (h : v.handles = u.handles) : u.Keeps v := fun n hn => by rwa [h]

theorem keeps_put (h : Handle) : w.Keeps { w with handles := w.handles.put h } := by
  intro n hn
  change ((w.handles.put h).get? n).isSome = true
  rw [Handles.get?_put]
  split_ifs
  · rfl
  · exact hn

theorem Quiet.refl (w : World σ) : w.Quiet w := ⟨Adds.refl w, keeps_of_eq rfl⟩

theorem Quiet.trans (h : u.Quiet v) (h' : v.Quiet w) : u.Quiet w :=
  ⟨h.adds.trans h'.adds, h.keeps.trans h'.keeps⟩

theorem Beside.refl (w : World σ) : w.Beside w := ⟨le_rfl, rfl, Adds.refl w⟩

/-- One entry was added, which tells neither of a command that ran nor of a verdict. -/
theorem Beside.of_noted {e : Entry} (hopened : w.opened ≤ w'.opened)
    (hhandles : w'.handles = w.handles) (hjournal : w'.journal = e :: w.journal)
    (hrun : e.event.isRun = false) (hverdict : ∀ n, e.event.verdictOn n = none) : w.Beside w' where
  opened := hopened
  handles := hhandles
  adds := adds_cons hjournal ⟨hrun, hverdict⟩

theorem Beside.trans (h : u.Beside v) (h' : v.Beside w) : u.Beside w :=
  ⟨h.opened.trans h'.opened, h'.handles.trans h.handles, h.adds.trans h'.adds⟩

theorem Beside.quiet (h : u.Beside v) : u.Quiet v :=
  ⟨h.adds.mono fun _ he => he.1, keeps_of_eq h.handles⟩

theorem Beside.latestVerdict (h : u.Beside v) (n : SessionId) :
    latestVerdict n v.journal = latestVerdict n u.journal :=
  (h.adds.mono fun _ he => he.2 n).latestVerdict

theorem Beside.orderly (h : u.Beside v) (hu : u.Orderly) : v.Orderly where
  known n x hx := (hu.known n x (h.handles ▸ hx)).trans h.opened
  trusted n x hx hr := (h.latestVerdict n).trans (hu.trusted n x (h.handles ▸ hx) hr)

theorem Beside.onward (h : u.Beside v) : u.Onward touched v where
  opened := h.opened
  quiet := h.quiet
  handle n _ _ := by rw [h.handles]
  verdict n _ _ := h.latestVerdict n
  orderly := h.orderly

theorem Still.refl [Cluster σ] (w : World σ) : w.Still w := ⟨.refl, rfl, rfl, rfl⟩

theorem Still.trans [Cluster σ] (h : u.Still v) (h' : v.Still w) : u.Still w :=
  ⟨h.servers.trans h'.servers, h'.opened.trans h.opened, h'.handles.trans h.handles,
    h'.journal.trans h.journal⟩

theorem Still.beside [Cluster σ] (h : u.Still v) : u.Beside v :=
  ⟨h.opened.ge, h.handles, adds_of_eq h.journal⟩

theorem Onward.refl (w : World σ) : w.Onward touched w := (Beside.refl w).onward

/-- Sessions that are opened on the way may be touched as well. -/
theorem Onward.trans (h : u.Onward touched v) (h' : v.Onward touched' w)
    (ht : ∀ n ∈ touched', n ≤ u.opened → n ∈ touched) : u.Onward touched w where
  opened := h.opened.trans h'.opened
  quiet := h.quiet.trans h'.quiet
  handle n hn hm := by
    rw [h'.handle n (hn.trans h.opened) fun hm' => hm (ht n hm' hn), h.handle n hn hm]
  verdict n hn hm := by
    rw [h'.verdict n (hn.trans h.opened) fun hm' => hm (ht n hm' hn), h.verdict n hn hm]
  orderly hu := h'.orderly (h.orderly hu)

theorem Onward.widen (h : u.Onward touched v) (ht : touched ⊆ touched') : u.Onward touched' v where
  opened := h.opened
  quiet := h.quiet
  handle n hn hm := h.handle n hn fun hm' => hm (ht hm')
  verdict n hn hm := h.verdict n hn fun hm' => hm (ht hm')
  orderly := h.orderly

theorem Onward.beside (h : u.Onward touched v) (h' : v.Beside w) : u.Onward touched w :=
  h.trans (h'.onward : v.Onward ∅ w) (by simp)

theorem Beside.andOnward (h : u.Beside v) (h' : v.Onward touched w) : u.Onward touched w :=
  h.onward.trans h' fun _ hn _ => hn

theorem onward_judged {n : SessionId} (v : Verdict)
    (hr : ∀ h, w.handles.get? n = some h → h.role ≠ .master) :
    w.Onward {n} (w.noting (.judged n v)) := by
  have other (m : SessionId) (hm : m ≠ n) :
      latestVerdict m (w.noting (.judged n v)).journal = latestVerdict m w.journal := by
    simp [noting, latestVerdict, Event.verdictOn, Ne.symm hm]
  have trusted (hw : w.Orderly) (m : SessionId) (h : Handle) (hh : w.handles.get? m = some h)
      (hm : h.role = .master) :
      latestVerdict m (w.noting (.judged n v)).journal = some (.role .master) := by
    have hne : m ≠ n := by
      rintro rfl
      exact hr h hh hm
    rw [other m hne, hw.trusted m h hh hm]
  exact {
    opened := le_rfl
    quiet := ⟨adds_cons rfl rfl, keeps_of_eq rfl⟩
    handle := fun _ _ _ => rfl
    verdict := fun m _ hm => other m hm
    orderly := fun hw => ⟨hw.known, trusted hw⟩ }

theorem onward_put {h : Handle} (hn : h.session ≤ w.opened)
    (hv : h.role = .master → latestVerdict h.session w.journal = some (.role .master)) :
    w.Onward {h.session} { w with handles := w.handles.put h } := by
  have get (n : SessionId) : (w.handles.put h).get? n = if n = h.session then some h
      else w.handles.get? n := Handles.get?_put _ _ _
  constructor
  case opened => exact le_rfl
  case quiet => exact ⟨adds_of_eq rfl, keeps_put h⟩
  case handle =>
    intro m _ hm
    rw [get, if_neg fun he => hm (Set.mem_singleton_iff.2 he)]
  case verdict =>
    intro _ _ _
    rfl
  case orderly =>
    intro hw
    constructor
    · intro m x hx
      rw [get] at hx
      split_ifs at hx with hm
      · rw [hm]
        exact hn
      · exact hw.known m x hx
    · intro m x hx hr
      rw [get] at hx
      split_ifs at hx with hm
      · obtain rfl := Option.some.inj hx
        rw [hm]
        exact hv hr
      · exact hw.trusted m x hx hr

end Relations

end World

open World

variable {σ α β : Type}

namespace Act

/-! ## Actions beside the handles -/

theorem meets_bind_beside {x : Act σ α} {f : α → Act σ β} {u w : World σ}
    {post : β → World σ → Prop} (hx : x.Always Beside) (hw : u.Quiet w)
    (hf : ∀ a w', w.Beside w' → (f a).Meets w' post u.Quiet) : (x >>= f).Meets w post u.Quiet :=
  meets_bind ((hx.meets w).mono (fun _ _ h => h) fun _ h => hw.trans h.quiet) hf

theorem beside_change {g : World σ → World σ} (ho : ∀ w, w.opened ≤ (g w).opened)
    (hh : ∀ w, (g w).handles = w.handles) (hj : ∀ w, (g w).journal = w.journal) :
    (change g).Always Beside :=
  always_change fun w => ⟨ho w, hh w, adds_of_eq (hj w)⟩

theorem beside_log (level : LogLevel) (text : String) :
    (log level text : Act σ Unit).Always Beside :=
  beside_change (fun _ => le_rfl) (fun _ => rfl) fun _ => rfl

theorem meets_log {level : LogLevel} {text : String} {w : World σ} {post : Unit → World σ → Prop}
    {stuck : World σ → Prop} (h : ∀ w', w.Beside w' → post () w') :
    (log level text).Meets w post stuck :=
  h _ (beside_log level text w)

section Servers

variable [Cluster σ]

theorem meets_call {n : SessionId} {r : Request} {w : World σ}
    {post : Except Error QueryResult → World σ → Prop} {stuck : World σ → Prop}
    (answered : ∀ wait result servers, Cluster.call n r w.servers = (.answer wait result, servers) →
      post result { w.noting (.called n r (.answer wait result)) with
        servers := servers, now := w.now + wait })
    (silent : ∀ servers, Cluster.call n r w.servers = (.silence, servers) →
      stuck { w.noting (.called n r .silence) with servers := servers }) :
    (call n r).Meets w post stuck := by
  unfold Meets call
  rcases hc : Cluster.call n r w.servers with ⟨⟨wait, result⟩ | _, servers⟩
  · exact answered wait result servers hc
  · exact silent servers hc

/-- A relation between a world and those in which the call was noted, whatever came of it. -/
theorem always_call {n : SessionId} {r : Request} {R : World σ → World σ → Prop}
    (h : ∀ (w : World σ) (reply : Reply) (servers : σ) (now : Nat),
      R w { w.noting (.called n r reply) with servers := servers, now := now }) :
    (call n r).Always R := by
  refine always_of_meets fun w => meets_call ?_ ?_
  · intro wait result servers _
    exact h w (.answer wait result) servers (w.now + wait)
  · intro servers _
    exact h w .silence servers w.now

theorem beside_call (n : SessionId) (r : Request) : (call n r : Act σ _).Always Beside := by
  apply always_call
  intro w reply servers now
  exact .of_noted le_rfl rfl rfl rfl fun _ => rfl

theorem meets_hangUp_of {n : SessionId} {w : World σ} {post : Option Error → World σ → Prop}
    {stuck : World σ → Prop} (h : ∀ wait o servers, Cluster.close n w.servers = (wait, o, servers) →
      post o ({ w with servers := servers, now := w.now + wait }.noting (.closed n))) :
    (hangUp n).Meets w post stuck :=
  h _ _ _ rfl

theorem always_hangUp {n : SessionId} {R : World σ → World σ → Prop}
    (h : ∀ (w : World σ) (servers : σ) (now : Nat),
      R w ({ w with servers := servers, now := now }.noting (.closed n))) :
    (hangUp n).Always R := by
  refine always_of_meets fun w => meets_hangUp_of ?_
  intro wait o servers _
  exact h w servers (w.now + wait)

theorem meets_hangUp {n : SessionId} {w : World σ} {post : Option Error → World σ → Prop}
    {stuck : World σ → Prop} (h : ∀ o w', w.Beside w' → post o w') :
    (hangUp n).Meets w post stuck := by
  apply meets_hangUp_of
  intro wait o servers _
  exact h o _ (.of_noted le_rfl rfl rfl rfl fun _ => rfl)

theorem meets_connect_of {h : Host} {w : World σ} {post : Except Error SessionId → World σ → Prop}
    {stuck : World σ → Prop}
    (refused : ∀ wait e servers, Cluster.connect h (w.opened + 1) w.servers =
      (wait, .error e, servers) → post (.error e)
        ({ w with servers := servers, now := w.now + wait }.noting (.refused h e)))
    (opened : ∀ wait servers, Cluster.connect h (w.opened + 1) w.servers =
      (wait, .ok (), servers) → post (.ok (w.opened + 1))
        { { w with servers := servers, now := w.now + wait }.noting (.opened h (w.opened + 1)) with
          opened := w.opened + 1 }) :
    (connect h).Meets w post stuck := by
  unfold Meets connect
  rcases hc : Cluster.connect h (w.opened + 1) w.servers with ⟨wait, _ | _, servers⟩ <;>
    simp only [hc]
  · exact refused _ _ _ hc
  · exact opened _ _ hc

theorem meets_connect {h : Host} {w : World σ} {post : Except Error SessionId → World σ → Prop}
    {stuck : World σ → Prop} (refused : ∀ e w', w.Beside w' → post (.error e) w')
    (opened : ∀ w', w.Beside w' → w'.opened = w.opened + 1 → post (.ok (w.opened + 1)) w') :
    (connect h).Meets w post stuck := by
  apply meets_connect_of
  · intro wait e servers _
    exact refused e _ (.of_noted le_rfl rfl rfl rfl fun _ => rfl)
  · intro wait servers _
    exact opened _ (.of_noted (Nat.le_succ _) rfl rfl rfl fun _ => rfl) rfl

end Servers

/-! ## Actions that concern no session -/

/-- Always comes to an end, and concerns no session. -/
def Harmless [Cluster σ] (x : Act σ α) : Prop :=
  ∀ w : World σ, ∃ a, ∃ w' : World σ, x w = (some a, w') ∧ w.Still w'

section Harmless

variable [Cluster σ] {w : World σ} {stuck : World σ → Prop}

theorem Harmless.meets {x : Act σ α} {post : α → World σ → Prop} (hx : x.Harmless)
    (h : ∀ a w', w.Still w' → post a w') : x.Meets w post stuck := by
  obtain ⟨a, w', hw, hs⟩ := hx w
  unfold Meets
  rw [hw]
  exact h a w' hs

theorem meets_bind_harmless {x : Act σ α} {f : α → Act σ β} {post : β → World σ → Prop}
    (hx : x.Harmless) (hf : ∀ a w', w.Still w' → (f a).Meets w' post stuck) :
    (x >>= f).Meets w post stuck :=
  meets_bind (hx.meets fun _ _ h => h) hf

theorem harmless_pure (a : α) : (pure a : Act σ α).Harmless := fun w => ⟨a, w, rfl, Still.refl w⟩

theorem harmless_ask (g : World σ → α) : (ask g).Harmless := fun w => ⟨g w, w, rfl, Still.refl w⟩

theorem harmless_change {g : World σ → World σ} (hg : ∀ w : World σ, w.Still (g w)) :
    (change g).Harmless :=
  fun w => ⟨(), g w, rfl, hg w⟩

theorem harmless_bind {x : Act σ α} {f : α → Act σ β} (hx : x.Harmless)
    (hf : ∀ a, (f a).Harmless) : (x >>= f).Harmless := by
  intro w
  obtain ⟨a, w₁, hx, h₁⟩ := hx w
  obtain ⟨b, w₂, hf, h₂⟩ := hf a w₁
  exact ⟨b, w₂, bind_eq_some.2 ⟨a, w₁, hx, hf⟩, h₁.trans h₂⟩

theorem harmless_log (level : LogLevel) (text : String) :
    (log level text : Act σ Unit).Harmless :=
  harmless_change fun _ => ⟨.refl, rfl, rfl, rfl⟩

theorem harmless_blacklist (h : Host) : (blacklist h : Act σ Unit).Harmless :=
  harmless_bind (harmless_change fun _ => ⟨.refl, rfl, rfl, rfl⟩) fun _ => harmless_log _ _

theorem harmless_forgive (h : Host) : (forgive h : Act σ Unit).Harmless := by
  refine harmless_bind (harmless_ask _) fun known => ?_
  split_ifs
  · exact harmless_bind (harmless_change fun _ => ⟨.refl, rfl, rfl, rfl⟩) fun _ => harmless_log _ _
  · exact harmless_pure _

theorem meets_draw {bound : Nat} {post : Nat → World σ → Prop} (hb : 0 < bound)
    (h : ∀ k w', k < bound → w.Still w' → post k w') : (draw bound).Meets w post stuck :=
  h _ _ (Nat.mod_lt _ hb) ⟨.single ⟨bound, rfl⟩, rfl, rfl, rfl⟩

theorem meets_shuffle : ∀ {xs : List α} {w : World σ} {post : List α → World σ → Prop},
    (∀ ys w', ys.Perm xs → w.Still w' → post ys w') → (shuffle xs).Meets w post stuck
  | [], w, post, h => meets_pure (h [] w (.refl _) (Still.refl w))
  | x :: rest, w, post, h => by
    unfold shuffle
    refine meets_bind (m := fun ys w' => ys.Perm rest ∧ w.Still w')
      (meets_shuffle fun _ _ hp h₁ => ⟨hp, h₁⟩) ?_
    rintro ys w₁ ⟨hp, h₁⟩
    refine meets_bind (m := fun k w' => k < ys.length + 1 ∧ w₁.Still w')
      (meets_draw (Nat.succ_pos _) fun _ _ hk h₂ => ⟨hk, h₂⟩) ?_
    rintro k w₂ ⟨hk, h₂⟩
    refine meets_pure (h _ _ ?_ (h₁.trans h₂))
    exact (List.perm_insertIdx x ys (Nat.lt_succ_iff.1 hk)).trans (hp.cons x)

end Harmless

/-- A relation that holds where something is logged, and composes, whatever the clock says. -/
structure Framing (R : World σ → World σ → Prop) : Prop where
  refl : ∀ w : World σ, R w w
  logs : ∀ (w : World σ) (line : LogLine), R w { w with log := line :: w.log }
  trans : ∀ {u v w : World σ}, R u v → R v w → R u w
  now : ∀ {w w' : World σ} {t : Nat}, R w w' → R w { w' with now := t }

/-- A relation that holds wherever no session is concerned. -/
theorem framing_of_still [Cluster σ] {R : World σ → World σ → Prop}
    (still : ∀ {w w' : World σ}, w.Still w' → R w w')
    (trans : ∀ {u v w : World σ}, R u v → R v w → R u w)
    (now : ∀ {w w' : World σ} {t : Nat}, R w w' → R w { w' with now := t }) : Framing R where
  refl w := still (Still.refl w)
  logs _ _ := still ⟨.refl, rfl, rfl, rfl⟩
  trans := trans
  now := now

namespace Framing

variable {R : World σ → World σ → Prop} (hR : Framing R)

include hR

theorem bind {x : Act σ α} {f : α → Act σ β} (hx : x.Always R) (hf : ∀ a, (f a).Always R) :
    (x >>= f).Always R :=
  always_bind (fun _ _ _ => hR.trans) hx hf

theorem pure (a : α) : (pure a : Act σ α).Always R := hR.refl

theorem ask (g : World σ → α) : (ask g).Always R := hR.refl

theorem log (level : LogLevel) (text : String) : (log level text : Act σ Unit).Always R :=
  fun w => hR.logs w ⟨level, text⟩

theorem within {limit : Nat} {x : Act σ α} (hx : x.Always R) : (within limit x).Always R :=
  always_within hx fun _ _ _ h => hR.now h

variable [Cluster σ]

theorem roleOf {t : Topology} {h : Host} {n : SessionId}
    (hprobe : (call n (.query roleProbe)).Always R) : (t.roleOf h n).Always R := by
  unfold Topology.roleOf
  split
  · exact hR.pure _
  · exact hR.pure _
  · exact hR.pure _
  · refine hR.bind hprobe fun result => ?_
    split <;> exact hR.pure _

theorem namedMaster {d : Deployment} {h : Host} {n : SessionId} {waiting : List Host}
    (hlookup : (call n (.query masterLookup)).Always R) :
    (namedMaster d h n waiting).Always R := by
  have reported : (d.config.topology.reportedMaster n d.hosts).Always R := by
    unfold Topology.reportedMaster
    split
    · refine hR.bind hlookup fun result => ?_
      split <;> exact hR.pure _
    · exact hR.pure _
  have logged {text : String} {named : Option Endpoint} :
      (do Act.log .debug text; return named : Act σ _).Always R :=
    hR.bind (hR.log _ _) fun _ => hR.pure named
  unfold Failover.namedMaster
  refine hR.bind (hR.within reported) fun named => ?_
  split
  · exact hR.pure _
  · split
    · exact logged
    · exact hR.pure _
  · exact logged
  · exact logged

theorem judge {t : Topology} {limit : Nat} {h : Host} {n : SessionId}
    (hprobe : (call n (.query roleProbe)).Always R)
    (hnote : ∀ v, (note (.judged n v) : Act σ Unit).Always R) : (t.judge limit h n).Always R := by
  unfold Topology.judge
  exact hR.bind (hR.within (hR.roleOf hprobe)) fun outcome =>
    hR.bind (hnote _) fun _ => hR.pure _

theorem followCatalog {c : Connection} {h : Handle}
    (hselect : ∀ sql, (call h.session (.execute sql)).Always R) :
    (followCatalog c h).Always R := by
  unfold Failover.followCatalog
  split
  · refine hR.bind (hselect _) fun result => ?_
    split
    · exact hR.log _ _
    · exact hR.pure _
  · exact hR.pure _

section Closing

variable (hkeep : ∀ h : Handle, (keep h : Act σ Unit).Always R)
  (hhangUp : ∀ n : SessionId, (hangUp n : Act σ _).Always R)

include hkeep hhangUp

theorem handleClose (h : Handle) : (h.close : Act σ Unit).Always R := by
  unfold Handle.close
  split
  · exact hR.pure _
  refine hR.bind (hkeep _) fun _ => hR.bind (hhangUp _) fun o => ?_
  split
  · exact hR.log _ _
  · exact hR.pure _

theorem closeSession (n : SessionId) : (closeSession n : Act σ Unit).Always R := by
  unfold Failover.closeSession
  refine hR.bind (hR.ask _) fun x => ?_
  split
  · exact hR.handleClose hkeep hhangUp _
  · exact hR.pure _

theorem closeSlot (slot : Option Slot) : (closeSlot slot : Act σ Unit).Always R := by
  cases slot with
  | none => exact hR.pure _
  | some s => exact hR.closeSession hkeep hhangUp s.session

end Closing

end Framing

theorem framing_beside [Cluster σ] : Framing (Beside (σ := σ)) :=
  framing_of_still Still.beside Beside.trans fun h => ⟨h.opened, h.handles, h.adds⟩

end Act

section Sessions

variable [Cluster σ]

theorem beside_followCatalog (c : Connection) (h : Handle) :
    (followCatalog c h : Act σ _).Always Beside :=
  framing_beside.followCatalog fun _ => beside_call _ _

theorem beside_namedMaster (d : Deployment) (h : Host) (n : SessionId) (waiting : List Host) :
    (namedMaster d h n waiting : Act σ _).Always Beside :=
  framing_beside.namedMaster (beside_call _ _)

theorem harmless_isExcluded (h : Host) (timeout : Nat) :
    (isExcluded h timeout : Act σ _).Harmless :=
  harmless_bind (harmless_ask _) fun _ =>
    harmless_bind (harmless_change fun _ => ⟨.refl, rfl, rfl, rfl⟩) fun _ => harmless_pure _

section Order

variable {w : World σ} {stuck : World σ → Prop}

theorem meets_splitExcluded {timeout : Nat} : ∀ {hosts : List Host} {w : World σ}
    {post : List Host × List Host → World σ → Prop},
    (∀ x w', (x.1 ++ x.2).Perm hosts → w.Still w' → post x w') →
      (splitExcluded timeout hosts).Meets w post stuck
  | [], w, post, h => meets_pure (h ([], []) w (.refl _) (Still.refl w))
  | host :: rest, w, post, h => by
    unfold splitExcluded
    refine meets_bind_harmless (harmless_isExcluded host timeout) fun excluded w₁ h₁ => ?_
    refine meets_bind (m := fun x w' => (x.1 ++ x.2).Perm rest ∧ w₁.Still w')
      (meets_splitExcluded fun _ _ hp h₂ => ⟨hp, h₂⟩) ?_
    rintro ⟨fresh, stale⟩ w₂ ⟨hp, h₂⟩
    refine meets_pure (h _ _ ?_ (h₁.trans h₂))
    cases excluded with
    | true => exact List.perm_middle.trans (hp.cons host)
    | false => exact hp.cons host

theorem meets_order {t : Topology} {l : LoadBalance} {hosts : List Host}
    {post : List Host → World σ → Prop} (h : ∀ hs w', hs.Perm hosts → w.Still w' → post hs w') :
    (t.order l hosts).Meets w post stuck := by
  unfold Topology.order
  split_ifs
  · exact meets_shuffle h
  · exact meets_pure (h hosts w (.refl _) (Still.refl w))

/-- A pass goes over all hosts without a live session, in some order. -/
theorem meets_passOrder {d : Deployment} {c : Connection} {post : List Host → World σ → Prop}
    (h : ∀ hs w', hs.Perm (d.hosts.filter fun h => !c.isBound h) → w.Still w' → post hs w') :
    (passOrder d c).Meets w post stuck := by
  unfold passOrder
  refine meets_bind (m := fun x w' => (x.1 ++ x.2).Perm (d.hosts.filter fun h => !c.isBound h) ∧
    w.Still w') (meets_splitExcluded fun _ _ hp h₁ => ⟨hp, h₁⟩) ?_
  rintro ⟨fresh, excluded⟩ w₁ ⟨hp, h₁⟩
  refine meets_bind (m := fun hs w' => hs.Perm fresh ∧ w₁.Still w')
    (meets_order fun _ _ hp h₂ => ⟨hp, h₂⟩) ?_
  rintro hs w₂ ⟨hp₂, h₂⟩
  exact meets_pure (h _ _ ((hp₂.append_right _).trans hp) (h₁.trans h₂))

end Order

end Sessions

/-! ## Asking for a role -/

/-- The role that a host has by the topology alone. -/
def Topology.declared (t : Topology) (h : Host) : Option Role :=
  match t with
  | standalone | multiMaster => some .master
  | replication => some (if h.tag = some .master then .master else .replica)
  | aurora => none

/-- The role that a reply to the probe shows, if it comes in time. -/
def Reply.shownRole (limit : Nat) : Reply → Option Role
  | .answer wait (.ok r) => if wait ≤ limit then some (probedRole r) else none
  | _ => none

def Verdict.ofOutcome : Option (Except Error Role) → Verdict
  | some (.ok r) => .role r
  | some (.error e) => .failed e
  | none => .unanswered

/-- How a verdict on a session came about: the role is declared, or a reply to the probe shows
it. -/
inductive Judged [Cluster σ] (t : Topology) (limit : Nat) (h : Host) (n : SessionId)
    (w : World σ) : Verdict → World σ → Prop
  | declared (r : Role) (known : t.declared h = some r) : Judged t limit h n w (.role r) w
  | probed {v : Verdict} {reply : Reply} {servers : σ} {now : Nat} (hidden : t.declared h = none)
      (called : Cluster.call n (.query roleProbe) w.servers = (reply, servers))
      (shows : ∀ r, v = .role r ↔ reply.shownRole limit = some r) :
      Judged t limit h n w v
        { w.noting (.called n (.query roleProbe) reply) with servers := servers, now := now }

section Judge

variable [Cluster σ]

theorem Judged.beside {t : Topology} {limit : Nat} {h : Host} {n : SessionId} {v : Verdict}
    {w w' : World σ} (hv : Judged t limit h n w v w') : w.Beside w' := by
  cases hv with
  | declared r known => exact Beside.refl w
  | probed hidden called shows => exact .of_noted le_rfl rfl rfl rfl fun _ => rfl

/-- Whatever comes of asking for a role for so long, the verdict follows from it. -/
theorem meets_asked {t : Topology} {limit : Nat} {h : Host} {n : SessionId} {w : World σ}
    {stuck : World σ → Prop} : (within limit (t.roleOf h n)).Meets w
      (fun outcome w' => Judged t limit h n w (.ofOutcome outcome) w') stuck := by
  refine meets_within ?_
  have declared (r : Role) (known : t.declared h = some r) : (pure (.ok r) : Act σ _).Meets w
      (fun a w' => (w'.now ≤ w.now + limit → Judged t limit h n w (.ofOutcome (some a)) w') ∧
        (w.now + limit < w'.now →
          Judged t limit h n w (.ofOutcome none) { w' with now := w.now + limit }))
      fun w' => Judged t limit h n w (.ofOutcome none) { w' with now := w.now + limit } :=
    meets_pure ⟨fun _ => .declared r known,
      fun h => absurd h (Nat.not_lt.2 (Nat.le_add_right _ _))⟩
  cases t with
  | standalone => exact declared .master rfl
  | multiMaster => exact declared .master rfl
  | replication => exact declared _ rfl
  | aurora =>
    refine meets_bind (m := fun result w' => ∃ wait servers,
      Cluster.call n (.query roleProbe) w.servers = (.answer wait result, servers) ∧
        w' = { w.noting (.called n (.query roleProbe) (.answer wait result)) with
          servers := servers, now := w.now + wait })
      (meets_call (fun wait result servers hc => ⟨wait, servers, hc, rfl⟩) fun servers hc => ?_) ?_
    · exact .probed rfl hc fun r => by simp [Verdict.ofOutcome, Reply.shownRole]
    rintro result w' ⟨wait, servers, hc, rfl⟩
    cases result with
    | ok r =>
      apply meets_pure
      constructor
      · intro htime
        refine .probed rfl hc fun q => ?_
        simp [Verdict.ofOutcome, Reply.shownRole, Nat.le_of_add_le_add_left htime]
      · intro htime
        refine .probed rfl hc fun q => ?_
        simp [Verdict.ofOutcome, Reply.shownRole, Nat.not_le.2 (Nat.lt_of_add_lt_add_left htime)]
    | error e =>
      apply meets_pure
      constructor <;> intro _ <;> refine .probed rfl hc fun q => ?_
      · simp [Verdict.ofOutcome, Reply.shownRole]
      · simp [Verdict.ofOutcome, Reply.shownRole]

/-- Asking for a role always ends, and adds the verdict to the journal last of all. -/
theorem meets_judged {t : Topology} {limit : Nat} {h : Host} {n : SessionId} {w : World σ}
    {post : Verdict → World σ → Prop} {stuck : World σ → Prop}
    (hp : ∀ v w', Judged t limit h n w v w' → post v (w'.noting (.judged n v))) :
    (t.judge limit h n).Meets w post stuck := by
  unfold Topology.judge
  refine meets_bind meets_asked fun outcome w' hv => ?_
  refine meets_bind (m := fun _ w'' => w'' = _) (meets_change rfl) ?_
  rintro _ _ rfl
  exact meets_pure (hp _ _ hv)

end Judge

theorem meets_judge [Cluster σ] {d : Deployment} {limit : Nat} {h : Host} {n : SessionId}
    {w : World σ} {post : Verdict → World σ → Prop} {stuck : World σ → Prop}
    (hp : ∀ v w', w.Beside w' → post v (w'.noting (.judged n v))) :
    (d.config.topology.judge limit h n).Meets w post stuck :=
  meets_judged fun v w' hv => hp v w' hv.beside

end Failover
