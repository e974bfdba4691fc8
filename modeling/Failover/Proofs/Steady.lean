import Failover.Proofs.Election

/-!
# Steady clusters

Servers about which nothing changes: each host is up or down for good and always shows the same
role, a session leads to the host it was opened on until it is closed, and a host that is up
answers when a database is selected (`Regime.Steady`). Among such servers an attempt always ends,
and it binds its session exactly if the host is up and has a role that is wanted (`trial_steady`).
-/

namespace Failover

open Act World

/-- A view of the servers: the states in which nothing about them has changed, where the sessions
lead, and what the hosts are like. -/
structure Regime (σ : Type) where
  holds : σ → Prop
  /-- The session is open and leads to the endpoint. -/
  serves : σ → SessionId → Endpoint → Prop
  up : Endpoint → Bool
  /-- The role that the endpoint shows when it is asked, if it answers in time. -/
  shown : Endpoint → Option Role

namespace Regime

variable {σ : Type} (K : Regime σ)

/-- Nothing has changed, and all sessions but those `touched` lead where they led. -/
structure Goes (touched : Set SessionId) (s s' : σ) : Prop where
  holds : K.holds s'
  serves : ∀ n e, n ∉ touched → K.serves s n e → K.serves s' n e

/-- Nothing changes whatever a client does, and the hosts are what they are said to be. -/
structure Steady [Cluster σ] (limit : Nat) : Prop where
  connects : ∀ {h n s wait outcome s'}, K.holds s → Cluster.connect h n s = (wait, outcome, s') →
    K.Goes {n} s s' ∧ outcome.isOk = K.up h.toEndpoint ∧
      (K.up h.toEndpoint = true → K.serves s' n h.toEndpoint)
  calls : ∀ {n r s reply s'}, K.holds s → Cluster.call n r s = (reply, s') → K.Goes ∅ s s'
  closes : ∀ {n s wait outcome s'}, K.holds s → Cluster.close n s = (wait, outcome, s') →
    K.Goes {n} s s'
  draws : ∀ {bound s}, K.holds s → K.Goes ∅ s (Cluster.draw bound s).2
  probes : ∀ {n e s reply s'}, K.holds s → K.serves s n e →
    Cluster.call n (.query roleProbe) s = (reply, s') →
      reply.shownRole limit = if K.up e then K.shown e else none
  selects : ∀ {n e database s reply s'}, K.holds s → K.serves s n e → K.up e = true →
    Cluster.call n (.execute (Sql.useDatabase database)) s = (reply, s') →
      ∃ wait result, reply = .answer wait result

/-- Moreover, a host that is up answers every request without an error, and sessions to one that is
down are broken. -/
structure Obliging [Cluster σ] (limit : Nat) : Prop extends K.Steady limit where
  calls_end : ∀ {n e r s reply s'}, K.holds s → K.serves s n e → Cluster.call n r s = (reply, s') →
    ∃ wait result, reply = .answer wait result ∧ result.isOk = K.up e ∧
      ∀ x, result = .error x → x.isConnectionException = true

/-- The role that a host turns out to have when it is asked for. A declared role does not depend
on the host being up. -/
def verdict (t : Topology) (h : Host) : Option Role :=
  (t.declared h).or (if K.up h.toEndpoint then K.shown h.toEndpoint else none)

/-- The role of a host that is up. -/
def role (t : Topology) (h : Host) : Option Role :=
  if K.up h.toEndpoint then K.verdict t h else none

/-- Nothing has changed, and the sessions of a connection lead to the hosts of their slots. -/
structure Leads (c : Connection) (w : World σ) : Prop where
  holds : K.holds w.servers
  serves : ∀ r s, c.slot? r = some s → K.serves w.servers s.session s.host.toEndpoint

section Goes

variable {K} {touched touched' : Set SessionId} {s s' s'' : σ}

theorem Goes.refl (h : K.holds s) : K.Goes touched s s := ⟨h, fun _ _ _ => id⟩

theorem Goes.trans (h : K.Goes touched s s') (h' : K.Goes touched s' s'') :
    K.Goes touched s s'' :=
  ⟨h'.holds, fun n e hn hs => h'.serves n e hn (h.serves n e hn hs)⟩

theorem Goes.widen (h : K.Goes touched s s') (ht : touched ⊆ touched') : K.Goes touched' s s' :=
  ⟨h.holds, fun n e hn => h.serves n e fun hm => hn (ht hm)⟩

theorem up_of_role {t : Topology} {h : Host} {r : Role} (hr : K.role t h = some r) :
    K.up h.toEndpoint = true := by
  unfold role at hr
  split_ifs at hr with hup
  exact hup

theorem role_of_up {t : Topology} {h : Host} (hup : K.up h.toEndpoint = true) :
    K.role t h = K.verdict t h := if_pos hup

theorem eq_of_role {t : Topology} {h : Host} {r q : Role} (hr : K.role t h = some r)
    (hq : t.declared h = some q) : q = r := by
  rw [role_of_up (up_of_role hr)] at hr
  simpa [verdict, hq] using hr

theorem Leads.goes {c : Connection} {w w' : World σ} (h : K.Leads c w)
    (hw : K.Goes touched w.servers w'.servers)
    (ht : ∀ r s, c.slot? r = some s → s.session ∉ touched) : K.Leads c w' :=
  ⟨hw.holds, fun r s hs => hw.serves _ _ (ht r s hs) (h.serves r s hs)⟩

end Goes

namespace Steady

variable {K} [Cluster σ] {limit : Nat} {n : SessionId} {w w' : World σ}
  {touched : Set SessionId} (hK : K.Steady limit)

include hK

theorem drawn {s s' : σ} (hs : K.holds s) (h : Drawn s s') : K.Goes ∅ s s' := by
  induction h with
  | refl => exact .refl hs
  | tail _ hd ih =>
    obtain ⟨bound, rfl⟩ := hd
    exact ih.trans (hK.draws ih.holds)

theorem still {u : World σ} (hu : K.Goes touched u.servers w.servers) (h : w.Still w') :
    K.Goes touched u.servers w'.servers :=
  hu.trans ((hK.drawn hu.holds h.servers).widen (Set.empty_subset _))

theorem leads_still {c : Connection} (h : K.Leads c w) (hw : w.Still w') : K.Leads c w' :=
  h.goes (hK.drawn h.holds hw.servers) fun _ _ _ => Set.notMem_empty _

theorem judges {t : Topology} {h : Host} {post : Verdict → World σ → Prop}
    {stuck : World σ → Prop} (hw : K.holds w.servers) (hn : K.serves w.servers n h.toEndpoint)
    (hp : ∀ v w', K.Goes ∅ w.servers w'.servers → (∀ r, v = .role r ↔ K.verdict t h = some r) →
      w.Beside w' → post v (w'.noting (.judged n v))) :
    (t.judge limit h n).Meets w post stuck := by
  refine meets_judged fun v w' hv => ?_
  cases hv with
  | declared r known =>
    refine hp _ _ (.refl hw) ?_ (Beside.refl w)
    intro q
    simp [verdict, known]
  | @probed v reply servers now hidden called shows =>
    refine hp _ _ (hK.calls hw called) ?_ (Judged.probed hidden called shows).beside
    intro q
    rw [shows, hK.probes hw hn called]
    simp [verdict, hidden]

theorem looksUp {d : Deployment} {h : Host} {waiting : List Host}
    {post : Option Endpoint → World σ → Prop} {stuck : World σ → Prop} (hw : K.holds w.servers)
    (hp : ∀ named w', K.Goes ∅ w.servers w'.servers → post named w') :
    (namedMaster d h n waiting).Meets w post stuck := by
  have asked : (within d.connectTimeout
      (d.config.topology.reportedMaster n d.hosts : Act σ _)).Meets w
      (fun _ w' => K.Goes ∅ w.servers w'.servers) stuck := by
    refine meets_within ?_
    unfold Topology.reportedMaster
    split
    · refine meets_bind (m := fun _ w' => K.Goes ∅ w.servers w'.servers)
        (meets_call (fun _ _ _ hc => hK.calls hw hc) fun _ hc => hK.calls hw hc) fun x w₁ h₁ => ?_
      split <;> exact meets_pure ⟨fun _ => h₁, fun _ => h₁⟩
    · exact meets_pure ⟨fun _ => .refl hw, fun _ => .refl hw⟩
  unfold namedMaster
  refine meets_bind asked fun named w₁ h₁ => ?_
  have logged (level : LogLevel) (text : String) (x : Option Endpoint) :
      (do log level text; return x : Act σ _).Meets w₁ post stuck :=
    meets_bind_harmless (harmless_log level text) fun _ w₂ h₂ =>
      meets_pure (hp _ _ (hK.still h₁ h₂))
  split
  · exact meets_pure (hp _ _ h₁)
  · split
    · exact logged _ _ _
    · exact meets_pure (hp _ _ h₁)
  · exact logged _ _ _
  · exact logged _ _ _

theorem followsCatalog {c : Connection} {h : Handle} {e : Endpoint} {stuck : World σ → Prop}
    (hw : K.holds w.servers) (hn : K.serves w.servers h.session e) (hup : K.up e = true) :
    (followCatalog c h).Meets w (fun _ w' => K.Goes ∅ w.servers w'.servers) stuck := by
  unfold followCatalog
  split
  · refine meets_bind (m := fun _ w' => K.Goes ∅ w.servers w'.servers)
      (meets_call (fun _ _ _ hc => hK.calls hw hc) fun servers hc => ?_) fun result w₁ h₁ => ?_
    · obtain ⟨wait, result, h⟩ := hK.selects hw hn hup hc
      cases h
    · split
      · exact (harmless_log _ _).meets fun _ w₂ h₂ => hK.still h₁ h₂
      · exact meets_pure h₁
  · exact meets_pure (.refl hw)

theorem hangsUp {post : Option Error → World σ → Prop} {stuck : World σ → Prop}
    (hw : K.holds w.servers) (hp : ∀ o w', K.Goes {n} w.servers w'.servers → post o w') :
    (hangUp n).Meets w post stuck :=
  meets_hangUp_of fun _ _ _ hc => hp _ _ (hK.closes hw hc)

end Steady

end Regime

section Attempts

variable {σ : Type} [Cluster σ] {K : Regime σ} {d : Deployment} {w : World σ}

/-- An attempt always ends, and binds its session exactly if the host has a role that is wanted. -/
theorem trial_steady (hK : K.Steady d.connectTimeout) {h : Host} {e : Election}
    (hv : ∀ r, e.goal.wants r = true → e.connection.slot? r = none) : Trial d h e
    (fun n w' => n = w.opened + 1 ∧ K.Goes {n} w.servers w'.servers ∧
      K.serves w'.servers n h.toEndpoint ∧ K.up h.toEndpoint = true)
    (fun n v w' => (n = w.opened + 1 ∧ K.Goes {n} w.servers w'.servers ∧
      K.serves w'.servers n h.toEndpoint) ∧
        ∀ r, v = .role r ↔ K.role d.config.topology h = some r)
    (fun w' => K.Goes {w.opened + 1} w.servers w'.servers ∧
      ∀ r, K.role d.config.topology h = some r → e.goal.wants r = false)
    (fun n r w' => (n = w.opened + 1 ∧ K.Goes {n} w.servers w'.servers ∧
      K.serves w'.servers n h.toEndpoint) ∧ K.role d.config.topology h = some r)
    fun _ => False where
  judges := by
    rintro n u ⟨hn, hg, hs, hup⟩
    refine hK.judges hg.holds hs fun v u₁ h₁ hv _ => ?_
    rw [← Regime.role_of_up hup] at hv
    exact ⟨⟨hn, hg.trans (h₁.widen (Set.empty_subset _)),
      h₁.serves _ _ (Set.notMem_empty _) hs⟩, hv⟩
  looksUp := by
    rintro n waiting r u ⟨⟨hn, hg, hs⟩, hv⟩
    refine hK.looksUp hg.holds fun _ u₁ h₁ => ?_
    exact ⟨⟨hn, hg.trans (h₁.widen (Set.empty_subset _)),
      h₁.serves _ _ (Set.notMem_empty _) hs⟩, hv⟩
  hangsUp := by
    rintro n v u ⟨⟨rfl, hg, hs⟩, hv⟩ hr
    refine hK.hangsUp hg.holds fun _ u₁ h₁ => ?_
    exact ⟨hg.trans h₁, fun r h => hr r ((hv r).2 h)⟩
  binds := by
    rintro n r text u ⟨⟨hn, hg, hs⟩, hr⟩ hw
    have hrole := (hr r).1 rfl
    rw [hv r hw]
    refine meets_bind (hK.followsCatalog hg.holds hs (Regime.up_of_role hrole)) fun _ u₁ h₁ => ?_
    refine meets_bind_harmless (harmless_pure ()) fun _ u₂ h₂ => ?_
    refine meets_bind_harmless (harmless_log _ _) fun _ u₃ h₃ => ?_
    have h₁₃ := hK.still h₁ (h₂.trans h₃)
    exact meets_change ⟨⟨hn, hg.trans (h₁₃.widen (Set.empty_subset _)),
      h₁₃.serves _ _ (Set.notMem_empty _) hs⟩, hrole⟩
  freshStill := by
    rintro n u u' ⟨hn, hg, hs, hup⟩ h₁
    have := (hK.drawn hg.holds h₁.servers).serves _ _ (Set.notMem_empty _) hs
    exact ⟨hn, hK.still hg h₁, this, hup⟩
  judgedStill := by
    rintro n v u u' ⟨⟨hn, hg, hs⟩, hv⟩ h₁
    have := (hK.drawn hg.holds h₁.servers).serves _ _ (Set.notMem_empty _) hs
    exact ⟨⟨hn, hK.still hg h₁, this⟩, hv⟩
  spentStill := fun ⟨hg, hr⟩ h₁ => ⟨hK.still hg h₁, hr⟩

end Attempts

end Failover
