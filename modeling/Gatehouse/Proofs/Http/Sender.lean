import Gatehouse.Proofs.Http.Confinement
import Gatehouse.Proofs.PersonalToken.Unrefused

/-!
Requests whose sender is known. Once a request is found to be a user's, nothing else that it does
fails as an authentication: `neverRefuses_run`. And it writes the headers only that finding its
sender wrote: none, or those of the renewal of a session.
-/
namespace Gatehouse
open Hash

section
variable [Platform] {m : SessionManager} {r : TokenRegistry} {d : Directory} {s : KeyValue}
  {c : Credentials} {now : DateTime} {u v : User}

/-- A sender is only found by tokens with a keyed hash. -/
theorem exists_digest_of_authenticate (hissuer : m.issuer = r.issuer)
    (h : (authenticate m r d s c now).outcome = .ok u) :
    ∃ k, Algorithm.ofName? r.signer.algorithm = some (.keyed k) := by
  have hsigner : m.signer = r.signer := congrArg Issuer.signer hissuer
  cases identifies_of_authenticate h with
  | token _ _ _ hverify => exact Signer.exists_digest_of_verify hverify
  | session _ hverdict =>
    rw [← hsigner]
    obtain hvalid | hrenew := hverdict
    · exact Signer.exists_digest_of_verify (SessionManager.verify_of_evaluate hvalid)
    · exact Signer.exists_digest_of_verify (SessionManager.granted_of_evaluate hrenew).verified

omit [Platform] in
/-- Where one look-up of a user answers, the others find somebody or nobody. -/
theorem Directory.neverRefuses_byUsername {id : Int} (h : d.byId id = .ok v) (name : String) :
    NeverRefuses (d.byUsername name) := by
  unfold byUsername found
  rw [(found_eq_ok.1 h).1]
  dsimp only
  split
  · exact .ok _
  · exact .error rfl

omit [Platform] in
theorem neverRefuses_tokenOwner {id : Int} (h : d.byId id = .ok v) (u : User) (username : String) :
    NeverRefuses (tokenOwner u d username) := by
  unfold tokenOwner
  split
  · split
    · exact .ok _
    · exact .error rfl
  · split
    · exact Directory.neverRefuses_byUsername h username
    · exact .error rfl

/-- The headers that authenticating a user wrote are those of a renewal, if there are any. -/
theorem headers_of_authenticate (h : (authenticate m r d s c now).outcome = .ok u) :
    (authenticate m r d s c now).headers = [] ∧
        (c.authorization.getD "" = "" → ∀ claims, c.verdict m now ≠ .ok (.renew claims)) ∨
      c.authorization.getD "" = "" ∧ ∃ claims t, c.verdict m now = .ok (.renew claims) ∧
        m.renew claims now = ⟨.ok t, (authenticate m r d s c now).headers⟩ := by
  by_cases hempty : c.authorization.getD "" = ""
  · rw [authenticate_of_empty hempty] at h ⊢
    obtain ⟨claims, -, ⟨hverdict, hvalid⟩ | ⟨hverdict, t, headers, hrenew, hrenewed⟩⟩ :=
      session_of_ok h
    · rw [hvalid]
      refine .inl ⟨rfl, fun _ claims hrenew => ?_⟩
      cases hverdict.symm.trans hrenew
    · rw [hrenewed]
      exact .inr ⟨hempty, claims, t, hverdict, hrenew⟩
  · obtain ⟨header, hheader, hne⟩ := exists_header hempty
    rw [authenticate_of_header hheader hne]
    exact .inl ⟨rfl, fun h => absurd h hempty⟩

end

namespace Http
open TokenLife
variable [Platform]

theorem neverRefuses_readBody (f : Framework) (r : Request) : NeverRefuses (readBody f r) := by
  unfold readBody
  split
  · exact .ok _
  · split
    · split
      · exact .ok _
      · exact .error rfl
      · exact .error rfl
    · exact .ok _

omit [Platform] in
theorem neverRefuses_requireBody {α : Type} (body : Option Json) (read : Json → Checked α) :
    NeverRefuses (requireBody body read) := by
  unfold requireBody
  dsimp only
  split
  · exact .ok _
  · exact .error rfl

/-- The actions that only a known user may ask for. -/
def Action.needsUser : Action → Bool
  | .signIn | .signOut | .checkHealth => false
  | _ => true

omit [Platform] in
theorem Action.target_or_showProfile {a : Action} (h : a.needsUser = true) :
    (∃ username, a.target? = some username) ∨ a = .showProfile := by
  cases a with
  | signIn | signOut | checkHealth => cases h
  | showProfile => exact .inr rfl
  | _ => exact .inl ⟨_, rfl⟩

omit [Platform] in
theorem neverRefuses_ask (a : Action) (o : User) (body : Option Json) :
    NeverRefuses (a.ask o body) := by
  cases a with
  | createToken username => exact (neverRefuses_requireBody _ _).bind fun _ _ => .ok _
  | _ => exact .ok _

theorem neverRefuses_reply {r : TokenRegistry}
    (hkeyed : ∃ k, Algorithm.ofName? r.signer.algorithm = some (.keyed k)) (s : KeyValue)
    (now : DateTime) (q : TokenLife.Request) : NeverRefuses (reply (q.answer r s now).1) := by
  cases q with
  | create user description expiresAt =>
    exact (TokenRegistry.neverRefuses_create s now hkeyed _ _ _ _).map _
  | revoke owner token => exact (TokenRegistry.neverRefuses_revoke s _ _).map _
  | prune owner => exact (TokenRegistry.neverRefuses_prune s now _).map _
  | list owner => exact (TokenRegistry.neverRefuses_list s now _).map _

namespace Service
variable {s : Service} {r : Request} {now : DateTime} {a : Action} {body : Option Json} {u : User}

omit [Platform] in
theorem issuer_of_manager {m : SessionManager} (h : s.manager = .ok m) :
    s.issuer = .ok m.issuer ∧ m.cookies = s.config.cookies := by
  obtain ⟨issuer, hissuer, h⟩ := bind_eq_ok.1 h
  obtain ⟨threshold, -, h⟩ := bind_eq_ok.1 h
  obtain ⟨margin, -, h⟩ := bind_eq_ok.1 h
  unfold SessionManager.build at h
  split at h
  · obtain rfl := Except.ok.inj h
    exact ⟨hissuer, rfl⟩
  · cases h

omit [Platform] in
theorem issuer_of_registry {registry : TokenRegistry} (h : s.registry = .ok registry) :
    s.issuer = .ok registry.issuer := by
  obtain ⟨⟨⟩, -, h⟩ := bind_eq_ok.1 h
  obtain ⟨settings, -, h⟩ := bind_eq_ok.1 h
  obtain ⟨issuer, hissuer, h⟩ := bind_eq_ok.1 h
  obtain rfl := Except.ok.inj h
  exact hissuer

/-- The sender of a request is found with a manager and a registry of one issuer. -/
theorem authenticate_of_caller (h : (s.caller r now).outcome = .ok u) : ∃ m registry,
    s.manager = .ok m ∧ s.registry = .ok registry ∧ m.issuer = registry.issuer ∧
    s.caller r now = authenticate m registry s.directory s.store (credentials r) now := by
  simp only [caller, Written.outcome_bind, Written.outcome_liftM, bind_eq_ok] at h
  obtain ⟨m, hm, registry, hregistry, -⟩ := h
  refine ⟨m, registry, hm, hregistry, ?_, ?_⟩
  · exact Except.ok.inj ((issuer_of_manager hm).1.symm.trans (issuer_of_registry hregistry))
  · rw [caller, Written.lift_bind_of_ok hm, Written.lift_bind_of_ok hregistry]

/-- A request for tokens fails as an authentication only where finding their owner does. -/
theorem neverRefuses_consulted {registry : TokenRegistry} {username : String}
    (hregistry : s.registry = .ok registry)
    (hkeyed : ∃ k, Algorithm.ofName? registry.signer.algorithm = some (.keyed k))
    (howner : NeverRefuses (s.owner r now username).outcome) :
    NeverRefuses (s.consulted now (s.asked r body now username a)).1.outcome := by
  have hasks : NeverRefuses (s.asked r body now username a).outcome := by
    simp only [asked, Written.outcome_bind, Written.outcome_liftM, hregistry]
    exact howner.bind fun o _ => (neverRefuses_ask a o body).bind fun _ _ => .ok _
  unfold consulted
  split
  · next f hf => exact .error (hasks f hf)
  · next registry' q hasked =>
    obtain ⟨o, -, hregistry', -⟩ := asked_eq_ok.1 hasked
    obtain rfl := Except.ok.inj (hregistry.symm.trans hregistry')
    exact neverRefuses_reply hkeyed s.store now q

/-- Once the sender of a request is known, it does not fail as an authentication. -/
theorem neverRefuses_run (hneeds : a.needsUser = true) (h : (s.caller r now).outcome = .ok u) :
    NeverRefuses (s.run r now a).1.outcome := by
  obtain ⟨m, registry, -, hregistry, hissuer, hcaller⟩ := authenticate_of_caller h
  have hkeyed := exists_digest_of_authenticate hissuer (hcaller ▸ h)
  have howner (username : String) : NeverRefuses (s.owner r now username).outcome := by
    simp only [owner, Written.outcome_bind, h]
    exact neverRefuses_tokenOwner (byId_of_caller h).1 u username
  rw [run_eq]
  split
  · next f hf =>
    refine .error ?_
    unfold givenBody at hf
    split at hf
    · exact neverRefuses_readBody s.framework r f hf
    · cases hf
  · obtain ⟨username, htarget⟩ | rfl := Action.target_or_showProfile hneeds
    · rw [perform_of_target htarget]
      exact neverRefuses_consulted hregistry hkeyed (howner username)
    · simp only [perform, showProfile, Written.outcome_bind, h]
      exact NeverRefuses.bind (.toExcept _) fun _ _ => .ok _

theorem headers_asked {username : String} :
    (s.asked r body now username a).headers = (s.caller r now).headers := by
  have howner : (s.owner r now username).headers = (s.caller r now).headers :=
    Written.headers_bind_of_nil _ fun _ => rfl
  rw [← howner]
  refine Written.headers_bind_of_nil _ fun o => ?_
  refine (Written.headers_bind_of_nil _ fun registry => ?_).trans (Written.headers_liftM _)
  exact (Written.headers_bind_of_nil _ fun _ => rfl).trans (Written.headers_liftM _)

/-- A request that only a known user may send writes what finding this user wrote. -/
theorem headers_of_run (hneeds : a.needsUser = true) {rep : Reply}
    (h : (s.run r now a).1.outcome = .ok rep) :
    (s.run r now a).1.headers = (s.caller r now).headers ∧
      ∃ u, (s.caller r now).outcome = .ok u := by
  rw [run_eq] at h ⊢
  split at h
  · cases h
  · obtain ⟨username, htarget⟩ | rfl := Action.target_or_showProfile hneeds
    · rw [perform_of_target htarget] at h ⊢
      unfold consulted at h ⊢
      split at h
      · cases h
      · next registry q hasked =>
        obtain ⟨o, howner, -⟩ := asked_eq_ok.1 hasked
        obtain ⟨u, hu, -⟩ := owner_eq_ok.1 howner
        exact ⟨headers_asked, u, hu⟩
    · refine ⟨?_, ?_⟩
      · exact Written.headers_bind_of_nil _ fun u => Written.headers_bind_of_nil _ fun _ => rfl
      · simp only [perform, showProfile, Written.outcome_bind, bind_eq_ok] at h
        obtain ⟨u, hu, -⟩ := h
        exact ⟨u, hu⟩

end Service
end Http
end Gatehouse
