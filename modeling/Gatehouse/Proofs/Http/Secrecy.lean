import Gatehouse.Proofs.Http.Confinement
import Gatehouse.Proofs.PersonalToken.Alike

/-!
What a caller without the permission for tokens of others learns from their routes. In two worlds
that agree on the row and the record of the caller, and differ in whatever they hold about everybody
else, such a request is answered the same, and changes no record but the caller's own:
`secret_of_others`.
-/
namespace Gatehouse
open Settings

section
variable {m : SessionManager} {r : TokenRegistry} {d d' : Directory} {s s' : KeyValue}
  {c : Credentials} {now : DateTime} {claims : Claims} {u : User}

/-! ### Who sends the request -/

/-- Claims that name a user name the same one wherever the row of this user is the same. -/
theorem activeUser_of_row (h : activeUser d claims = .ok u) (hrow : d'.byId u.id = d.byId u.id) :
    activeUser d' claims = .ok u := by
  obtain ⟨id, hid, hknown, hactive⟩ := activeUser_eq_ok_iff.1 h
  rw [(Directory.of_byId hknown).2, hknown] at hrow
  exact activeUser_eq_ok_iff.2 ⟨id, hid, hrow, hactive⟩

variable [Platform]

theorem authenticateSession_of_row (h : (authenticateSession m d c now).outcome = .ok u)
    (hrow : d'.byId u.id = d.byId u.id) :
    authenticateSession m d' c now = authenticateSession m d c now := by
  obtain ⟨claims, hu, ⟨hverdict, hvalid⟩ | ⟨hverdict, t, headers, hrenew, hrenewed⟩⟩ :=
    session_of_ok h
  · rw [hvalid, SessionManager.authenticateSession_of_valid hverdict (activeUser_of_row hu hrow)]
  · rw [hrenewed, SessionManager.authenticateSession_of_renew hverdict (activeUser_of_row hu hrow)
      hrenew]

/-- A request is authenticated by the row and the record of its sender alone. -/
theorem authenticate_of_alike (h : (authenticate m r d s c now).outcome = .ok u)
    (hrow : d'.byId u.id = d.byId u.id) (hstore : s.Alike s' (key (.int u.id) tokensName)) :
    authenticate m r d' s' c now = authenticate m r d s c now := by
  by_cases hempty : c.authorization.getD "" = ""
  · rw [authenticate_of_empty hempty] at h
    rw [authenticate_of_empty hempty, authenticate_of_empty hempty,
      authenticateSession_of_row h hrow]
  · obtain ⟨header, hheader, hne⟩ := exists_header hempty
    rw [authenticate_of_header hheader hne] at h
    have hleft : authenticateToken r d s header now = .ok u := h
    obtain ⟨claims, id, hverify, hid, hcontains, hknown, hactive⟩ :=
      authenticateToken_eq_ok.1 hleft
    have hown := (Directory.of_byId hknown).2
    have hcontains' : TokenRegistry.contains s' (.int id) (bearerToken header) = .ok true := by
      rw [← hcontains, ← hown]
      simp only [TokenRegistry.contains, alike_getTokens hstore]
    have hright : authenticateToken r d' s' header now = .ok u :=
      authenticateToken_eq_ok.2 ⟨claims, id, hverify, hid, hcontains',
        by rw [← hown, hrow, hown, hknown], hactive⟩
    rw [authenticate_of_header hheader hne, authenticate_of_header hheader hne, hright, hleft]

/-! ### Whose tokens are meant -/

omit [Platform] in
theorem not_has_manageUserAccessTokens (hrole : u.role = some "user") :
    u.has .manageUserAccessTokens = false := by
  rw [User.has, hrole]
  decide

omit [Platform] in
/-- Without the permission for others no user is looked up. -/
theorem tokenOwner_of_role (hrole : u.role = some "user") (d d' : Directory) (username : String) :
    tokenOwner u d' username = tokenOwner u d username ∧
      ∀ o, tokenOwner u d username = .ok o → o = u := by
  unfold tokenOwner
  rw [not_has_manageUserAccessTokens hrole]
  split
  · refine ⟨rfl, fun o ho => ?_⟩
    split at ho
    · exact (Except.ok.inj ho).symm
    · cases ho
  · exact ⟨rfl, nofun⟩

end

namespace Http
open Number TokenLife

section
variable [Platform]

namespace Service

/-- Two worlds with the same clock, the same row of one user and the same record of this user. -/
structure Alike (s s' : Service) (id : Int) : Prop where
  config : s'.config = s.config
  machineTime : s'.machineTime = s.machineTime
  connected : s'.connected = s.connected
  passwords : s'.passwords = s.passwords
  framework : s'.framework = s.framework
  row : s'.directory.byId id = s.directory.byId id
  store : s.store.Alike s'.store (key (.int id) tokensName)

variable {s s' : Service} {r : Request} {body : Option Json} {now : DateTime} {a : Action}
  {username : String} {u : User}

omit [Platform] in
theorem Alike.manager {id : Int} (h : s.Alike s' id) : s'.manager = s.manager := by
  simp only [Service.manager, issuer, h.config, h.machineTime]

omit [Platform] in
theorem Alike.registry {id : Int} (h : s.Alike s' id) : s'.registry = s.registry := by
  simp only [Service.registry, issuer, h.config, h.machineTime, h.connected]

section
variable (h : s.Alike s' u.id) (hcaller : (s.caller r now).outcome = .ok u)
include h hcaller

theorem caller_of_alike : s'.caller r now = s.caller r now := by
  simp only [caller, h.manager, h.registry] at hcaller ⊢
  simp only [Written.outcome_bind, Written.outcome_liftM, bind_eq_ok] at hcaller
  obtain ⟨m, hm, registry, hregistry, hu⟩ := hcaller
  rw [Written.lift_bind_of_ok hm, Written.lift_bind_of_ok hm, Written.lift_bind_of_ok hregistry,
    Written.lift_bind_of_ok hregistry, authenticate_of_alike hu h.row h.store]

variable (hrole : u.role = some "user")
include hrole

theorem asked_of_alike : s'.asked r body now username a = s.asked r body now username a := by
  have howner : s'.owner r now username = s.owner r now username := by
    simp only [owner, caller_of_alike h hcaller]
    exact Written.bind_congr_of_ok hcaller
      (by rw [(tokenOwner_of_role hrole s.directory s'.directory username).1])
  simp only [asked, howner, h.registry]

theorem consulted_of_alike :
    (s'.consulted now (s.asked r body now username a)).1 =
        (s.consulted now (s.asked r body now username a)).1 ∧
      (s.consulted now (s.asked r body now username a)).2.Alike
        (s'.consulted now (s.asked r body now username a)).2 (key (.int u.id) tokensName) := by
  unfold consulted
  split
  · exact ⟨rfl, h.store⟩
  · next registry q hasked =>
    obtain ⟨o, howner, -, hask⟩ := asked_eq_ok.1 hasked
    obtain ⟨u', hu', htokenOwner⟩ := owner_eq_ok.1 howner
    obtain rfl := Except.ok.inj (hcaller.symm.trans hu')
    obtain rfl := (tokenOwner_of_role hrole s.directory s.directory username).2 o htokenOwner
    have hstore := h.store
    rw [← owner_of_ask hask] at hstore ⊢
    obtain ⟨x, t, t', hleft, hright, halike⟩ := q.alike_answer registry hstore now
    rw [hleft, hright]
    exact ⟨rfl, halike⟩

/-- A request for tokens is carried out the same for a regular user in both worlds. -/
theorem run_of_alike (htarget : a.target? = some username) :
    (s'.run r now a).1 = (s.run r now a).1 ∧
      (s.run r now a).2.Alike (s'.run r now a).2 (key (.int u.id) tokensName) := by
  have hgiven : s'.givenBody a r = s.givenBody a r := by
    simp only [givenBody, h.framework]
  rw [run_eq, run_eq, hgiven]
  split
  · exact ⟨rfl, h.store⟩
  · rw [perform_of_target htarget, perform_of_target htarget, asked_of_alike h hcaller hrole]
    exact consulted_of_alike h hcaller hrole

omit h in
theorem text?_of_run (hquiet : s.store.Quiet) (htarget : a.target? = some username) {k : String}
    (hk : k ≠ key (.int u.id) tokensName) : (s.run r now a).2.text? k = s.store.text? k := by
  have hconsults : Consults s r now username a (s.run r now a) := consults_run htarget
  obtain hstore | ⟨o, howner, hconfined⟩ := hconsults.confined
  · rw [hstore]
  · obtain ⟨u', hu', htokenOwner⟩ := owner_eq_ok.1 howner
    obtain rfl := Except.ok.inj (hcaller.symm.trans hu')
    obtain rfl := (tokenOwner_of_role hrole s.directory s.directory username).2 o htokenOwner
    rw [hconfined.text? k (.inl hk), KeyValue.othersUntil, KeyValue.text?,
      KeyValue.others_of_rivals hquiet.rivals, KeyValue.text?]

end
end Service

theorem exchange_congr {s s' : Service} {r : Request} {now : DateTime} {elapsed : Binary64}
    {route : Route} {a : Action} (hfound : resolve r.method r.path = .found route a)
    (hconfig : s'.config = s.config) (hframework : s'.framework = s.framework)
    (hrun : (s'.run r now a).1 = (s.run r now a).1) :
    (exchange s' r now elapsed).1 = (exchange s r now elapsed).1 := by
  have hroute : (answerRoute s' r now (.found route a)).1 =
      (answerRoute s r now (.found route a)).1 := by
    cases hout : (s.run r now a).1.outcome with
    | ok rep =>
      simp only [answerRoute, hrun, hout]
    | error f =>
      rw [answerRoute_of_error hout, answerRoute_of_error (by rw [hrun, hout]), hconfig,
        hframework]
  unfold exchange answered faultResponse
  simp only [hfound, hroute, hconfig, hframework]

/-- A regular user learns nothing about other users from the routes to tokens, and changes nothing
of theirs: in two worlds that agree on the user's own row and record, the request has the same
outcome, leaves the same record of the user, and leaves all other texts as they are. -/
theorem secret_of_others {s s' : Service} {r : Request} {now : DateTime} {elapsed : Binary64}
    {route : Route} {a : Action} {username : String} {u : User}
    (hfound : resolve r.method r.path = .found route a) (htarget : a.target? = some username)
    (hcaller : (s.caller r now).outcome = .ok u) (hrole : u.role = some "user")
    (h : s.Alike s' u.id) :
    (exchange s' r now elapsed).1 = (exchange s r now elapsed).1 ∧
      (exchange s' r now elapsed).2.text? (key (.int u.id) tokensName) =
        (exchange s r now elapsed).2.text? (key (.int u.id) tokensName) ∧
      ∀ k, k ≠ key (.int u.id) tokensName →
        (exchange s r now elapsed).2.text? k = s.store.text? k ∧
        (exchange s' r now elapsed).2.text? k = s'.store.text? k := by
  obtain ⟨hrun, halike⟩ := Service.run_of_alike h hcaller hrole htarget
  have hcaller' : (s'.caller r now).outcome = .ok u := by
    rw [Service.caller_of_alike h hcaller, hcaller]
  rw [store_of_found hfound, store_of_found hfound]
  refine ⟨exchange_congr hfound h.config h.framework hrun, halike.text, fun k hk => ⟨?_, ?_⟩⟩
  · exact Service.text?_of_run hcaller hrole h.store.left htarget hk
  · exact Service.text?_of_run hcaller' hrole h.store.right htarget hk

end

/-! ### A request about somebody else -/

section
attribute [local instance] Platform.standard

/-- The regular user asks for the tokens of another user. -/
def sampleQuestion (token : String) : Request :=
  ⟨"GET", "/v1/users/bob/access-tokens", [], [("Authorization", "BEARER " ++ token)], []⟩

theorem resolve_sampleQuestion (token : String) :
    resolve (sampleQuestion token).method (sampleQuestion token).path =
      .found routes[3] (.listTokens "bob") := by
  have hpage : Page.ofPath? "/v1/users/bob/access-tokens" = none := by decide +kernel
  exact (resolve_tokensPath hpage (by decide +kernel)).1

theorem credentials_sampleQuestion (token : String) :
    Service.credentials (sampleQuestion token) = sampleCredentials token := by
  have hname : "Authorization".toLower = "authorization" := by decide +kernel
  simp [Service.credentials, sampleQuestion, sampleCredentials, Request.header?,
    Request.headerValues, hname]

/-- The regular user is told the same, whether the other user exists or not. -/
theorem secret_of_others_sample : ∃ token,
    Signer.sample.sign (samplePersonal "7") = .ok token ∧
    (exchange (sampleWorld token [] []) (sampleQuestion token) ⟨0, some 0⟩ (.ofInt 0)).1 =
      (exchange (sampleWorld token [⟨8, "bob", none, some "admin", true, none⟩]
        [(key (.int 8) tokensName, "[]")]) (sampleQuestion token) ⟨0, some 0⟩ (.ofInt 0)).1 := by
  obtain ⟨token, hsigned, hverify⟩ := exists_sign_samplePersonal "7"
  have halike : (sampleWorld token [⟨8, "bob", none, some "admin", true, none⟩]
      [(key (.int 8) tokensName, "[]")]).Alike (sampleWorld token [] []) regularUser.id :=
    ⟨rfl, rfl, rfl, rfl, rfl, rfl, KeyValue.shared_quiet _ _, KeyValue.shared_quiet _ _, rfl⟩
  exact ⟨token, hsigned.sign, (secret_of_others (resolve_sampleQuestion token) rfl
    (caller_sampleWorld hsigned hverify (credentials_sampleQuestion token) _ _) rfl halike).1⟩

end

end Http
end Gatehouse
