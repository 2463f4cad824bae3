import Gatehouse.Proofs.Auth.Identity
import Gatehouse.Proofs.Http.TokenRoutes

/-!
What requests leave in the store. Whatever can fail in an action does so before the write, and the
replies of the actions that write can all be written. So an answer with an error leaves what the
other clients of the store leave, but where the layers around the actions find no path in the
address of the request, behind the write: `error_leaves_store`.
-/
namespace Gatehouse.Http
open Number TokenLife

/-- The actions that change tokens. -/
def Action.changes : Action → Bool
  | .createToken _ | .pruneTokens _ | .deleteToken _ _ => true
  | _ => false

section

/-- The request changes tokens, and its address has no path. -/
def Service.Misplaced (s : Service) (r : Request) : Prop :=
  (∃ route a, resolve r.method r.path = .found route a ∧ a.changes = true) ∧
    ∃ f, s.framework.addressPath r = .error f

variable [Platform]

namespace Service
variable {s : Service} {r : Request} {now : DateTime} {a : Action} {rep : Reply} {f : Fault}

omit [Platform] in
theorem status_of_reply {x : Answer} (h : reply x = .ok rep) :
    rep.status = 200 ∨ rep.status = 201 := by
  cases x with
  | created outcome =>
    obtain ⟨view, -, rfl⟩ := map_eq_ok.1 h
    exact .inr rfl
  | revoked outcome =>
    obtain ⟨u, -, rfl⟩ := map_eq_ok.1 h
    exact .inl rfl
  | pruned outcome =>
    obtain ⟨removed, -, rfl⟩ := map_eq_ok.1 h
    exact .inl rfl
  | listed outcome =>
    obtain ⟨views, -, rfl⟩ := map_eq_ok.1 h
    exact .inl rfl

theorem status_of_consults {username : String} {result : Written Reply × KeyValue}
    (h : Consults s r now username a result) (hout : result.1.outcome = .ok rep) :
    rep.status = 200 ∨ rep.status = 201 := by
  cases h with
  | before hfault => cases hfault.symm.trans hout
  | answered _ _ _ hanswer => exact status_of_reply (hanswer.symm.trans hout)

/-- An action that succeeds is answered with 200 or 201. -/
theorem status_of_run (h : (s.run r now a).1.outcome = .ok rep) :
    rep.status = 200 ∨ rep.status = 201 := by
  cases htarget : a.target? with
  | some username => exact status_of_consults (consults_run htarget) h
  | none =>
    rw [run_eq] at h
    split at h
    · cases h
    · left
      cases a with
      | signIn =>
        simp only [perform, signIn, Written.outcome_bind, bind_eq_ok] at h
        obtain ⟨m, -, form, -, profile, -, h⟩ := h
        obtain rfl := Except.ok.inj h
        rfl
      | signOut =>
        simp only [perform, signOut, Written.outcome_bind, bind_eq_ok] at h
        obtain ⟨m, -, u, -, h⟩ := h
        obtain rfl := Except.ok.inj h
        rfl
      | showProfile =>
        simp only [perform, showProfile, Written.outcome_bind, bind_eq_ok] at h
        obtain ⟨u, -, profile, -, h⟩ := h
        obtain rfl := Except.ok.inj h
        rfl
      | checkHealth =>
        obtain rfl := Except.ok.inj h
        rfl
      | _ => cases htarget

theorem store_of_run (h : a.changes = false) : (s.run r now a).2 = s.store := by
  rw [run_eq]
  split
  · rfl
  · cases a with
    | createToken u => cases h
    | pruneTokens u => cases h
    | deleteToken u t => cases h
    | _ => rfl

/-- An action changes one text at most, and none where it fails. -/
theorem confined_run (s : Service) (r : Request) (now : DateTime) (a : Action) :
    ∃ k, s.store.Confined (s.run r now a).2 k (∃ f, (s.run r now a).1.outcome = .error f) := by
  cases htarget : a.target? with
  | none =>
    have hchanges : a.changes = false := by
      cases a with
      | createToken u | pruneTokens u | deleteToken u t => cases htarget
      | _ => rfl
    rw [store_of_run hchanges]
    exact ⟨"", .refl _ _ _⟩
  | some username =>
    have hconsults : Consults s r now username a (s.run r now a) := consults_run htarget
    obtain hstore | ⟨o, -, hconfined⟩ := hconsults.confined
    · rw [hstore]
      exact ⟨"", .refl _ _ _⟩
    · exact ⟨_, hconfined⟩

/-- What an action that changes tokens replies can be written. -/
theorem checkWritable_of_reply {registry : TokenRegistry} {store : KeyValue} {o : User}
    {body : Option Json} {q : TokenLife.Request} (hchanges : a.changes = true)
    (hask : a.ask o body = .ok q) (h : reply (q.answer registry store now).1 = .ok rep) :
    checkWritable rep.value = .ok rep.value := by
  cases a with
  | createToken u =>
    obtain ⟨request, -, hq⟩ := bind_eq_ok.1 hask
    obtain rfl := Except.ok.inj hq
    obtain ⟨view, hcreate, rfl⟩ := map_eq_ok.1 h
    obtain ⟨kept, hprepare⟩ := TokenRegistry.prepare_of_create hcreate
    obtain ⟨-, c, -, hpersonal, -⟩ := TokenRegistry.personal_of_prepare hprepare
    obtain ⟨t, htoken, -⟩ := hpersonal.signed
    have hdescription : view.description = request.description :=
      (Json.text.inj (TokenRegistry.view_of_prepare hprepare).1).symm
    cases hexpires : view.expiresAt <;>
      simp [checkWritable, TokenView.toJson, TokenView.timeJson, htoken, hdescription, hexpires,
        Json.hasNonFinite, Json.hasNonFiniteMembers, Json.hasUnpaired, Json.hasUnpairedMembers,
        AnyText.string?]
  | pruneTokens u =>
    obtain rfl := Except.ok.inj hask
    obtain ⟨removed, -, rfl⟩ := map_eq_ok.1 h
    rfl
  | deleteToken u t =>
    obtain rfl := Except.ok.inj hask
    obtain ⟨⟨⟩, -, rfl⟩ := map_eq_ok.1 h
    rfl
  | _ => cases hchanges

/-- An action that changes tokens and does not fail is answered with what it replies. -/
theorem checkWritable_of_run (hchanges : a.changes = true)
    (h : (s.run r now a).1.outcome = .ok rep) : checkWritable rep.value = .ok rep.value := by
  have htarget : ∃ username, a.target? = some username := by
    cases a with
    | createToken u | pruneTokens u | deleteToken u t => exact ⟨u, rfl⟩
    | _ => cases hchanges
  obtain ⟨username, htarget⟩ := htarget
  have hconsults : Consults s r now username a (s.run r now a) := consults_run htarget
  cases hconsults with
  | before hfault => cases hfault.symm.trans h
  | answered _ _ hask hanswer => exact checkWritable_of_reply hchanges hask (hanswer.symm.trans h)

/-- A request that is not answered with what its action replies leaves all texts to the other
clients, unless it changes tokens and its address has no path. -/
theorem text?_of_fails {route : Route} (hfound : resolve r.method r.path = .found route a)
    (hplaced : ¬ s.Misplaced r) (h : s.Fails r now a f) (k : String) :
    (s.run r now a).2.text? k = (s.store.othersUntil (s.run r now a).2).text? k := by
  cases hchanges : a.changes with
  | false =>
    rw [store_of_run hchanges]
    exact (KeyValue.Confined.refl s.store "" True).text? k (.inr trivial)
  | true =>
    cases h with
    | action hout =>
      obtain ⟨written, hconfined⟩ := s.confined_run r now a
      exact hconfined.text? k (.inr ⟨f, hout⟩)
    | reply hout hvalue => cases hvalue.symm.trans (checkWritable_of_run hchanges hout)
    | address hpath => exact absurd ⟨⟨route, a, hfound, hchanges⟩, f, hpath⟩ hplaced

theorem text?_of_answers {route : Route} {response : Response}
    (hfound : resolve r.method r.path = .found route a) (hplaced : ¬ s.Misplaced r)
    (h : Answers s r now a response) (hstatus : 400 ≤ response.status) (k : String) :
    (s.run r now a).2.text? k = (s.store.othersUntil (s.run r now a).2).text? k := by
  cases h with
  | done h _ _ hdone =>
    have := status_of_run h
    omega
  | refused h => exact text?_of_fails hfound hplaced (.action h) k
  | failed h => exact text?_of_fails hfound hplaced h k

/-- What can be asked for with GET has no part in the store. -/
theorem store_of_get {route : Route} (hfound : resolve r.method r.path = .found route a)
    (hget : r.method = "GET") : (s.run r now a).2 = s.store := by
  have hmethod := method_mem_of_resolve hfound
  rw [hget] at hmethod
  apply store_of_run
  cases a <;> simp [Action.methods, Action.changes] at hmethod ⊢

end Service

/-- A request for an action whose address has no path is answered as if the action had failed. -/
theorem status_of_address {s : Service} {r : Request} {now : DateTime} {route : Route} {a : Action}
    (hfound : resolve r.method r.path = .found route a) {f : Fault}
    (hpath : s.framework.addressPath r = .error f) {elapsed : Binary64} {response : Response}
    (hresponse : (exchange s r now elapsed).1.response = .ok response) : response.status = 500 := by
  obtain ⟨response', hresponse', hdelivers⟩ := delivers_exchange s r now elapsed
  obtain rfl := Except.ok.inj (hresponse.symm.trans hresponse')
  cases hdelivers with
  | question hmethod => exact absurd hmethod (ne_options_of_resolve hfound)
  | passed _ hpassed => cases hpath.symm.trans hpassed
  | unexpected _ hexcuses => exact hexcuses.status

end

/-! ### A token that is issued with an error -/

section
attribute [local instance] Platform.standard

/-- A configuration with tokens for a day and sessions for a week. -/
def sampleConfig : Config where
  service := ⟨"1", false, false, "INFO", "WARNING", [], false, [], [], [], "gatehouse"⟩
  token := ⟨"a secret", "HS256", "first", "gatehouse", 1440, 10080, 60, 1⟩
  cookies := {}
  store := ⟨"localhost", 6379, "", "0"⟩
  monitoring := ⟨none, "test", false⟩
  database := ⟨false, "gatehouse", "", "localhost", 5432, "gatehouse"⟩
  retry := ⟨5⟩

/-- The user with number 7, as a regular one. -/
def regularUser : User := { sampleUser with role := some "user" }

/-- A world with a token of the regular user on record, beside others and their records. -/
def sampleWorld (token : String) (others : List User) (records : Table String String) :
    Service where
  config := sampleConfig
  machineTime := 0
  directory := ⟨regularUser :: others, none⟩
  store := .shared ((TokenRegistry.sampleStore [token]).texts ++ records) []
  connected := true
  passwords := .sha256
  framework := .standard

/-- The registry of this world. -/
def worldRegistry : TokenRegistry := ⟨SessionManager.sample.issuer, ⟨5, by decide⟩⟩

theorem manager_sampleWorld (token : String) (others : List User) (records : Table String String) :
    (sampleWorld token others records).manager = .ok .sample := rfl

theorem registry_sampleWorld (token : String) (others : List User)
    (records : Table String String) :
    (sampleWorld token others records).registry = .ok worldRegistry := rfl

theorem holds_sampleWorld (token : String) (others : List User) (records : Table String String) :
    Settings.Holds (sampleWorld token others records).store (.int regularUser.id)
      [⟨token, "laptop"⟩] :=
  .inr rfl

theorem exists_of_status {o : Outcome} {status : Nat}
    (h : o.response.toOption.map (·.status) = some status) :
    ∃ response, o.response = .ok response ∧ response.status = status := by
  cases hresponse : o.response with
  | error f =>
    rw [hresponse] at h
    cases h
  | ok response =>
    rw [hresponse] at h
    exact ⟨response, rfl, Option.some.inj h⟩

/-- Somebody without a token or a session asks for one. -/
def sampleStranger : Request := ⟨"POST", "/v1/users/ann/access-tokens", [], [], [0x7b, 0x7d]⟩

/-- The regular user asks for another token, from some host. -/
def sampleAsking (host token : String) : Request :=
  ⟨"POST", "/v1/users/ann/access-tokens", [], [("Host", host),
    ("Authorization", "BEARER " ++ token), ("Content-Type", "application/json")], [0x7b, 0x7d]⟩

/-- What the headers of this request say. -/
theorem headers_sampleAsking (host token : String) :
    (sampleAsking host token).header? "host" = some host ∧
      (sampleAsking host token).header? "content-type" = some "application/json" ∧
      Service.credentials (sampleAsking host token) = sampleCredentials token := by
  have hhost : "Host".toLower = "host" := by decide +kernel
  have hname : "Authorization".toLower = "authorization" := by decide +kernel
  have htype : "Content-Type".toLower = "content-type" := by decide +kernel
  simp [Service.credentials, sampleAsking, sampleCredentials, Request.header?,
    Request.headerValues, hhost, hname, htype]

theorem resolve_sampleAsking (host token : String) :
    resolve (sampleAsking host token).method (sampleAsking host token).path =
      .found routes[4] (.createToken "ann") := by
  have hpage : Page.ofPath? "/v1/users/ann/access-tokens" = none := by decide +kernel
  exact (resolve_tokensPath hpage (by decide +kernel)).2

theorem givenBody_sampleAsking (host token : String) :
    (sampleWorld token [] []).givenBody (.createToken "ann") (sampleAsking host token) =
      .ok (some (.object [])) := by
  have hjson : hasJson .standard (sampleAsking host token) = true := by
    rw [hasJson, (headers_sampleAsking host token).2.1]
    decide +kernel
  have hbody : (sampleAsking host token).body.isEmpty = false := rfl
  show readBody .standard (sampleAsking host token) = _
  unfold readBody
  rw [hbody, hjson]
  rfl

theorem addressPath_sampleAsking (host token : String) :
    Framework.standard.addressPath (sampleAsking host token) =
      Address.pathOf (host.toList ++ "/v1/users/ann/access-tokens".toList) := by
  have hhost : Address.host (sampleAsking host token) = host := by
    rw [Address.host, (headers_sampleAsking host token).1]
    rfl
  have htext : Address.text (sampleAsking host token) "/v1/users/ann/access-tokens" =
      .ok (host.toList ++ "/v1/users/ann/access-tokens".toList) := by
    rw [Address.text, hhost]
    exact congrArg Except.ok (List.append_nil _)
  have hread : Framework.standard.addressPath (sampleAsking host token) =
      Address.text (sampleAsking host token) "/v1/users/ann/access-tokens" >>= Address.pathOf := rfl
  rw [hread, htext]
  rfl

section
variable {token : String} (hsigned : Signer.sample.Signed token (samplePersonal "7"))
  (hverify : Signer.sample.verify (.text token) (some .personalAccess) ⟨0, some 0⟩ =
    .ok (samplePersonal "7"))
include hsigned hverify

/-- A request with the token on record is the regular user's. -/
theorem caller_sampleWorld {r : Request} (hr : Service.credentials r = sampleCredentials token)
    (others : List User) (records : Table String String) :
    ((sampleWorld token others records).caller r ⟨0, some 0⟩).outcome = .ok regularUser := by
  have hshown : token = bearerToken ("BEARER " ++ token) :=
    shows_iff.1 (shows_sampleCredentials hsigned)
  rw [Service.caller, Written.lift_bind_of_ok (manager_sampleWorld token others records),
    Written.lift_bind_of_ok (registry_sampleWorld token others records), hr,
    authenticate_of_header rfl (sampleCredentials_ne_empty token), authenticateToken_eq_ok,
    ← hshown]
  refine ⟨samplePersonal "7", 7, hverify, userId_samplePersonal, ?_, rfl, rfl⟩
  have hgot := (holds_sampleWorld token others records).getTokens (KeyValue.shared_quiet _ _)
  exact contains_eq_ok_true.2 ⟨_, hgot, _, List.mem_singleton_self _, rfl⟩

/-- Another token is put on record and shown, whatever the host is. -/
theorem run_sampleAsking (host : String) : ∃ (kept : TokenRecord) (view : TokenView),
    ((sampleWorld token [] []).run (sampleAsking host token) ⟨0, some 0⟩
      (.createToken "ann")).1.outcome = .ok ⟨201, view.toJson⟩ ∧
    Settings.Holds ((sampleWorld token [] []).run (sampleAsking host token) ⟨0, some 0⟩
      (.createToken "ann")).2 (.int regularUser.id) [⟨token, "laptop"⟩, kept] := by
  have hsecret : Platform.usableSecret Signer.sample.secret = true := by decide +kernel
  have hid : Json.hasLongInteger (.int regularUser.id) = false := by decide +kernel
  obtain ⟨kept, view, hprepare, -⟩ : ∃ kept view, worldRegistry.prepare
      (.text regularUser.username) (.int regularUser.id) (.text "") none ⟨0, some 0⟩ =
        .ok (kept, view) ∧ view.description = "" :=
    TokenRegistry.exists_prepare (r := worldRegistry) (d := .sha256) rfl hsecret _ _
      (Claims.hasLongInteger_int.1 hid) rfl (by decide) nofun
  have hquiet : (sampleWorld token [] []).store.Quiet := KeyValue.shared_quiet _ _
  obtain ⟨hcreated, hreplaced⟩ :=
    TokenRegistry.create_of_ok hquiet (holds_sampleWorld token [] []) hprepare
  have hcaller :=
    caller_sampleWorld hsigned hverify (headers_sampleAsking host token).2.2 [] []
  have howner : ((sampleWorld token [] []).owner (sampleAsking host token) ⟨0, some 0⟩
      "ann").outcome = .ok regularUser := Service.owner_eq_ok.2 ⟨_, hcaller, rfl⟩
  have hasked : ((sampleWorld token [] []).asked (sampleAsking host token) (some (.object []))
      ⟨0, some 0⟩ "ann" (.createToken "ann")).outcome =
        .ok (worldRegistry, .create regularUser (.text "") none) :=
    Service.asked_eq_ok.2 ⟨_, howner, registry_sampleWorld token [] [], rfl⟩
  have hanswer (r : TokenRegistry) (s : KeyValue) (u : User) (now : DateTime) :
      ((TokenLife.Request.create u (.text "") none).answer r s now).1 =
          .created (r.create s (.text u.username) (.int u.id) (.text "") none now).1 ∧
        ((TokenLife.Request.create u (.text "") none).answer r s now).2 =
          (r.create s (.text u.username) (.int u.id) (.text "") none now).2 := by
    simp only [TokenLife.Request.answer, Prod.map, id, and_self]
  obtain ⟨hout, hstore⟩ := Service.run_of_asked rfl (givenBody_sampleAsking host token) hasked
  refine ⟨kept, view, ?_, ?_⟩
  · rw [hout, (hanswer _ _ _ _).1, hcreated]
    rfl
  · rw [hstore, (hanswer _ _ _ _).2]
    exact hreplaced.holds

end

/-- No host has this name. -/
theorem addressPath_sampleMisplaced (token : String) :
    (sampleWorld token [] []).framework.addressPath (sampleAsking "[::::]" token) =
      .error .badValue :=
  (addressPath_sampleAsking "[::::]" token).trans rfl

end

end Gatehouse.Http
