import Gatehouse.Http.Exchange
import Mathlib.Tactic.Common

/-!
How requests are answered. Every request gets a response, also where a fault was not anticipated:
`delivers_exchange`. A request for an action is answered with what the action gave, or by the fault
that it ended with: `answers_of_found`.
-/
namespace Gatehouse.Http
open Number

/-! ### Where requests go -/

/-- The methods of the routes to an action. -/
def Action.methods : Action → List String
  | .signIn | .signOut | .createToken _ | .pruneTokens _ => ["POST"]
  | .showProfile | .listTokens _ => ["GET"]
  | .deleteToken _ _ => ["DELETE"]
  | .checkHealth => ["HEAD", "GET"]

section
variable {method path : String} {route : Route} {a : Action}

/-- Pages of documentation are no actions. -/
theorem resolveRoute_of_resolve (h : resolve method path = .found route a) :
    resolveRoute method path = .found route a := by
  unfold resolve at h
  split at h
  · split at h <;> cases h
  · exact h

theorem mem_routes_of_resolve (h : resolve method path = .found route a) :
    route ∈ routes ∧ route.method = method ∧ route.action? path = some a := by
  replace h := resolveRoute_of_resolve h
  unfold resolveRoute at h
  dsimp only at h
  split at h
  · next route' a' hfind =>
    obtain ⟨rfl, rfl⟩ := Resolution.found.inj h
    obtain ⟨r, hmem, hmap⟩ := List.mem_filterMap.1 (List.mem_of_find?_eq_some hfind)
    obtain ⟨a, haction, hpair⟩ := Option.map_eq_some_iff.1 hmap
    obtain ⟨rfl, rfl⟩ := Prod.mk.inj hpair
    exact ⟨hmem, by simpa using List.find?_some hfind, haction⟩
  · cases h
  · split at h <;> cases h

theorem Route.exists_values (h : route.action? path = some a) :
    ∃ values, route.action values = some a := by
  unfold Route.action? at h
  split at h
  · obtain ⟨values, -, haction⟩ := Option.bind_eq_some_iff.1 h
    exact ⟨values, haction⟩
  · cases h

theorem constant_eq_some {b : Action} {values : List String} (h : constant a values = some b) :
    b = a := by
  unfold constant at h
  split at h
  · exact (Option.some.inj h).symm
  · cases h

theorem exists_of_single {f : String → Action} {values : List String}
    (h : (match values with | [u] => some (f u) | _ => none) = some a) : ∃ u, a = f u := by
  split at h
  · exact ⟨_, (Option.some.inj h).symm⟩
  · cases h

/-- A route leads to an action by one of its methods. -/
theorem method_mem_of_mem_routes (hmem : route ∈ routes) {values : List String}
    (h : route.action values = some a) : route.method ∈ a.methods := by
  simp only [routes, List.mem_cons, List.not_mem_nil, or_false] at hmem
  rcases hmem with rfl | rfl | rfl | rfl | rfl | rfl | rfl | rfl | rfl
  · obtain rfl := constant_eq_some h
    decide
  · obtain rfl := constant_eq_some h
    decide
  · obtain rfl := constant_eq_some h
    decide
  · obtain ⟨u, rfl⟩ := exists_of_single h
    exact List.mem_singleton_self _
  · obtain ⟨u, rfl⟩ := exists_of_single h
    exact List.mem_singleton_self _
  · obtain ⟨u, rfl⟩ := exists_of_single h
    exact List.mem_singleton_self _
  · dsimp only at h
    split at h
    · obtain rfl := Option.some.inj h
      exact List.mem_singleton_self _
    · cases h
  · obtain rfl := constant_eq_some h
    decide
  · obtain rfl := constant_eq_some h
    decide

theorem method_mem_of_resolve (h : resolve method path = .found route a) : method ∈ a.methods := by
  obtain ⟨hmem, rfl, haction⟩ := mem_routes_of_resolve h
  obtain ⟨values, hvalues⟩ := Route.exists_values haction
  exact method_mem_of_mem_routes hmem hvalues

theorem ne_options_of_resolve (h : resolve method path = .found route a) : method ≠ "OPTIONS" := by
  rintro rfl
  have hmem := method_mem_of_resolve h
  cases a <;> simp [Action.methods] at hmem

end

/-! ### From the routes to the response -/

/-- The response says and sets the same as another one; other headers may have come to it. -/
structure Response.Carries (response inner : Response) : Prop where
  status : response.status = inner.status
  cookies : response.cookies = inner.cookies
  content : response.content = inner.content

/-- The response tells of a fault that nobody anticipated. -/
structure Response.Excuses (response : Response) : Prop where
  status : response.status = 500
  cookies : response.cookies = []

/-- What becomes of the outcome of a route: a browser's question is answered without it, and a fault
is answered as an unexpected one, also where the address of the request has no path. -/
inductive Delivers (f : Framework) (r : Request) (o : Outcome) (response : Response) : Prop where
  | question (hmethod : r.method = "OPTIONS") (hcookies : response.cookies = [])
      (hstatus : response.status = 200 ∨ response.status = 400)
  | passed {inner : Response} {path : String} (h : o.response = .ok inner)
      (hpath : f.addressPath r = .ok path) (hcarries : response.Carries inner)
  | unexpected {fault : Fault} (h : o.response = .error fault ∨ f.addressPath r = .error fault)
      (hexcuses : response.Excuses)

section
variable {s : Service} {f : Framework} {r : Request} {now : DateTime} {elapsed : Binary64}
  {o : Outcome} {response inner : Response} {path : String} {place : Except Fault String}
  {fault : Fault}

theorem Response.carries_setDefault (inner : Response) (name value : String) :
    (inner.setDefault name value).Carries inner := by
  unfold setDefault
  split
  · exact ⟨rfl, rfl, rfl⟩
  · exact ⟨rfl, rfl, rfl⟩

theorem Response.Carries.trans {a b c : Response} (h : a.Carries b) (h' : b.Carries c) :
    a.Carries c :=
  ⟨h.status.trans h'.status, h.cookies.trans h'.cookies, h.content.trans h'.content⟩

theorem carries_secured (path : String) (inner : Response) :
    (secured path inner).Carries inner := by
  have hframed := (Response.carries_setDefault (inner.setDefault "x-frame-options" "DENY")
    "content-security-policy" "frame-ancestors 'none'").trans
      (Response.carries_setDefault inner "x-frame-options" "DENY")
  unfold secured
  dsimp only
  split
  · exact (Response.carries_setDefault _ _ _).trans hframed
  · exact hframed

theorem withSecurityHeaders_of_ok (h : o.response = .ok inner)
    (hpath : f.addressPath r = .ok path) :
    (withSecurityHeaders f r o).response = .ok (secured path inner) := by
  simp only [withSecurityHeaders, h, hpath]
  rfl

theorem withSecurityHeaders_of_error
    (h : o.response = .error fault ∨ f.addressPath r = .error fault) :
    ∃ fault', (withSecurityHeaders f r o).response = .error fault' := by
  unfold withSecurityHeaders
  cases hresponse : o.response with
  | error g => exact ⟨g, rfl⟩
  | ok inner =>
    obtain h | h := h
    · cases hresponse.symm.trans h
    · rw [h]
      exact ⟨fault, rfl⟩

theorem withTiming_of_error (r : Request) (place : Except Fault String) (elapsed : Binary64)
    (h : o.response = .error fault) : withTiming r place elapsed o = o := by
  unfold withTiming
  rw [h]

theorem withTiming_of_ok (r : Request) (place : String) (elapsed : Binary64)
    (h : o.response = .ok inner) : (withTiming r (.ok place) elapsed o).response = .ok inner := by
  unfold withTiming
  rw [h]

theorem guarded_of_ok (place : Except Fault String) (h : o.response = .ok inner) :
    guarded place o = o := by
  unfold guarded
  rw [h]

/-- A fault becomes an answer, or another fault where there is no place to log. -/
theorem guarded_of_error (place : Except Fault String) (h : o.response = .error fault) :
    (∃ detail, (guarded place o).response = .ok (.ofDetail 500 detail)) ∨
      ∃ fault', (guarded place o).response = .error fault' := by
  unfold guarded
  rw [h]
  cases place with
  | error g => exact .inr ⟨g, rfl⟩
  | ok path => exact .inl ⟨_, rfl⟩

/-- A request whose address has a path has a place to be logged under. -/
theorem exists_loggedPath (hpath : f.addressPath r = .ok path) (resolution : Resolution) :
    ∃ place, loggedPath f r resolution = .ok place := by
  cases resolution with
  | found route a => exact ⟨_, rfl⟩
  | otherMethod route => exact ⟨_, rfl⟩
  | _ => exact ⟨path, hpath⟩

theorem status_of_question (p : OriginPolicy) (r : Request) (origin method : String) :
    (p.answerQuestion r origin method).cookies = [] ∧
      ((p.answerQuestion r origin method).status = 200 ∨
        (p.answerQuestion r origin method).status = 400) := by
  unfold OriginPolicy.answerQuestion
  dsimp only
  split
  · exact ⟨rfl, .inl rfl⟩
  · exact ⟨rfl, .inr rfl⟩

/-- The outer layers answer a browser's question, and else leave a response as it is, but for
headers, and answer a fault. -/
theorem answered_cases (s : Service) (p : OriginPolicy) (r : Request) (o : Outcome) :
    ∃ response, (answered s r (p.apply r o)).response = .ok response ∧
      ((r.method = "OPTIONS" ∧ response.cookies = [] ∧
          (response.status = 200 ∨ response.status = 400)) ∨
        (∃ inner, o.response = .ok inner ∧ response.Carries inner) ∨
        (∃ fault, o.response = .error fault) ∧ response.Excuses) := by
  have hthrough : ∃ response, (answered s r (o.map fun response => { response with
        headers := response.headers ++ p.responseHeaders (r.header? "origin") })).response =
        .ok response ∧
      ((∃ inner, o.response = .ok inner ∧ response.Carries inner) ∨
        (∃ fault, o.response = .error fault) ∧ response.Excuses) := by
    unfold answered
    dsimp only [Outcome.map]
    cases o.response with
    | ok inner => exact ⟨_, rfl, .inl ⟨inner, rfl, rfl, rfl, rfl⟩⟩
    | error fault => exact ⟨_, rfl, .inr ⟨⟨fault, rfl⟩, rfl, rfl⟩⟩
  obtain ⟨response, hresponse, hcases⟩ := hthrough
  unfold OriginPolicy.apply
  dsimp only
  split
  · next origin method _ _ =>
    split
    · next hmethod => exact ⟨_, rfl, .inl ⟨hmethod, status_of_question p r origin method⟩⟩
    · exact ⟨response, hresponse, .inr hcases⟩
  · exact ⟨response, hresponse, .inr hcases⟩

/-- Every request gets a response. -/
theorem delivers_exchange [Platform] (s : Service) (r : Request) (now : DateTime)
    (elapsed : Binary64) : ∃ response, (exchange s r now elapsed).1.response = .ok response ∧
      Delivers s.framework r (answerRoute s r now (resolve r.method r.path)).1 response := by
  unfold exchange
  dsimp only
  generalize (answerRoute s r now (resolve r.method r.path)).1 = o
  generalize hplace : loggedPath s.framework r (resolve r.method r.path) = place
  obtain ⟨response, hresponse, hcases⟩ := answered_cases s (.ofConfig s.config.service) r
    (guarded place (withTiming r place elapsed (withSecurityHeaders s.framework r o)))
  refine ⟨response, hresponse, ?_⟩
  -- A fault that the inner layers meet is answered by one of the outer ones.
  have hunexpected {fault : Fault}
      (h : o.response = .error fault ∨ s.framework.addressPath r = .error fault) :
      Delivers s.framework r o response := by
    obtain ⟨g, hg⟩ := withSecurityHeaders_of_error h
    rw [withTiming_of_error r place elapsed hg] at hcases
    obtain ⟨hmethod, hcookies, hstatus⟩ | ⟨inner, hinner, hcarries⟩ | ⟨-, hexcuses⟩ := hcases
    · exact .question hmethod hcookies hstatus
    · obtain ⟨detail, hdetail⟩ | ⟨g', hg'⟩ := guarded_of_error place hg
      · obtain rfl := Except.ok.inj (hdetail.symm.trans hinner)
        exact .unexpected h ⟨hcarries.status, hcarries.cookies⟩
      · cases hg'.symm.trans hinner
    · exact .unexpected h hexcuses
  cases ho : o.response with
  | error fault => exact hunexpected (.inl ho)
  | ok first =>
    cases hpath : s.framework.addressPath r with
    | error fault => exact hunexpected (.inr hpath)
    | ok path =>
      obtain ⟨logged, hlogged⟩ := exists_loggedPath hpath (resolve r.method r.path)
      obtain rfl := hplace.symm.trans hlogged
      have hpassed := withTiming_of_ok r logged elapsed (withSecurityHeaders_of_ok ho hpath)
      rw [guarded_of_ok _ hpassed, hpassed] at hcases
      obtain ⟨hmethod, hcookies, hstatus⟩ | ⟨inner, hinner, hcarries⟩ | ⟨⟨g, hg⟩, -⟩ := hcases
      · exact .question hmethod hcookies hstatus
      · obtain rfl := Except.ok.inj hinner
        exact .passed ho hpath (hcarries.trans (carries_secured path first))
      · cases hg

end

/-! ### Answers to faults -/

section
variable {framework : Framework} {cookies : CookieConfig} {now : DateTime} {r : Request} {f : Fault}
  {response : Response}

theorem rendering_of_unauthorized {k : ServiceErrorKind} (h : k.isUnauthorized = true) :
    (rendering k).status = 401 := by
  cases k <;> first | rfl | cases h

theorem rendering_of_others {k : ServiceErrorKind} (h : k.isUnauthorized = false) :
    400 ≤ (rendering k).status ∧ (rendering k).status ≠ 401 := by
  cases k <;> first | decide | cases h

/-- A failed authentication is answered with 401 and drops the session cookies, if their headers can
be written. -/
theorem clears_of_answerFault (hf : f.isUnauthorized = true)
    (h : (answerFault framework cookies now r f).response = .ok response) :
    response.status = 401 ∧ clearSession cookies now = ⟨.ok (), response.cookies⟩ := by
  cases f with
  | service e =>
    have hkind : e.kind.isUnauthorized = true := hf
    simp only [answerFault, answerError, hkind, if_true] at h
    cases hout : (clearSession cookies now).outcome with
    | error f =>
      rw [hout] at h
      cases h
    | ok u =>
      rw [hout] at h
      obtain rfl := Except.ok.inj h
      refine ⟨rendering_of_unauthorized hkind, ?_⟩
      show clearSession cookies now = ⟨.ok (), (clearSession cookies now).headers⟩
      rw [← hout]
  | _ => cases hf

theorem eq_of_checkWritable {v w : Json} (h : checkWritable v = .ok w) : w = v := by
  unfold checkWritable at h
  split at h
  · cases h
  · split at h
    · cases h
    · exact (Except.ok.inj h).symm

theorem ofJson_of_answerBadRequest {errors : List FieldError}
    (h : (answerBadRequest framework r errors).response = .ok response) :
    ∃ v, response = .ofJson 422 v := by
  simp only [answerBadRequest, Outcome.ofExcept] at h
  split at h
  · cases h
  · obtain ⟨path, -, h⟩ := bind_eq_ok.1 h
    obtain ⟨v, -, h⟩ := bind_eq_ok.1 h
    exact ⟨v, (Except.ok.inj h).symm⟩

/-- A fault that is answered is answered with a JSON value; but for a failed authentication this is
an error of another status, and there is no cookie. -/
theorem exists_ofJson_of_answerFault
    (h : (answerFault framework cookies now r f).response = .ok response) :
    ∃ status value sent, response = .ofJson status value sent ∧
      (f.isUnauthorized = false → 400 ≤ status ∧ status ≠ 401 ∧ sent = []) := by
  cases f with
  | service e =>
    obtain ⟨⟨⟩, -, rfl⟩ := map_eq_ok.1 h
    refine ⟨_, _, _, rfl, fun hf => ?_⟩
    have hkind : e.kind.isUnauthorized = false := hf
    obtain ⟨hlow, hne⟩ := rendering_of_others hkind
    rw [hkind]
    exact ⟨hlow, hne, rfl⟩
  | badRequest errors =>
    obtain ⟨v, rfl⟩ := ofJson_of_answerBadRequest h
    exact ⟨_, _, _, rfl, fun _ => ⟨by decide, by decide, rfl⟩⟩
  | invalid errors =>
    simp only [answerFault, answerInvalid] at h
    split at h
    · cases h
    · obtain rfl := Except.ok.inj h
      exact ⟨_, _, _, rfl, fun _ => ⟨by decide, by decide, rfl⟩⟩
  | unreadableBody =>
    obtain rfl := Except.ok.inj h
    exact ⟨_, _, _, rfl, fun _ => ⟨by decide, by decide, rfl⟩⟩
  | _ => cases h

end

/-! ### Answers to actions -/

section
variable [Platform]

/-- What keeps a request for an action from the reply of this action: the action ends with a fault,
its reply cannot be written, or the address of the request has no path. -/
inductive Service.Fails (s : Service) (r : Request) (now : DateTime) (a : Action) (f : Fault) :
    Prop where
  | action (h : (s.run r now a).1.outcome = .error f)
  | reply {reply : Reply} (h : (s.run r now a).1.outcome = .ok reply)
      (hvalue : checkWritable reply.value = .error f)
  | address (h : s.framework.addressPath r = .error f)

/-- How a request for an action is answered: with what the action gave and the cookies that it
wrote; as a failed authentication; or as another failure, without any cookie. -/
inductive Answers (s : Service) (r : Request) (now : DateTime) (a : Action) (response : Response) :
    Prop where
  | done {reply : Reply} {path : String} (h : (s.run r now a).1.outcome = .ok reply)
      (hvalue : checkWritable reply.value = .ok reply.value)
      (hpath : s.framework.addressPath r = .ok path)
      (hstatus : response.status = reply.status)
      (hcookies : response.cookies = (s.run r now a).1.headers)
      (hcontent : response.content = .json reply.value)
  | refused {f : Fault} (h : (s.run r now a).1.outcome = .error f) (hf : f.isUnauthorized = true)
      (hstatus : response.status = 401)
      (hcookies : clearSession s.config.cookies now = ⟨.ok (), response.cookies⟩)
  | failed {f : Fault} (h : s.Fails r now a f)
      (hstatus : 400 ≤ response.status ∧ response.status ≠ 401) (hcookies : response.cookies = [])

section
variable {s : Service} {r : Request} {now : DateTime} {route : Route} {a : Action}

theorem answerRoute_of_ok {reply : Reply} (h : (s.run r now a).1.outcome = .ok reply) :
    (answerRoute s r now (.found route a)).1.response =
      answerReply reply (s.run r now a).1.headers := by
  simp only [answerRoute, h]
  rfl

theorem answerRoute_of_error {f : Fault} (h : (s.run r now a).1.outcome = .error f) :
    (answerRoute s r now (.found route a)).1 =
      answerFault s.framework s.config.cookies now r f := by
  simp only [answerRoute, h]

theorem store_of_found (h : resolve r.method r.path = .found route a) (elapsed : Binary64) :
    (exchange s r now elapsed).2 = (s.run r now a).2 := by
  unfold exchange
  simp only [h, answerRoute]
  split <;> rfl

/-- A request for an action is answered by it. -/
theorem answers_of_found (s : Service) (now : DateTime)
    (h : resolve r.method r.path = .found route a) (elapsed : Binary64) :
    ∃ response, (exchange s r now elapsed).1.response = .ok response ∧
      Answers s r now a response := by
  obtain ⟨response, hresponse, hdelivers⟩ := delivers_exchange s r now elapsed
  rw [h] at hdelivers
  refine ⟨response, hresponse, ?_⟩
  have hfailed {f : Fault} (hfails : s.Fails r now a f) (hexcuses : response.Excuses) :
      Answers s r now a response := by
    refine .failed hfails ?_ hexcuses.cookies
    rw [hexcuses.status]
    decide
  cases hout : (s.run r now a).1.outcome with
  | ok reply =>
    have hroute : (answerRoute s r now (.found route a)).1.response = _ := answerRoute_of_ok hout
    cases hdelivers with
    | question hmethod => exact absurd hmethod (ne_options_of_resolve h)
    | passed hinner hpath hcarries =>
      obtain ⟨v, hvalue, rfl⟩ := map_eq_ok.1 (hroute.symm.trans hinner)
      obtain rfl := eq_of_checkWritable hvalue
      exact .done hout hvalue hpath hcarries.status hcarries.cookies hcarries.content
    | unexpected hf hexcuses =>
      obtain hf | hf := hf
      · exact hfailed (.reply hout (map_eq_error.1 (hroute.symm.trans hf))) hexcuses
      · exact hfailed (.address hf) hexcuses
  | error f =>
    have hroute : (answerRoute s r now (.found route a)).1.response = _ :=
      congrArg Outcome.response (answerRoute_of_error hout)
    cases hdelivers with
    | question hmethod => exact absurd hmethod (ne_options_of_resolve h)
    | passed hinner hpath hcarries =>
      have hanswer := hroute.symm.trans hinner
      cases hf : f.isUnauthorized with
      | true =>
        obtain ⟨hstatus, hclears⟩ := clears_of_answerFault hf hanswer
        rw [← hcarries.cookies] at hclears
        exact .refused hout hf (hcarries.status.trans hstatus) hclears
      | false =>
        obtain ⟨status, value, sent, rfl, hsent⟩ := exists_ofJson_of_answerFault hanswer
        obtain ⟨hlow, hne, rfl⟩ := hsent hf
        have hstatus : response.status = status := hcarries.status
        rw [← hstatus] at hlow hne
        exact .failed (.action hout) ⟨hlow, hne⟩ hcarries.cookies
    | unexpected _ hexcuses => exact hfailed (.action hout) hexcuses

/-- An action that succeeds with a reply that can be written is answered with it, where the address
of the request has a path. -/
theorem Answers.done_of_ok {response : Response} (h : Answers s r now a response) {reply : Reply}
    (hout : (s.run r now a).1.outcome = .ok reply)
    (hvalue : checkWritable reply.value = .ok reply.value) {path : String}
    (hpath : s.framework.addressPath r = .ok path) :
    response.status = reply.status ∧ response.cookies = (s.run r now a).1.headers ∧
      response.content = .json reply.value := by
  cases h with
  | done hout' _ _ hstatus hcookies hcontent =>
    obtain rfl := Except.ok.inj (hout.symm.trans hout')
    exact ⟨hstatus, hcookies, hcontent⟩
  | refused hout' => cases hout.symm.trans hout'
  | failed hfails =>
    cases hfails with
    | action hout' => cases hout.symm.trans hout'
    | reply hout' hvalue' =>
      obtain rfl := Except.ok.inj (hout.symm.trans hout')
      cases hvalue.symm.trans hvalue'
    | address hpath' => cases hpath.symm.trans hpath'

/-- A request for no action changes nothing, and is answered without a cookie. -/
theorem answered_of_not_found (s : Service) (now : DateTime)
    (h : ∀ route a, resolve r.method r.path ≠ .found route a) (elapsed : Binary64) :
    (exchange s r now elapsed).2 = s.store ∧
      ∃ response, (exchange s r now elapsed).1.response = .ok response ∧ response.cookies = [] ∧
        response.status ≠ 401 := by
  obtain ⟨response, hresponse, hdelivers⟩ := delivers_exchange s r now elapsed
  have hroute : (answerRoute s r now (resolve r.method r.path)).2 = s.store ∧
      ∀ inner, (answerRoute s r now (resolve r.method r.path)).1.response = .ok inner →
        inner.cookies = [] ∧ inner.status ≠ 401 := by
    cases hresolve : resolve r.method r.path with
    | found route a => exact absurd hresolve (h route a)
    | elsewhere path =>
      refine ⟨rfl, fun inner hinner => ?_⟩
      obtain ⟨address, -, rfl⟩ := map_eq_ok.1 hinner
      exact ⟨rfl, (by decide : 307 ≠ 401)⟩
    | _ =>
      refine ⟨rfl, fun inner hinner => ?_⟩
      obtain rfl := Except.ok.inj hinner
      exact ⟨rfl, by simp [notAllowed, Response.add, Response.ofDetail, Response.ofJson]⟩
  refine ⟨hroute.1, response, hresponse, ?_⟩
  cases hdelivers with
  | question _ hnone hquestion =>
    refine ⟨hnone, ?_⟩
    omega
  | passed hinner hpath hcarries =>
    obtain ⟨hcookies, hstatus⟩ := hroute.2 _ hinner
    exact ⟨hcarries.cookies.trans hcookies, hcarries.status ▸ hstatus⟩
  | unexpected hf hexcuses => exact ⟨hexcuses.cookies, by rw [hexcuses.status]; decide⟩

end

end

end Gatehouse.Http
