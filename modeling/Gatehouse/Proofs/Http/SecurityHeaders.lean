import Gatehouse.Proofs.Http.Secrecy
import Gatehouse.Proofs.Http.SessionCookies

/-!
Which responses are kept out of frames and of caches. The layer that sees to it lies inside the ones
that answer the faults that nobody anticipated, so the answers to these go without; and it goes by
the path in the address of a request, which it cannot always read: `secured_iff`.
-/
namespace Gatehouse

namespace Json

theorem storableItems_eq (items : List Json) : storableItems items = items.all storable := by
  induction items with
  | nil => rfl
  | cons v rest ih => rw [storableItems, ih, List.all_cons]

theorem hasNonFiniteItems_eq (items : List Json) :
    hasNonFiniteItems items = items.any hasNonFinite := by
  induction items with
  | nil => rfl
  | cons v rest ih => rw [hasNonFiniteItems, ih, List.any_cons]

theorem hasUnpairedItems_eq (items : List Json) :
    hasUnpairedItems items = items.any hasUnpaired := by
  induction items with
  | nil => rfl
  | cons v rest ih => rw [hasUnpairedItems, ih, List.any_cons]

end Json

namespace Http
open Number Text

/-- The names of the headers that keep a response out of frames and of caches. -/
def protectiveNames : List String := ["x-frame-options", "content-security-policy", "cache-control"]

/-- The request is a browser's question whether it may send another one. The routes never see it. -/
def Request.IsQuestion (r : Request) : Prop :=
  r.method = "OPTIONS" ∧ (r.header? "origin").isSome = true ∧
    (r.header? "access-control-request-method").isSome = true

instance (r : Request) : Decidable r.IsQuestion := inferInstanceAs (Decidable (_ ∧ _ ∧ _))

/-- Responses under this path hold private data. -/
def IsPrivate (path : String) : Prop := ∃ p ∈ privatePrefixes, p.toList <+: path.toList

instance (path : String) : Decidable (IsPrivate path) := inferInstanceAs (Decidable (∃ p ∈ _, _))

namespace Response

/-- The values of a header, in order. -/
def headerValues (r : Response) (name : String) : List String :=
  r.headers.filterMap fun (n, v) => if n = name then some v else none

/-- The response has no protective header at all. -/
def Bare (r : Response) : Prop := ∀ name ∈ protectiveNames, r.headerValues name = []

/-- The response may not be framed, and if the path is private it may not be stored. -/
structure Secured (response : Response) (path : String) : Prop where
  frameOptions : response.headerValues "x-frame-options" = ["DENY"]
  contentPolicy : response.headerValues "content-security-policy" = ["frame-ancestors 'none'"]
  cacheControl : IsPrivate path → response.headerValues "cache-control" = ["no-store"]

end Response

/-- A faulty field cannot be told to the client: its value has bytes that are no text, a number that
is not finite or an unpaired surrogate, or a name on the way to it has one. -/
def Untold (e : FieldError) : Prop :=
  e.input.storable = false ∨ e.input.hasNonFinite = true ∨ e.input.hasUnpaired = true ∨
    ∃ name, .name name ∈ e.path ∧ name.string? = none

/-- No answer can be given to the fault. It is of a kind without one, or its answer cannot be
written: the headers that clear a session, or the faulty fields of a request. -/
def Unanswered (cookies : CookieConfig) (now : DateTime) : Fault → Prop
  | .service e => e.kind.isUnauthorized = true ∧ ∃ f, (clearSession cookies now).outcome = .error f
  | .badRequest errors => ∃ e ∈ errors, Untold e
  | .invalid _ | .unreadableBody => False
  | _ => True

section
variable [Platform]

/-- A request ends in a fault that nobody anticipated: its action ends in one without an answer,
what its action replies cannot be written, or the address that it is sent on to cannot be told. -/
inductive Service.Unforeseen (s : Service) (r : Request) (now : DateTime) : Prop where
  | fault {a : Action} {f : Fault} (hasks : r.Asks a) (hout : (s.run r now a).1.outcome = .error f)
      (hf : Unanswered s.config.cookies now f)
  | reply {a : Action} {reply : Reply} (hasks : r.Asks a)
      (hout : (s.run r now a).1.outcome = .ok reply)
      (hvalue : reply.value.hasNonFinite = true ∨ reply.value.hasUnpaired = true)
  | address {path : String} {f : Fault} (hmoved : resolve r.method r.path = .elsewhere path)
      (haddress : redirectAddress r path = .error f)

end

section
variable {s : Service} {r : Request} {now : DateTime} {o : Outcome} {response inner : Response}
  {name path : String} {cookies : CookieConfig} {framework : Framework} {f : Fault}

/-! ### Headers -/

namespace Response

theorem headerValues_eq_nil : response.headerValues name = [] ↔
    ∀ header ∈ response.headers, header.1 ≠ name := by
  simp only [headerValues, List.filterMap_eq_nil_iff]
  constructor
  · intro h header hmem hname
    simpa [hname] using h header hmem
  · intro h header hmem
    exact if_neg (h header hmem)

theorem bare_of_unprotective (h : ∀ header ∈ response.headers, header.1 ∉ protectiveNames) :
    response.Bare := by
  intro name hname
  rw [headerValues_eq_nil]
  rintro header hmem rfl
  exact h header hmem hname

theorem headerValues_append (response : Response) (more : List (String × String)) (name : String) :
    ({ response with headers := response.headers ++ more } : Response).headerValues name =
      response.headerValues name ++
        more.filterMap fun (n, v) => if n = name then some v else none :=
  List.filterMap_append

/-- A header that is not there yet is set, and the others stay as they are. -/
theorem headerValues_setDefault (h : response.headerValues name = []) (value other : String) :
    (response.setDefault name value).headerValues other =
      if name = other then [value] else response.headerValues other := by
  have hnone : response.headers.any (·.1 == name) = false := by
    simpa using headerValues_eq_nil.1 h
  unfold setDefault
  rw [hnone, if_neg Bool.false_ne_true, headerValues_append]
  split
  · next hname =>
    subst hname
    simp [h]
  · next hname => simp [hname]

theorem Secured.not_bare (h : response.Secured path) : ¬ response.Bare := by
  intro hbare
  have hnone := hbare "x-frame-options" (by decide)
  rw [h.frameOptions] at hnone
  cases hnone

/-- Other headers neither protect a response nor take its protection away. -/
theorem headerValues_congr {more : List (String × String)}
    (h : ∀ header ∈ more, header.1 ∉ protectiveNames) (hname : name ∈ protectiveNames) :
    ({ response with headers := response.headers ++ more } : Response).headerValues name =
      response.headerValues name := by
  rw [headerValues_append, List.filterMap_eq_nil_iff.2, List.append_nil]
  intro header hmem
  apply if_neg
  rintro rfl
  exact h header hmem hname

end Response

/-! ### What the layers do to a response -/

theorem privatePrefixes_any :
    (privatePrefixes.any fun p => p.toList.isPrefixOf path.toList) = true ↔ IsPrivate path := by
  simp only [List.any_eq_true, List.isPrefixOf_iff_prefix, IsPrivate]

/-- A response without protection is given the one that its path asks for. -/
theorem headerValues_secured (hinner : inner.Bare) (path : String) :
    (secured path inner).headerValues "x-frame-options" = ["DENY"] ∧
      (secured path inner).headerValues "content-security-policy" = ["frame-ancestors 'none'"] ∧
      (secured path inner).headerValues "cache-control" =
        if IsPrivate path then ["no-store"] else [] := by
  have hfirst := Response.headerValues_setDefault (hinner "x-frame-options" (by decide)) "DENY"
  have hsecond := Response.headerValues_setDefault
    ((hfirst "content-security-policy").trans (hinner _ (by decide))) "frame-ancestors 'none'"
  have hstore : ((inner.setDefault "x-frame-options" "DENY").setDefault "content-security-policy"
      "frame-ancestors 'none'").headerValues "cache-control" = [] :=
    (hsecond "cache-control").trans ((hfirst _).trans (hinner _ (by decide)))
  have hthird := Response.headerValues_setDefault hstore "no-store"
  unfold secured
  dsimp only
  split
  · next hprivate =>
    rw [if_pos (privatePrefixes_any.1 hprivate)]
    exact ⟨by simp [hthird, hsecond, hfirst], by simp [hthird, hsecond], by simp [hthird]⟩
  · next hpublic =>
    rw [if_neg fun h => hpublic (privatePrefixes_any.2 h)]
    exact ⟨by simp [hsecond, hfirst], by simp [hsecond], hstore⟩

theorem responseHeaders_unprotective (p : OriginPolicy) (origin : Option String) :
    ∀ header ∈ p.responseHeaders origin, header.1 ∉ protectiveNames := by
  have hplain : ∀ name ∈ ["vary", "access-control-allow-origin",
      "access-control-allow-credentials", "access-control-expose-headers"],
      name ∉ protectiveNames := by decide
  intro header hmem
  apply hplain
  cases origin with
  | none =>
    simp only [OriginPolicy.responseHeaders, List.mem_ite_nil_right, List.mem_singleton] at hmem
    simp [hmem]
  | some o =>
    simp only [OriginPolicy.responseHeaders, OriginPolicy.originHeader,
      OriginPolicy.credentialsHeader, List.mem_append, List.mem_ite_nil_right,
      List.mem_ite_nil_left, List.mem_singleton] at hmem
    rcases hmem with ((⟨-, rfl⟩ | horigin) | ⟨-, rfl⟩) | ⟨-, rfl⟩
    · simp
    · split at horigin
      · simp [List.mem_singleton.1 horigin]
      · simp [List.mem_singleton.1 (List.mem_ite_nil_right.1 horigin).2]
    · simp
    · simp

/-- A request that is no browser's question passes the headers for other origins. -/
theorem apply_of_not_question (p : OriginPolicy) (hr : ¬ r.IsQuestion) (o : Outcome) :
    p.apply r o = o.map fun response =>
      { response with headers := response.headers ++ p.responseHeaders (r.header? "origin") } := by
  unfold OriginPolicy.apply
  dsimp only
  split
  · next origin method horigin hmethod =>
    refine if_neg fun hoptions => hr ⟨hoptions, ?_, ?_⟩
    · rw [horigin]
      rfl
    · rw [hmethod]
      rfl
  · rfl

/-- The outer layers leave the protection of a response as it is, and give none to the answer to a
fault. -/
theorem answered_of_not_question (s : Service) (p : OriginPolicy) (hr : ¬ r.IsQuestion)
    (o : Outcome) : ∃ response, (answered s r (p.apply r o)).response = .ok response ∧
      (∀ inner, o.response = .ok inner → response.status = inner.status ∧
        ∀ name ∈ protectiveNames, response.headerValues name = inner.headerValues name) ∧
      ∀ f, o.response = .error f → response.status = 500 ∧ response.Bare := by
  rw [apply_of_not_question p hr]
  unfold answered
  dsimp only [Outcome.map]
  cases o.response with
  | ok inner =>
    refine ⟨_, rfl, ?_, nofun⟩
    rintro inner' hinner
    obtain rfl := Except.ok.inj hinner
    exact ⟨rfl, fun name hname =>
      Response.headerValues_congr (responseHeaders_unprotective p _) hname⟩
  | error f =>
    refine ⟨_, rfl, nofun, fun f' _ => ⟨rfl, ?_⟩⟩
    exact Response.bare_of_unprotective (by simp [faultResponse, protectiveNames])

/-! ### Faults without an answer -/

theorem storable_fieldErrorJson (e : FieldError) :
    (fieldErrorJson e).storable = e.input.storable := by
  simp only [fieldErrorJson, Json.storable, Json.storableMembers, Json.storableItems_eq,
    List.all_map]
  rw [List.all_eq_true.2]
  · simp
  · rintro (name | index) - <;> rfl

theorem hasNonFinite_fieldErrorJson (e : FieldError) :
    (fieldErrorJson e).hasNonFinite = e.input.hasNonFinite := by
  simp only [fieldErrorJson, Json.hasNonFinite, Json.hasNonFiniteMembers, Json.hasNonFiniteItems_eq,
    List.any_map]
  rw [List.any_eq_false.2]
  · simp
  · rintro (name | index) - <;> simp [Json.hasNonFinite]

theorem hasUnpaired_fieldErrorJson (e : FieldError) : (fieldErrorJson e).hasUnpaired = true ↔
    e.input.hasUnpaired = true ∨ ∃ name, .name name ∈ e.path ∧ name.string? = none := by
  have hstring (t : String) : (AnyText.string t).string? = some t := rfl
  simp only [fieldErrorJson, Json.hasUnpaired, Json.hasUnpairedMembers, Json.hasUnpairedItems_eq,
    List.any_map, hstring, Option.isNone_some, Bool.false_or, Bool.or_false, Bool.or_eq_true]
  rw [or_comm, List.any_eq_true]
  refine or_congr_right ⟨?_, ?_⟩
  · rintro ⟨name | index, hmem, hunpaired⟩
    · exact ⟨name, hmem, Option.isNone_iff_eq_none.1 hunpaired⟩
    · cases hunpaired
  · rintro ⟨name, hmem, hnone⟩
    exact ⟨.name name, hmem, Option.isNone_iff_eq_none.2 hnone⟩

theorem exists_error_checkWritable (v : Json) :
    (∃ f, checkWritable v = .error f) ↔ v.hasNonFinite = true ∨ v.hasUnpaired = true := by
  unfold checkWritable
  split
  · next h => simp [h]
  · next h =>
    split
    · next h' => simp [h']
    · next h' => simp [h, h']

/-- Faulty fields can all be told, or one of them cannot. -/
theorem exists_error_answerBadRequest (hpath : framework.addressPath r = .ok path)
    (errors : List FieldError) :
    (∃ f, (answerBadRequest framework r errors).response = .error f) ↔
      ∃ e ∈ errors, Untold e := by
  have hforeign : (Json.object [("detail", .array (errors.map fieldErrorJson))]).storable = false ↔
      ∃ e ∈ errors, e.input.storable = false := by
    simp [Json.storable, Json.storableMembers, Json.storableItems_eq, storable_fieldErrorJson]
  have hwritable : (∃ f, checkWritable (.object [("detail", .array (errors.map fieldErrorJson))]) =
      .error f) ↔ (∃ e ∈ errors, e.input.hasNonFinite = true) ∨
        ∃ e ∈ errors, (fieldErrorJson e).hasUnpaired = true := by
    rw [exists_error_checkWritable]
    simp [Json.hasNonFinite, Json.hasUnpaired, Json.hasNonFiniteMembers, Json.hasUnpairedMembers,
      Json.hasNonFiniteItems_eq, Json.hasUnpairedItems_eq, AnyText.string?,
      hasNonFinite_fieldErrorJson]
  have huntold : (∃ e ∈ errors, Untold e) ↔ (∃ e ∈ errors, e.input.storable = false) ∨
      (∃ e ∈ errors, e.input.hasNonFinite = true) ∨
        ∃ e ∈ errors, (fieldErrorJson e).hasUnpaired = true := by
    simp only [Untold, hasUnpaired_fieldErrorJson, and_or_left, exists_or]
  rw [huntold, ← hwritable]
  simp only [answerBadRequest, Outcome.ofExcept]
  split
  · next hbytes => exact iff_of_true ⟨_, rfl⟩ (.inl (hforeign.1 (by simpa using hbytes)))
  · next hplain =>
    have hnone : ¬ ∃ e ∈ errors, e.input.storable = false := by
      rw [← hforeign]
      simpa using hplain
    rw [or_iff_right hnone, hpath]
    refine exists_congr fun f => ⟨?_, ?_⟩
    · intro h
      obtain h | ⟨path, -, h⟩ := bind_eq_error.1 h
      · cases h
      · obtain h | ⟨v, -, h⟩ := bind_eq_error.1 h
        · exact h
        · cases h
    · intro h
      exact bind_eq_error.2 (.inr ⟨path, rfl, bind_eq_error.2 (.inl h)⟩)

theorem exists_error_answerFault (hpath : framework.addressPath r = .ok path)
    (cookies : CookieConfig) (now : DateTime) (f : Fault) :
    (∃ f', (answerFault framework cookies now r f).response = .error f') ↔
      Unanswered cookies now f := by
  cases f with
  | service e =>
    simp only [answerFault, answerError, Unanswered]
    cases hkind : e.kind.isUnauthorized with
    | true =>
      simp only [if_true, true_and]
      cases (clearSession cookies now).outcome <;> simp [Except.map]
    | false => simp [Except.map]
  | badRequest errors =>
    exact exists_error_answerBadRequest hpath errors
  | invalid errors => simp [answerFault, answerInvalid, hpath, Unanswered]
  | unreadableBody => simp [answerFault, Outcome.ofResponse, Outcome.ofExcept, Unanswered]
  | _ => simp [answerFault, Outcome.ofExcept, Unanswered]

end

section
variable [Platform] {s : Service} {r : Request} {now : DateTime} {inner : Response} {path : String}

/-- The routes leave the protection of responses to the layer around them. -/
theorem bare_of_answerRoute {resolution : Resolution}
    (h : (answerRoute s r now resolution).1.response = .ok inner) : inner.Bare := by
  apply Response.bare_of_unprotective
  have htyped (hheaders : inner.headers = [("content-type", "application/json")]) :
      ∀ header ∈ inner.headers, header.1 ∉ protectiveNames := by
    rw [hheaders]
    decide
  cases resolution with
  | found route a =>
    cases hout : (s.run r now a).1.outcome with
    | ok rep =>
      rw [answerRoute_of_ok hout] at h
      obtain ⟨v, -, rfl⟩ := map_eq_ok.1 h
      exact htyped rfl
    | error f =>
      rw [answerRoute_of_error hout] at h
      obtain ⟨status, value, sent, rfl, -⟩ := exists_ofJson_of_answerFault h
      exact htyped rfl
  | otherMethod route =>
    obtain rfl := Except.ok.inj h
    simp [notAllowed, Response.add, Response.ofDetail, Response.ofJson, protectiveNames]
  | page p =>
    obtain rfl := Except.ok.inj h
    simp [protectiveNames]
  | unreadPage =>
    obtain rfl := Except.ok.inj h
    simp [notAllowed, Response.add, Response.ofDetail, Response.ofJson, protectiveNames]
  | elsewhere path =>
    obtain ⟨address, -, rfl⟩ := map_eq_ok.1 h
    simp [redirect, protectiveNames]
  | nowhere =>
    obtain rfl := Except.ok.inj h
    exact htyped rfl

/-- The routes give no response exactly where they end in a fault that nobody anticipated. -/
theorem exists_error_answerRoute (s : Service) (now : DateTime)
    (hpath : s.framework.addressPath r = .ok path) :
    (∃ f, (answerRoute s r now (resolve r.method r.path)).1.response = .error f) ↔
      s.Unforeseen r now := by
  constructor
  · rintro ⟨f, hf⟩
    cases hresolve : resolve r.method r.path with
    | found route a =>
      rw [hresolve] at hf
      cases hout : (s.run r now a).1.outcome with
      | ok rep =>
        rw [answerRoute_of_ok hout] at hf
        exact .reply ⟨route, hresolve⟩ hout
          ((exists_error_checkWritable _).1 ⟨f, map_eq_error.1 hf⟩)
      | error f' =>
        rw [answerRoute_of_error hout] at hf
        exact .fault ⟨route, hresolve⟩ hout
          ((exists_error_answerFault hpath _ _ _).1 ⟨f, hf⟩)
    | elsewhere path' =>
      rw [hresolve] at hf
      exact .address hresolve (map_eq_error.1 hf)
    | _ =>
      rw [hresolve] at hf
      cases hf
  · rintro (⟨⟨route, hresolve⟩, hout, hunanswered⟩ | ⟨⟨route, hresolve⟩, hout, hvalue⟩ |
      ⟨hmoved, haddress⟩)
    · rw [hresolve, answerRoute_of_error hout]
      exact (exists_error_answerFault hpath _ _ _).2 hunanswered
    · rw [hresolve, answerRoute_of_ok hout]
      obtain ⟨f, hf⟩ := (exists_error_checkWritable _).2 hvalue
      exact ⟨f, map_eq_error.2 hf⟩
    · rw [hmoved]
      exact ⟨_, map_eq_error.2 haddress⟩

/-! ### Which responses are protected -/

section
variable (hr : ¬ r.IsQuestion)
include hr

/-- The answer to a fault that nobody anticipated has no protection, and neither has the one to a
request whose address has no path. -/
theorem bare_of_unforeseen (elapsed : Binary64)
    (h : s.Unforeseen r now ∨ ∃ f, s.framework.addressPath r = .error f) :
    ∃ response, (exchange s r now elapsed).1.response = .ok response ∧ response.status = 500 ∧
      response.Bare := by
  unfold exchange
  dsimp only
  generalize hplace : loggedPath s.framework r (resolve r.method r.path) = place
  have hfault : ∃ f, (answerRoute s r now (resolve r.method r.path)).1.response = .error f ∨
      s.framework.addressPath r = .error f := by
    cases hpath : s.framework.addressPath r with
    | error f => exact ⟨f, .inr rfl⟩
    | ok path =>
      obtain hunforeseen | ⟨f, hf⟩ := h
      · obtain ⟨f, hf⟩ := (exists_error_answerRoute s now hpath).2 hunforeseen
        exact ⟨f, .inl hf⟩
      · cases hpath.symm.trans hf
  obtain ⟨f, hfault⟩ := hfault
  obtain ⟨g, hg⟩ := withSecurityHeaders_of_error hfault
  rw [withTiming_of_error r place elapsed hg]
  obtain ⟨response, hresponse, hpassed, hanswered⟩ := answered_of_not_question s
    (.ofConfig s.config.service) hr (guarded place
      (withSecurityHeaders s.framework r (answerRoute s r now (resolve r.method r.path)).1))
  refine ⟨response, hresponse, ?_⟩
  obtain ⟨detail, hdetail⟩ | ⟨g', hg'⟩ := guarded_of_error place hg
  · obtain ⟨hstatus, hheaders⟩ := hpassed _ hdetail
    refine ⟨hstatus, fun name hname => (hheaders name hname).trans ?_⟩
    exact Response.bare_of_unprotective (by simp [Response.ofDetail, Response.ofJson,
      protectiveNames]) name hname
  · exact hanswered g' hg'

/-- Every other response has the one that the path in its address asks for. -/
theorem secured_of_foreseen (elapsed : Binary64) (h : ¬ s.Unforeseen r now)
    (hpath : s.framework.addressPath r = .ok path) :
    ∃ response, (exchange s r now elapsed).1.response = .ok response ∧ response.Secured path ∧
      (¬ IsPrivate path → response.headerValues "cache-control" = []) := by
  unfold exchange
  dsimp only
  generalize hplace : loggedPath s.framework r (resolve r.method r.path) = place
  cases hroute : (answerRoute s r now (resolve r.method r.path)).1.response with
  | error f => exact absurd ((exists_error_answerRoute s now hpath).1 ⟨f, hroute⟩) h
  | ok inner =>
    obtain ⟨logged, hlogged⟩ := exists_loggedPath hpath (resolve r.method r.path)
    obtain rfl := hplace.symm.trans hlogged
    have htimed := withTiming_of_ok r logged elapsed (withSecurityHeaders_of_ok hroute hpath)
    rw [guarded_of_ok _ htimed]
    obtain ⟨response, hresponse, hpassed, -⟩ := answered_of_not_question s
      (.ofConfig s.config.service) hr _
    obtain ⟨-, hheaders⟩ := hpassed _ htimed
    obtain ⟨hframe, hcontent, hcache⟩ := headerValues_secured (bare_of_answerRoute hroute) path
    refine ⟨response, hresponse, ⟨?_, ?_, ?_⟩, ?_⟩
    · rw [hheaders _ (by decide), hframe]
    · rw [hheaders _ (by decide), hcontent]
    · intro hprivate
      rw [hheaders _ (by decide), hcache, if_pos hprivate]
    · intro hpublic
      rw [hheaders _ (by decide), hcache, if_neg hpublic]

end

/-- Every response to a request that reaches the routes has the headers that keep it out of frames,
and out of caches where its path is private, but where the request ends in a fault that nobody
anticipated, or its address has no path: then the response has none of them. Where the path in the
address is not private as the one of the request is, it lacks the one for caches. -/
theorem secured_iff (s : Service) {r : Request} (hr : ¬ r.IsQuestion) (now : DateTime)
    (elapsed : Binary64) :
    ∃ response, (exchange s r now elapsed).1.response = .ok response ∧
      (response.Secured r.path ↔ ¬ s.Unforeseen r now ∧ ∃ path,
        s.framework.addressPath r = .ok path ∧ (IsPrivate r.path → IsPrivate path)) ∧
      (∀ path, s.framework.addressPath r = .ok path → ¬ s.Unforeseen r now →
        response.Secured path) ∧
      (s.Unforeseen r now ∨ (∃ f, s.framework.addressPath r = .error f) →
        response.status = 500 ∧ response.Bare) := by
  by_cases h : s.Unforeseen r now ∨ ∃ f, s.framework.addressPath r = .error f
  · obtain ⟨response, hresponse, hstatus, hbare⟩ := bare_of_unforeseen hr elapsed h
    have hnot : ∀ path, s.framework.addressPath r = .ok path → ¬ s.Unforeseen r now → False := by
      intro path hpath hforeseen
      obtain hunforeseen | ⟨f, hf⟩ := h
      · exact hforeseen hunforeseen
      · cases hpath.symm.trans hf
    refine ⟨response, hresponse, ⟨?_, ?_⟩, ?_, fun _ => ⟨hstatus, hbare⟩⟩
    · intro hsecured
      exact absurd hbare hsecured.not_bare
    · rintro ⟨hforeseen, path, hpath, -⟩
      exact (hnot path hpath hforeseen).elim
    · intro path hpath hforeseen
      exact (hnot path hpath hforeseen).elim
  · obtain ⟨hforeseen, hread⟩ := not_or.1 h
    cases hpath : s.framework.addressPath r with
    | error f => exact absurd ⟨f, hpath⟩ hread
    | ok path =>
      obtain ⟨response, hresponse, hsecured, hpublic⟩ :=
        secured_of_foreseen hr elapsed hforeseen hpath
      refine ⟨response, hresponse, ⟨?_, ?_⟩, ?_, ?_⟩
      · intro hown
        refine ⟨hforeseen, path, rfl, fun hprivate => ?_⟩
        by_contra hnot
        have hstore := hown.cacheControl hprivate
        rw [hpublic hnot] at hstore
        cases hstore
      · rintro ⟨-, path', hpath', hprivate⟩
        obtain rfl := Except.ok.inj hpath'
        exact ⟨hsecured.frameOptions, hsecured.contentPolicy,
          fun hown => hsecured.cacheControl (hprivate hown)⟩
      · rintro path' hpath' -
        obtain rfl := Except.ok.inj hpath'
        exact hsecured
      · rintro (hunforeseen | ⟨f, hf⟩)
        · exact absurd hunforeseen hforeseen
        · cases hf

end

/-! ### The path in an address -/

/-- A host without slashes, brackets and the like. -/
def Address.IsPlain (host : String) : Prop := ∀ c ∈ host.toList, c ∉ "/?#[]\t\r\n".toList

instance (host : String) : Decidable (Address.IsPlain host) := List.decidableBAll _ _

theorem hostFits_of_plain {cs : List Char} (h : ∀ c ∈ cs, c ∉ "/?#[]\t\r\n".toList) :
    Address.hostFits cs = true := by
  have hnone {sep : Char} (hsep : sep ∈ "/?#[]\t\r\n".toList) : cutFirst sep cs = none := by
    cases hcut : cutFirst sep cs with
    | none => rfl
    | some p =>
      obtain ⟨hcs, -⟩ := eq_append_of_cutFirst hcut
      refine absurd hsep (h sep ?_)
      rw [hcs]
      exact List.mem_append_right _ (List.mem_cons_self ..)
  rw [Address.hostFits, hnone (by decide), hnone (by decide)]

/-- What stands behind a plain host is the path, up to a question mark or a number sign. -/
theorem pathOf_of_plain {host tail : List Char} (h : ∀ c ∈ host, c ∉ "/?#[]\t\r\n".toList) :
    Address.pathOf (host ++ '/' :: tail) =
      .ok (String.ofList (('/' :: tail.filter (!Address.isUnsafe ·)).takeWhile
        fun c => c != '?' && c != '#')) := by
  have hsafe : host.filter (!Address.isUnsafe ·) = host := by
    rw [List.filter_eq_self]
    intro c hc
    have := h c hc
    simp_all [Address.isUnsafe]
  have hwhole : ∀ c ∈ host, (c != '/' && c != '?' && c != '#') = true := by
    intro c hc
    have := h c hc
    simp_all
  have hfiltered : (host ++ '/' :: tail).filter (!Address.isUnsafe ·) =
      host ++ '/' :: tail.filter (!Address.isUnsafe ·) := by
    rw [List.filter_append, hsafe]
    rfl
  have hhost : (host ++ '/' :: tail.filter (!Address.isUnsafe ·)).takeWhile
      (fun c => c != '/' && c != '?' && c != '#') = host := by
    rw [List.takeWhile_append_of_pos hwhole]
    exact List.append_nil host
  rw [Address.pathOf, hfiltered, hhost, if_pos (hostFits_of_plain h), List.drop_left]

theorem isPrivate_takeWhile {path : String} (query : List Char) (h : IsPrivate path) :
    IsPrivate (String.ofList (((path.toList ++ query).filter (!Address.isUnsafe ·)).takeWhile
      fun c => c != '?' && c != '#')) := by
  obtain ⟨p, hp, rest, hrest⟩ := h
  have hwhole : (privatePrefixes.all fun p => p.toList.all fun c => c != '?' && c != '#') =
      true := by decide
  have hsafe : (privatePrefixes.all fun p => p.toList.all (!Address.isUnsafe ·)) = true := by decide
  refine ⟨p, hp, ?_⟩
  rw [String.toList_ofList, ← hrest, List.append_assoc, List.filter_append,
    List.filter_eq_self.2 (List.all_eq_true.1 (List.all_eq_true.1 hsafe p hp)),
    List.takeWhile_append_of_pos (List.all_eq_true.1 (List.all_eq_true.1 hwhole p hp))]
  exact List.prefix_append _ _

/-- Where the host is plain, the address of a request has a path, as private as the request's. -/
theorem exists_addressPath_of_plain {r : Request} (hhost : Address.IsPlain (Address.host r))
    (query rest : List Char) (hquery : Address.queryText r = .ok query)
    (hroot : r.path.toList = '/' :: rest) :
    ∃ path, Framework.standard.addressPath r = .ok path ∧ (IsPrivate r.path → IsPrivate path) := by
  have htext : Address.text r r.path = .ok ((Address.host r).toList ++ '/' :: (rest ++ query)) := by
    rw [Address.text, hquery, hroot]
    exact congrArg Except.ok (List.append_assoc _ _ _)
  have hread : Framework.standard.addressPath r = Address.text r r.path >>= Address.pathOf := rfl
  refine ⟨_, hread.trans (bind_eq_ok.2 ⟨_, htext, pathOf_of_plain hhost⟩), fun h => ?_⟩
  have hprivate := isPrivate_takeWhile query h
  rw [hroot] at hprivate
  exact hprivate

/-! ### An answer without protection -/

section
attribute [local instance] Platform.standard

/-- A sign-out. -/
def sampleSignOut : Request := ⟨"POST", "/v1/auth/signout", [], [], []⟩

theorem secured_iff_signOut : ∃ response,
    (exchange (sampleWorld "" [] []) sampleSignOut ⟨0, some 0⟩ (.ofInt 0)).1.response =
      .ok response ∧ response.Secured sampleSignOut.path := by
  have hasks : sampleSignOut.Asks .signOut := by decide +kernel
  have hdone :
      ((sampleWorld "" [] []).run sampleSignOut ⟨0, some 0⟩ .signOut).1.outcome.toOption.map
        (fun reply => reply.value.hasNonFinite || reply.value.hasUnpaired) = some false := by
    decide +kernel
  have hforeseen : ¬ (sampleWorld "" [] []).Unforeseen sampleSignOut ⟨0, some 0⟩ := by
    rintro (⟨ha, hf, -⟩ | ⟨ha, hout, hvalue⟩ | ⟨hmoved, -⟩)
    · obtain rfl := hasks.unique ha
      rw [hf] at hdone
      cases hdone
    · obtain rfl := hasks.unique ha
      rw [hout] at hdone
      have hplain := Option.some.inj hdone
      rw [Bool.or_eq_false_iff] at hplain
      rcases hvalue with hvalue | hvalue
      · exact absurd hvalue (by simp [hplain.1])
      · exact absurd hvalue (by simp [hplain.2])
    · obtain ⟨route, hfound⟩ := hasks
      cases hmoved.symm.trans hfound
  obtain ⟨path, hpath, hprivate⟩ := exists_addressPath_of_plain (r := sampleSignOut)
    (by decide) [] "v1/auth/signout".toList rfl (by decide)
  obtain ⟨response, hresponse, hsecured, -⟩ :=
    secured_iff (sampleWorld "" [] []) (r := sampleSignOut) (by decide) ⟨0, some 0⟩ (.ofInt 0)
  exact ⟨response, hresponse, hsecured.2 ⟨hforeseen, path, hpath, hprivate⟩⟩

/-- A sign-in with a user name that is not a number, which no response can give back. -/
def sampleUnwritable : Request :=
  ⟨"POST", "/v1/auth/signin", [], [("Content-Type", "application/json")],
    "\x7b\"username\":NaN,\"password\":\"x\"\x7d".toList.map fun c => c.toNat.toUInt8⟩

theorem unforeseen_sampleUnwritable :
    (sampleWorld "" [] []).Unforeseen sampleUnwritable ⟨0, some 0⟩ := by
  have hasks : sampleUnwritable.Asks .signIn := by decide +kernel
  have hfails : (match ((sampleWorld "" [] []).run sampleUnwritable ⟨0, some 0⟩ .signIn).1.outcome
      with
      | .error (.badRequest errors) => errors.any fun e => e.input.hasNonFinite
      | _ => false) = true := by decide +kernel
  split at hfails
  · next errors hout =>
    obtain ⟨e, he, hvalue⟩ := List.any_eq_true.1 hfails
    exact .fault hasks hout ⟨e, he, .inr (.inl hvalue)⟩
  · cases hfails

/-- Its answer may be framed and stored, whatever its path. -/
theorem bare_sampleUnwritable : IsPrivate sampleUnwritable.path ∧ ¬ sampleUnwritable.IsQuestion ∧
    ∃ response,
      (exchange (sampleWorld "" [] []) sampleUnwritable ⟨0, some 0⟩ (.ofInt 0)).1.response =
        .ok response ∧ response.status = 500 ∧ response.Bare ∧
        ¬ response.Secured sampleUnwritable.path := by
  have hr : ¬ sampleUnwritable.IsQuestion := by decide
  obtain ⟨response, hresponse, hstatus, hbare⟩ :=
    bare_of_unforeseen hr (.ofInt 0) (.inl unforeseen_sampleUnwritable)
  exact ⟨by decide, hr, response, hresponse, hstatus, hbare,
    fun hsecured => hsecured.not_bare hbare⟩

end

end Http
end Gatehouse
