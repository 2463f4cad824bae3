import Gatehouse.Proofs.Http.Sender
import Gatehouse.Proofs.Session.SetCookies

/-!
Which responses carry session cookies. A failed authentication and a sign-out clear both, a sign-in
sets both, and a request of a session that has to be renewed sets the access cookie, but only where
it succeeds. There is nothing else: `session_cookies`.
-/
namespace Gatehouse.Http
open Number

section

/-- What a response does to the session cookies of the browser. -/
inductive CookieChange where
  | clears
  | starts
  | renews
  | nothing

/-- The request goes to a route for this action. -/
def Request.Asks (r : Request) (a : Action) : Prop :=
  ∃ route, resolve r.method r.path = .found route a

/-- The action of a request that goes to a route. -/
def Resolution.action? : Resolution → Option Action
  | .found _ a => some a
  | _ => none

theorem Request.asks_iff {r : Request} {a : Action} :
    r.Asks a ↔ (resolve r.method r.path).action? = some a := by
  unfold Request.Asks
  cases resolve r.method r.path <;> simp [Resolution.action?]

instance (r : Request) (a : Action) : Decidable (r.Asks a) :=
  decidable_of_iff _ Request.asks_iff.symm

variable [Platform]

/-- The body of the request is this form. -/
def Request.Gives (f : Framework) (r : Request) (form : SignInForm) : Prop :=
  ∃ body, readBody f r = .ok body ∧ requireBody body SignInForm.read = .ok form

def Response.Succeeds (response : Response) : Prop := 200 ≤ response.status ∧ response.status < 300

namespace Service

/-- The request is a user's by a personal token. -/
def ShowsToken (s : Service) (r : Request) (now : DateTime) : Prop :=
  (credentials r).authorization.getD "" ≠ "" ∧
    ∃ a u, r.Asks a ∧ a.needsUser = true ∧ (s.caller r now).outcome = .ok u

/-- The request is a user's by cookies, and they ask for a renewal from these claims. -/
def ShowsRenewal (s : Service) (r : Request) (now : DateTime) (c : Claims) : Prop :=
  (credentials r).authorization.getD "" = "" ∧
    (∃ m, s.manager = .ok m ∧ (credentials r).verdict m now = .ok (.renew c)) ∧
    ∃ a u, r.Asks a ∧ a.needsUser = true ∧ (s.caller r now).outcome = .ok u

/-- The cookies of a response make this change; a session is started for the user whose password is
given. -/
def Makes (s : Service) (r : Request) (now : DateTime) (cookies : List String) :
    CookieChange → Prop
  | .clears => s.config.cookies.Clears now cookies
  | .starts => ∃ m form u, s.manager = .ok m ∧ r.Gives s.framework form ∧
      checkPassword s.passwords s.directory form = .ok u ∧ m.Starts u now cookies
  | .renews => s.config.cookies.SetsAccess cookies
  | .nothing => cookies = []

/-- This change is due with a response. -/
def Due (s : Service) (r : Request) (now : DateTime) (response : Response) : CookieChange → Prop
  | .clears => response.status = 401 ∨ r.Asks .signOut ∧ response.Succeeds
  | .starts => r.Asks .signIn ∧ response.Succeeds
  | .renews => (∃ c, s.ShowsRenewal r now c) ∧ response.Succeeds
  | .nothing => response.status ≠ 401 ∧ (response.Succeeds →
      ¬ r.Asks .signOut ∧ ¬ r.Asks .signIn ∧ ∀ c, ¬ s.ShowsRenewal r now c)

end Service

section
variable {s : Service} {r : Request} {now : DateTime} {a b : Action} {response : Response}
  {cookies : List String} {k k' : CookieChange} {c : Claims} {m : SessionManager} {u : User}
  {rep : Reply}

/-! ### One change at a time -/

omit [Platform] in
theorem Request.Asks.unique (h : r.Asks a) (h' : r.Asks b) : a = b := by
  obtain ⟨route, h⟩ := h
  obtain ⟨route', h'⟩ := h'
  exact (Resolution.found.inj (h.symm.trans h')).2

omit [Platform] in
theorem Request.Asks.not_asks (h : r.Asks a) (hneeds : a.needsUser = true)
    (hb : b.needsUser = false) : ¬ r.Asks b := by
  intro h'
  obtain rfl := h.unique h'
  rw [hb] at hneeds
  cases hneeds

omit [Platform] in
theorem Response.Succeeds.ne (h : response.Succeeds) : response.status ≠ 401 := by
  intro hstatus
  have := h.2
  omega

namespace Service

theorem ShowsRenewal.not_asks (h : s.ShowsRenewal r now c) (hb : b.needsUser = false) :
    ¬ r.Asks b := by
  obtain ⟨-, -, a, u, hasks, hneeds, -⟩ := h
  exact hasks.not_asks hneeds hb

/-- How many headers make a change. -/
def headerCount : CookieChange → Nat
  | .clears | .starts => 2
  | .renews => 1
  | .nothing => 0

theorem Makes.length_eq (h : s.Makes r now cookies k) : cookies.length = headerCount k := by
  cases k with
  | clears =>
    obtain ⟨access, refresh, rfl, -⟩ := h
    rfl
  | starts =>
    obtain ⟨m, form, u, -, -, -, e, access, refresh, -, rfl, -⟩ := h
    rfl
  | renews =>
    obtain ⟨header, kept, rfl, -⟩ := h
    rfl
  | nothing =>
    obtain rfl := h
    rfl

theorem Makes.unique (h : s.Makes r now cookies k) (h' : s.Makes r now cookies k') : k = k' := by
  have hcount : headerCount k = headerCount k' := h.length_eq.symm.trans h'.length_eq
  have hnot (hclears : s.Makes r now cookies .clears) (hstarts : s.Makes r now cookies .starts) :
      False := by
    obtain ⟨m, form, u, -, -, -, hstarts⟩ := hstarts
    exact hstarts.not_clears hclears
  cases k <;> cases k' <;>
    first
    | rfl
    | exact (hnot h h').elim
    | exact (hnot h' h).elim
    | exact absurd hcount (by decide)

/-- Clearing the cookies is not due with starting a session. -/
theorem Due.clears_starts (h : s.Due r now response .clears) (h' : s.Due r now response .starts) :
    False := by
  obtain ⟨hsignIn, hsucceeds⟩ := h'
  obtain hstatus | ⟨hsignOut, -⟩ := h
  · exact hsucceeds.ne hstatus
  · cases hsignOut.unique hsignIn

/-- Neither is due with a renewal. -/
theorem Due.renews_other (h : s.Due r now response .renews)
    (h' : s.Due r now response .clears ∨ s.Due r now response .starts) : False := by
  obtain ⟨⟨c, hshows⟩, hsucceeds⟩ := h
  obtain (hstatus | ⟨hsignOut, -⟩) | ⟨hsignIn, -⟩ := h'
  · exact hsucceeds.ne hstatus
  · exact hshows.not_asks rfl hsignOut
  · exact hshows.not_asks rfl hsignIn

/-- Where nothing is due, no change is. -/
theorem Due.nothing_other (h : s.Due r now response .nothing)
    (h' : s.Due r now response .clears ∨ s.Due r now response .starts ∨
      s.Due r now response .renews) : False := by
  obtain ⟨hne, hsucceeding⟩ := h
  obtain (hstatus | ⟨hsignOut, hsucceeds⟩) | ⟨hsignIn, hsucceeds⟩ | ⟨⟨c, hshows⟩, hsucceeds⟩ := h'
  · exact hne hstatus
  · exact (hsucceeding hsucceeds).1 hsignOut
  · exact (hsucceeding hsucceeds).2.1 hsignIn
  · exact (hsucceeding hsucceeds).2.2 c hshows

theorem Due.unique (h : s.Due r now response k) (h' : s.Due r now response k') : k = k' := by
  cases k with
  | clears =>
    cases k' with
    | clears => rfl
    | starts => exact (h.clears_starts h').elim
    | renews => exact (h'.renews_other (.inl h)).elim
    | nothing => exact (h'.nothing_other (.inl h)).elim
  | starts =>
    cases k' with
    | clears => exact (h'.clears_starts h).elim
    | starts => rfl
    | renews => exact (h'.renews_other (.inr h)).elim
    | nothing => exact (h'.nothing_other (.inr (.inl h))).elim
  | renews =>
    cases k' with
    | clears => exact (h.renews_other (.inl h')).elim
    | starts => exact (h.renews_other (.inr h')).elim
    | renews => rfl
    | nothing => exact (h'.nothing_other (.inr (.inr h))).elim
  | nothing =>
    cases k' with
    | clears => exact (h.nothing_other (.inl h')).elim
    | starts => exact (h.nothing_other (.inr (.inl h'))).elim
    | renews => exact (h.nothing_other (.inr (.inr h'))).elim
    | nothing => rfl

/-! ### The cookies of each action -/

/-- A sign-in that succeeds starts a session of the user whose password was given. -/
theorem starts_of_signIn (h : (s.run r now .signIn).1.outcome = .ok rep) :
    s.Makes r now (s.run r now .signIn).1.headers .starts := by
  rw [run_eq] at h ⊢
  split at h
  · cases h
  · next body hbody =>
    have hwritten : s.signIn body now = ⟨.ok rep, (s.signIn body now).headers⟩ := by
      rw [← show (s.signIn body now).outcome = .ok rep from h]
    obtain ⟨m, hm, hwritten⟩ := Written.lift_bind_eq_ok.1 hwritten
    obtain ⟨form, hform, hwritten⟩ := Written.lift_bind_eq_ok.1 hwritten
    obtain ⟨profile, headers, rest, hsignIn, hrest, hheaders⟩ := Written.seq_eq_ok.1 hwritten
    obtain ⟨-, rfl⟩ := Written.pure_eq_ok.1 hrest
    obtain ⟨u, hu, hsignIn⟩ := Written.lift_bind_eq_ok.1 hsignIn
    obtain ⟨tokens, first, rest, hestablish, hrest, rfl⟩ := Written.seq_eq_ok.1 hsignIn
    obtain rfl : rest = [] := (congrArg Written.headers hrest).symm
    show s.Makes r now (s.signIn body now).headers .starts
    rw [hheaders, List.append_nil, List.append_nil]
    exact ⟨m, form, u, hm, ⟨body, hbody, hform⟩, hu, SessionManager.starts_of_establish hestablish⟩

theorem clears_of_signOut (h : (s.run r now .signOut).1.outcome = .ok rep) :
    s.Makes r now (s.run r now .signOut).1.headers .clears := by
  have hwritten : s.signOut now = ⟨.ok rep, (s.signOut now).headers⟩ := by
    rw [← show (s.signOut now).outcome = .ok rep from h]
  obtain ⟨m, hm, hwritten⟩ := Written.lift_bind_eq_ok.1 hwritten
  obtain ⟨⟨⟩, headers, rest, hterminate, hrest, hheaders⟩ := Written.seq_eq_ok.1 hwritten
  obtain ⟨-, rfl⟩ := Written.pure_eq_ok.1 hrest
  show s.config.cookies.Clears now (s.signOut now).headers
  rw [hheaders, List.append_nil, ← (issuer_of_manager hm).2]
  exact clears_of_clearSession hterminate

/-- A request of a known user sets what the renewal of its session sets, and else nothing. -/
theorem headers_of_user (hasks : r.Asks a) (hneeds : a.needsUser = true)
    (h : (s.run r now a).1.outcome = .ok rep) :
    (s.run r now a).1.headers = [] ∧ (∀ c, ¬ s.ShowsRenewal r now c) ∨
      ∃ m c, s.manager = .ok m ∧ s.ShowsRenewal r now c ∧
        m.Renews c now (s.run r now a).1.headers := by
  obtain ⟨hheaders, u, hu⟩ := headers_of_run hneeds h
  obtain ⟨m, registry, hm, -, -, hcaller⟩ := authenticate_of_caller hu
  rw [hheaders, hcaller]
  obtain ⟨hnone, hverdict⟩ | ⟨hempty, c, t, hverdict, hrenew⟩ :=
    headers_of_authenticate (hcaller ▸ hu)
  · refine .inl ⟨hnone, ?_⟩
    rintro c ⟨hempty, ⟨m', hm', hrenewal⟩, -⟩
    obtain rfl := Except.ok.inj (hm.symm.trans hm')
    exact hverdict hempty c hrenewal
  · exact .inr ⟨m, c, hm, ⟨hempty, ⟨m, hm, hverdict⟩, a, u, hasks, hneeds, hu⟩,
      SessionManager.renews_of_renew hrenew⟩

theorem ShowsRenewal.unique {c' : Claims} (h : s.ShowsRenewal r now c)
    (h' : s.ShowsRenewal r now c') : c = c' := by
  obtain ⟨-, ⟨m, hm, hverdict⟩, -⟩ := h
  obtain ⟨-, ⟨m', hm', hverdict'⟩, -⟩ := h'
  obtain rfl := Except.ok.inj (hm.symm.trans hm')
  cases hverdict.symm.trans hverdict'
  rfl

/-- An action that succeeds makes the change that is due. -/
theorem makes_due_of_run (hasks : r.Asks a) (h : (s.run r now a).1.outcome = .ok rep)
    (hstatus : response.status = rep.status) :
    ∃ k, s.Makes r now (s.run r now a).1.headers k ∧ s.Due r now response k := by
  have hsucceeds : response.Succeeds := by
    unfold Response.Succeeds
    have := status_of_run h
    omega
  have hnothing (hnone : (s.run r now a).1.headers = []) (hout : a ≠ .signOut) (hin : a ≠ .signIn)
      (hrenewal : ∀ c, ¬ s.ShowsRenewal r now c) :
      ∃ k, s.Makes r now (s.run r now a).1.headers k ∧ s.Due r now response k :=
    ⟨.nothing, hnone, hsucceeds.ne, fun _ =>
      ⟨fun h => hout (hasks.unique h), fun h => hin (hasks.unique h), hrenewal⟩⟩
  cases hneeds : a.needsUser with
  | true =>
    obtain ⟨hnone, hrenewal⟩ | ⟨m, c, hm, hshows, hrenews⟩ := headers_of_user hasks hneeds h
    · refine hnothing hnone ?_ ?_ hrenewal
      · rintro rfl
        cases hneeds
      · rintro rfl
        cases hneeds
    · have hsets := hrenews.setsAccess
      rw [(issuer_of_manager hm).2] at hsets
      exact ⟨.renews, hsets, ⟨c, hshows⟩, hsucceeds⟩
  | false =>
    cases a with
    | signIn => exact ⟨.starts, starts_of_signIn h, hasks, hsucceeds⟩
    | signOut => exact ⟨.clears, clears_of_signOut h, .inr ⟨hasks, hsucceeds⟩⟩
    | checkHealth => exact hnothing rfl nofun nofun fun c hc => hc.not_asks rfl hasks
    | _ => cases hneeds

end Service

theorem makes_due_of_answers (hasks : r.Asks a) (h : Answers s r now a response) :
    ∃ k, s.Makes r now response.cookies k ∧ s.Due r now response k := by
  cases h with
  | done hout _ _ hstatus hcookies =>
    rw [hcookies]
    exact Service.makes_due_of_run hasks hout hstatus
  | refused _ _ hstatus hcookies => exact ⟨.clears, clears_of_clearSession hcookies, .inl hstatus⟩
  | failed _ hstatus hcookies =>
    refine ⟨.nothing, hcookies, hstatus.2, fun hsucceeds => ?_⟩
    have := hsucceeds.2
    omega

/-- Every response makes the change that is due, and answers the action that was asked for. -/
theorem makes_due_of_exchange (s : Service) (r : Request) (now : DateTime) (elapsed : Binary64) :
    ∃ response, (exchange s r now elapsed).1.response = .ok response ∧
      (∃ k, s.Makes r now response.cookies k ∧ s.Due r now response k) ∧
      ∀ a, r.Asks a → Answers s r now a response := by
  by_cases hfound : ∃ a, r.Asks a
  · obtain ⟨a, hasks⟩ := hfound
    obtain ⟨route, hroute⟩ := id hasks
    obtain ⟨response, hresponse, hanswers⟩ := answers_of_found s now hroute elapsed
    refine ⟨response, hresponse, makes_due_of_answers hasks hanswers, fun b hb => ?_⟩
    obtain rfl := hasks.unique hb
    exact hanswers
  · have hnot : ∀ a, ¬ r.Asks a := fun a ha => hfound ⟨a, ha⟩
    obtain ⟨-, response, hresponse, hcookies, hstatus⟩ := answered_of_not_found s now
      (fun route a h => hnot a ⟨route, h⟩) elapsed
    refine ⟨response, hresponse, ⟨.nothing, hcookies, hstatus, fun _ => ?_⟩,
      fun a ha => absurd ha (hnot a)⟩
    exact ⟨hnot _, hnot _, fun c ⟨_, _, a, _, ha, _⟩ => hnot a ha⟩

/-! ### Who asked -/

/-- A request whose sender is known is not answered with 401. -/
theorem status_ne_of_caller (hneeds : a.needsUser = true) (hu : (s.caller r now).outcome = .ok u)
    (h : Answers s r now a response) : response.status ≠ 401 := by
  cases h with
  | done hout _ _ hstatus =>
    have := Service.status_of_run hout
    omega
  | refused hout hf =>
    have hspared := Service.neverRefuses_run hneeds hu _ hout
    rw [hf] at hspared
    cases hspared
  | failed _ hstatus => exact hstatus.2

/-- A session that has to be renewed is renewed by every answer that succeeds. -/
theorem renews_of_answers (hasks : r.Asks a) (hneeds : a.needsUser = true)
    (hc : s.ShowsRenewal r now c) (hsucceeds : response.Succeeds)
    (h : Answers s r now a response) :
    ∃ m, s.manager = .ok m ∧ m.Renews c now response.cookies := by
  cases h with
  | done hout _ _ _ hcookies =>
    rw [hcookies]
    obtain ⟨-, hnone⟩ | ⟨m, c', hm, hshows, hrenews⟩ := Service.headers_of_user hasks hneeds hout
    · exact absurd hc (hnone c)
    · obtain rfl := hc.unique hshows
      exact ⟨m, hm, hrenews⟩
  | refused _ _ hstatus => exact absurd hstatus hsucceeds.ne
  | failed _ hstatus =>
    have := hsucceeds.2
    omega

end

/-- Which responses carry session cookies. A response clears both exactly if its status is 401 or it
is a sign-out that succeeds, sets both to new tokens exactly if it is a sign-in that succeeds, and
sets the access cookie alone exactly if it succeeds for a session that has to be renewed, which it
then renews. Any other response carries none: in particular one of another error, and every one to a
request of a personal token. -/
theorem session_cookies (s : Service) (r : Request) (now : DateTime) (elapsed : Binary64) :
    ∃ response, (exchange s r now elapsed).1.response = .ok response ∧
      (∀ change, s.Makes r now response.cookies change ↔ s.Due r now response change) ∧
      (∀ c, s.ShowsRenewal r now c → response.Succeeds →
        ∃ m, s.manager = .ok m ∧ m.Renews c now response.cookies) ∧
      (400 ≤ response.status → response.status ≠ 401 → response.cookies = []) ∧
      (s.ShowsToken r now → response.cookies = []) := by
  obtain ⟨response, hresponse, ⟨k, hmakes, hdue⟩, hanswers⟩ := makes_due_of_exchange s r now elapsed
  have hiff (change : CookieChange) :
      s.Makes r now response.cookies change ↔ s.Due r now response change := by
    constructor
    · intro h
      obtain rfl := hmakes.unique h
      exact hdue
    · intro h
      obtain rfl := hdue.unique h
      exact hmakes
  refine ⟨response, hresponse, hiff, ?_, ?_, ?_⟩
  · intro c hc hsucceeds
    obtain ⟨-, -, a, u, hasks, hneeds, -⟩ := id hc
    exact renews_of_answers hasks hneeds hc hsucceeds (hanswers a hasks)
  · intro hfails hstatus
    refine (hiff .nothing).2 ⟨hstatus, fun hsucceeds => ?_⟩
    have := hsucceeds.2
    omega
  · rintro ⟨hheader, a, u, hasks, hneeds, hu⟩
    refine (hiff .nothing).2 ⟨status_ne_of_caller hneeds hu (hanswers a hasks), fun _ => ?_⟩
    exact ⟨hasks.not_asks hneeds rfl, hasks.not_asks hneeds rfl, fun c hc => hheader hc.1⟩

end

/-! ### A session that is renewed -/

section
attribute [local instance] Platform.standard
open SessionManager

def returningUser : User := ⟨8, "bob", some "Bob", some "user", true, none⟩

/-- The cookies of a browser with these tokens. -/
def sampleJar (access refresh : String) : Jar :=
  [(sample.cookies.accessName, ⟨access, ⟨604740 * second, some 0⟩⟩),
    (sample.cookies.refreshName, ⟨refresh, ⟨604740 * second, some 0⟩⟩)]

/-- The browser asks whose profile it is shown. -/
def sampleReturn (cookies : List String) : Request :=
  ⟨"GET", "/v1/auth/me", [], cookies.map fun cookie => ("Cookie", cookie), []⟩

theorem credentials_sampleReturn (cookies : List String) :
    Service.credentials (sampleReturn cookies) = ⟨none, cookies⟩ := by
  have hname : "Cookie".toLower = "cookie" := by decide +kernel
  simp [Service.credentials, sampleReturn, Request.header?, Request.headerValues,
    List.filterMap_map, hname]

section
variable {access refresh : String} (haccess : sample.signer.sign sampleAccess = .ok access)
  (hrefresh : sample.signer.sign sampleRefresh = .ok refresh)
include haccess hrefresh

/-- The access token has ended by then, and the refresh token has not. -/
theorem verdict_sampleReturn :
    (Credentials.mk none ((sampleJar access refresh).sent ⟨2 * second, some 0⟩)).verdict sample
      ⟨2 * second, some 0⟩ = .ok (.renew sampleRefresh) := by
  have hnameA : Cookie.validName sample.cookies.accessName = true := by decide
  have hnameR : Cookie.validName sample.cookies.refreshName = true := by decide
  have hplain : ∀ p ∈ sampleJar access refresh,
      Cookie.PlainText p.1 ∧ Cookie.PlainText p.2.value := by
    intro p hp
    simp only [sampleJar, List.mem_cons, List.not_mem_nil, or_false] at hp
    obtain rfl | rfl := hp
    · exact ⟨Cookie.plainText_of_validName hnameA, Cookie.plainText_of_sign haccess⟩
    · exact ⟨Cookie.plainText_of_validName hnameR, Cookie.plainText_of_sign hrefresh⟩
  have hnames : ((sampleJar access refresh).map (·.1)).Nodup :=
    (by decide : [sample.cookies.accessName, sample.cookies.refreshName].Nodup)
  have hlive : (⟨2 * second, some 0⟩ : DateTime).instant <
      (⟨604740 * second, some 0⟩ : DateTime).instant := by decide
  have hreadA : Cookie.read ((sampleJar access refresh).sent ⟨2 * second, some 0⟩)
      sample.cookies.accessName = some access :=
    Cookie.read_sent hplain hnames (List.mem_cons_self ..) hlive
  have hreadR : Cookie.read ((sampleJar access refresh).sent ⟨2 * second, some 0⟩)
      sample.cookies.refreshName = some refresh :=
    Cookie.read_sent hplain hnames (List.mem_cons_of_mem _ (List.mem_cons_self ..)) hlive
  have hgenuineA : sample.signer.Genuine (.text access) sampleAccess :=
    Signer.Signed.genuine (d := .sha256) rfl usable_sample
      ⟨obtained_sampleAccess.wholeSeconds, rfl, haccess⟩
  have hgenuineR : sample.signer.Genuine (.text refresh) sampleRefresh :=
    Signer.Signed.genuine (d := .sha256) rfl usable_sample
      ⟨obtained_sampleRefresh.wholeSeconds, rfl, hrefresh⟩
  simp only [Credentials.verdict, cookieToken, hreadA, hreadR, Option.elim_some]
  exact renew_of_ended hgenuineA rfl hgenuineR rfl rfl rfl (by decide)
    (renewable_sampleRefresh (by decide))

theorem caller_sampleReturn :
    ((sampleWorld "" [returningUser] []).caller
      (sampleReturn ((sampleJar access refresh).sent ⟨2 * second, some 0⟩))
      ⟨2 * second, some 0⟩).outcome = .ok returningUser := by
  have hrenew := verdict_sampleReturn haccess hrefresh
  have hreaches : ∀ span ∈ sample.spans, (⟨2 * second, some 0⟩ : DateTime).Reaches span := by
    decide
  obtain ⟨t, a, header, ends, hrenewed, -⟩ := (granted_of_evaluate hrenew).exists_renew rfl
    hreaches (d := .sha256) rfl usable_sample (by decide)
  have huser : activeUser (sampleWorld "" [returningUser] []).directory sampleRefresh =
      .ok returningUser := rfl
  rw [Service.caller, Written.lift_bind_of_ok (manager_sampleWorld "" [returningUser] []),
    Written.lift_bind_of_ok (registry_sampleWorld "" [returningUser] []),
    credentials_sampleReturn, authenticate_of_empty rfl,
    authenticateSession_of_renew hrenew huser hrenewed]

theorem run_sampleReturn : ((sampleWorld "" [returningUser] []).run
    (sampleReturn ((sampleJar access refresh).sent ⟨2 * second, some 0⟩)) ⟨2 * second, some 0⟩
    .showProfile).1.outcome = .ok ⟨200, (Profile.mk 8 "bob" "Bob" .user).toJson⟩ := by
  have hcaller := caller_sampleReturn haccess hrefresh
  rw [Service.run_eq]
  show (Service.showProfile _ _ _).outcome = _
  simp only [Service.showProfile, Written.outcome_bind, Written.outcome_liftM,
    Written.outcome_pure, bind_eq_ok]
  exact ⟨returningUser, hcaller, ⟨8, "bob", "Bob", .user⟩, rfl, rfl⟩

end

theorem addressPath_sampleReturn (cookies : List String) :
    (sampleWorld "" [returningUser] []).framework.addressPath (sampleReturn cookies) =
      .ok "/v1/auth/me" := by
  have hname : "Cookie".toLower ≠ "host" := by decide +kernel
  have hhost : Address.host (sampleReturn cookies) = "" := by
    simp [Address.host, sampleReturn, Request.header?, Request.headerValues, List.filterMap_map,
      hname]
  have htext : Address.text (sampleReturn cookies) "/v1/auth/me" = .ok "/v1/auth/me".toList := by
    rw [Address.text, hhost]
    rfl
  have hread : Framework.standard.addressPath (sampleReturn cookies) =
      Address.text (sampleReturn cookies) "/v1/auth/me" >>= Address.pathOf := rfl
  refine hread.trans ?_
  rw [htext]
  rfl

/-- A session of which the access token has ended is renewed with the profile of its user. -/
theorem session_cookies_renewal : ∃ access refresh,
    sample.signer.sign sampleAccess = .ok access ∧ sample.signer.sign sampleRefresh = .ok refresh ∧
    ∃ response, (exchange (sampleWorld "" [returningUser] [])
        (sampleReturn ((sampleJar access refresh).sent ⟨2 * second, some 0⟩)) ⟨2 * second, some 0⟩
        (.ofInt 0)).1.response = .ok response ∧ response.status = 200 ∧
      sample.Renews sampleRefresh ⟨2 * second, some 0⟩ response.cookies := by
  obtain ⟨access, refresh, haccess, hrefresh⟩ := exists_sign_sample
  have hrun := run_sampleReturn haccess hrefresh
  have hcaller := caller_sampleReturn haccess hrefresh
  have hpath := addressPath_sampleReturn ((sampleJar access refresh).sent ⟨2 * second, some 0⟩)
  have hresolve : (resolve "GET" "/v1/auth/me").action? = some .showProfile := by decide +kernel
  have hasks : (sampleReturn ((sampleJar access refresh).sent ⟨2 * second, some 0⟩)).Asks
      .showProfile := Request.asks_iff.2 hresolve
  have hshows : (sampleWorld "" [returningUser] []).ShowsRenewal
      (sampleReturn ((sampleJar access refresh).sent ⟨2 * second, some 0⟩)) ⟨2 * second, some 0⟩
      sampleRefresh := by
    refine ⟨?_, ⟨sample, manager_sampleWorld "" [returningUser] [], ?_⟩, .showProfile, _, hasks,
      rfl, hcaller⟩
    · rw [credentials_sampleReturn]
      rfl
    · rw [credentials_sampleReturn]
      exact verdict_sampleReturn haccess hrefresh
  obtain ⟨response, hresponse, -, hrenews, -⟩ := session_cookies (sampleWorld "" [returningUser] [])
    (sampleReturn ((sampleJar access refresh).sent ⟨2 * second, some 0⟩)) ⟨2 * second, some 0⟩
    (.ofInt 0)
  obtain ⟨route, hfound⟩ := id hasks
  obtain ⟨response', hresponse', hanswers⟩ := answers_of_found (sampleWorld "" [returningUser] [])
    ⟨2 * second, some 0⟩ hfound (.ofInt 0)
  obtain rfl := Except.ok.inj (hresponse.symm.trans hresponse')
  obtain ⟨hstatus, -⟩ := hanswers.done_of_ok hrun rfl hpath
  have hsucceeds : response.Succeeds := by
    rw [Response.Succeeds, hstatus]
    decide
  obtain ⟨m, hm, hrenewed⟩ := hrenews _ hshows hsucceeds
  obtain rfl := Except.ok.inj ((manager_sampleWorld "" [returningUser] []).symm.trans hm)
  exact ⟨access, refresh, haccess, hrefresh, response, hresponse, hstatus, hrenewed⟩

end

end Gatehouse.Http
