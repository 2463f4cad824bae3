import Gatehouse.Proofs.Account.Registered
import Gatehouse.Proofs.Auth.SignIn
import Gatehouse.Proofs.Http.SecurityHeaders
import Gatehouse.Proofs.Json.RoundTrip

/-!
Signing in with a registered account. A registration takes any user name and any password that has
a digest; a sign-in takes those within its bounds. So a registered account can be signed in to from
then on exactly if its credentials are within them: `registered_signs_in`.
-/
namespace Gatehouse
open Text

namespace SignInForm
open Schema
variable {form : SignInForm}

/-- The user name and the password are within the bounds of a sign-in. -/
structure Bounded (form : SignInForm) : Prop where
  named : 1 ≤ form.username.length
  short : form.username.length ≤ longestUsername
  guarded : 1 ≤ form.password.length

theorem boundedText_of_fits {least : Nat} (most : Option Nat) {s : String} (h : least ≤ s.length)
    (h' : most.all (s.length ≤ ·) = true) : boundedText least most (.text s) = .accepted s := by
  simp [boundedText, string, Checked.ensure, h, h']

theorem boundedText_of_not_fits {least : Nat} (most : Option Nat) {s : String}
    (h : ¬ (least ≤ s.length ∧ most.all (s.length ≤ ·) = true)) :
    ∃ problem, boundedText least most (.text s) = .fault problem (.text s) := by
  by_cases hleast : least ≤ s.length
  · have hmost : ¬ most.all (s.length ≤ ·) = true := fun hmost => h ⟨hleast, hmost⟩
    exact ⟨.stringTooLong, by simp [boundedText, string, Checked.ensure, hleast, hmost]⟩
  · exact ⟨.stringTooShort, by simp [boundedText, string, Checked.ensure, hleast, Checked.fault]⟩

/-- Both fields are read, whatever becomes of the other one. -/
theorem read_toJson (form : SignInForm) : read form.toJson =
    SignInForm.mk <$>
        (boundedText 1 (some longestUsername) (.text form.username)).under (.name "username") <*>
      (boundedText 1 none (.text form.password)).under (.name "password") :=
  rfl

theorem requireBody_toJson (form : SignInForm) : Http.requireBody (some form.toJson) read =
    match (read form.toJson).under (.name "body") with
    | .accepted a => .ok a
    | .rejected errors => .error (.badRequest errors) := by
  simp only [Http.requireBody, toJson, Option.getD_some]
  cases read _ <;> rfl

theorem requireBody_of_bounded (h : form.Bounded) :
    Http.requireBody (some form.toJson) read = .ok form := by
  have hname := boundedText_of_fits (some longestUsername) h.named (decide_eq_true h.short)
  have hpassword := boundedText_of_fits none h.guarded rfl
  have hread : read form.toJson = .accepted form := by
    rw [read_toJson, hname, hpassword]
    rfl
  rw [requireBody_toJson, hread]
  rfl

theorem exists_badRequest_of_not_bounded (h : ¬ form.Bounded) :
    ∃ errors, Http.requireBody (some form.toJson) read = .error (.badRequest errors) ∧
      ∀ e ∈ errors, ¬ Http.Untold e := by
  have hread : ∃ errors, read form.toJson = .rejected errors ∧ ∀ e ∈ errors,
      (∃ s : String, e.input = .text s) ∧ ∀ name, .name name ∈ e.path → name.string?.isSome := by
    rw [read_toJson]
    by_cases hname : 1 ≤ form.username.length ∧
        (some longestUsername).all (form.username.length ≤ ·) = true
    · have hpassword : ¬ (1 ≤ form.password.length ∧
          (none : Option Nat).all (form.password.length ≤ ·) = true) :=
        fun hpassword => h ⟨hname.1, of_decide_eq_true hname.2, hpassword.1⟩
      obtain ⟨problem, hfault⟩ := boundedText_of_not_fits none hpassword
      rw [boundedText_of_fits _ hname.1 hname.2, hfault]
      exact ⟨_, rfl, by simp [AnyText.string?]⟩
    · obtain ⟨problem, hfault⟩ := boundedText_of_not_fits _ hname
      rw [hfault]
      by_cases hpassword : 1 ≤ form.password.length
      · rw [boundedText_of_fits none hpassword rfl]
        exact ⟨_, rfl, by simp [AnyText.string?]⟩
      · obtain ⟨problem', hfault'⟩ := boundedText_of_not_fits none
          fun hpassword' => hpassword hpassword'.1
        rw [hfault']
        exact ⟨_, rfl, by simp [AnyText.string?]⟩
  obtain ⟨errors, hread, htold⟩ := hread
  refine ⟨errors.map fun e => { e with path := .name "body" :: e.path }, ?_, ?_⟩
  · rw [requireBody_toJson, hread]
    rfl
  · intro e he
    obtain ⟨e', he', rfl⟩ := List.mem_map.1 he
    obtain ⟨⟨s, hs⟩, hnames⟩ := htold e' he'
    rintro (hplain | hfinite | hpaired | ⟨name, hname, hnone⟩)
    · rw [hs] at hplain
      cases hplain
    · rw [hs] at hfinite
      cases hfinite
    · rw [hs] at hpaired
      cases hpaired
    · rcases List.mem_cons.1 hname with hbody | hname
      · rw [PathStep.name.inj hbody] at hnone
        cases hnone
      · simpa [hnone] using hnames name hname

theorem requireBody_iff : Http.requireBody (some form.toJson) read = .ok form ↔ form.Bounded := by
  constructor
  · intro h
    by_contra hbounded
    obtain ⟨errors, hrefused, -⟩ := exists_badRequest_of_not_bounded hbounded
    cases hrefused.symm.trans h
  · exact requireBody_of_bounded

end SignInForm

/-- The ids that can be used are those of a machine word. -/
def Database.Narrow (db : Database) : Prop :=
  ∀ id, db.checkId id = .ok () → -2 ^ 63 ≤ id ∧ id < 2 ^ 63

theorem Database.narrow_inMemory : inMemory.Narrow := by
  intro id h
  unfold inMemory checkWord at h
  dsimp only at h
  split at h
  · omega
  · cases h

namespace Accounts
variable {t : Accounts} {db : Database} {a : Account}

/-- The credentials of a registration, as a sign-in takes them. -/
def Registration.form (c : Registration) : SignInForm := ⟨c.username, c.password⟩

theorem proper_toUser (hdb : db.Narrow) (h : db.checkId a.id = .ok ()) : a.toUser.Proper := by
  refine ⟨.inr ⟨a.id, rfl, ?_⟩, ⟨a.nickname, rfl⟩, ⟨a.role, rfl⟩⟩
  have hnarrow := hdb a.id h
  have hshort : a.id.natAbs < 10 ^ 20 := by omega
  exact Nat.lt_of_lt_of_le hshort (Nat.pow_le_pow_right (by decide) (by decide))

variable [Platform]

/-- A registered account is signed in to by the password that its digest was made of, whatever other
accounts have come to the table. -/
theorem Sound.exists_signIn (hdb : db.Narrow) (h : t.Sound db) (ha : a ∈ t.rows)
    (hactive : a.isActive = true) {k : Password.Scheme} (hk : k.Answers) {password : String}
    (haccepts : k.verify password a.passwordHash = .ok true) {m : SessionManager} {now : DateTime}
    (hready : m.Ready now) :
    ∃ p, (signIn k m t.toDirectory ⟨a.username, password⟩ now).outcome = .ok p ∧
      p.Tells a.toUser ∧
      m.Starts a.toUser now (signIn k m t.toDirectory ⟨a.username, password⟩ now).headers := by
  rw [toDirectory_eq h]
  have hfits : (⟨a.username, password⟩ : SignInForm).Fits k (t.rows.map Account.toUser) a.toUser :=
    ⟨find?_toUser User.username h.usernames ha, a.passwordHash, rfl, haccepts⟩
  exact signIn_of_active hk hready (proper_toUser hdb (h.usable a ha)) hfits hactive

end Accounts

namespace Http
open Number
open Accounts (Registration)

/-- The profile of a row is text throughout. -/
theorem checkWritable_of_tells {p : Profile} {u : User} (h : p.Tells u) :
    checkWritable p.toJson = .ok p.toJson := by
  obtain ⟨nickname, -, hnickname⟩ := h.nickname
  simp [checkWritable, Profile.toJson, h.username, hnickname, Json.hasNonFinite, Json.hasUnpaired,
    Json.hasNonFiniteMembers, Json.hasUnpairedMembers, AnyText.string?]

section
variable [Platform]

/-- The service can take up a request to sign in with a form: it can set up its sessions, and it
reads the form in the body of the request and a path in its address. -/
structure Service.TakesUp (s : Service) (m : SessionManager) (r : Request) (form : SignInForm) :
    Prop where
  manager : s.manager = .ok m
  asks : r.Asks .signIn
  body : readBody s.framework r = .ok (some form.toJson)
  address : ∃ path, s.framework.addressPath r = .ok path

section
variable {s : Service} {r : Request} {now : DateTime} {form : SignInForm} {m : SessionManager}
  {p : Profile} {u : User} (h : s.TakesUp m r form)
include h

theorem run_signIn : s.run r now .signIn = (do
    let form ← requireBody (some form.toJson) SignInForm.read
    let profile ← signIn s.passwords m s.directory form now
    return ⟨200, profile.toJson⟩, s.store) := by
  have htakes : Service.takesBody .signIn = true := rfl
  rw [Service.run, if_pos htakes, h.body]
  show (s.signIn (some form.toJson) now, s.store) = _
  rw [Service.signIn, Written.lift_bind_of_ok h.manager]

/-- A form within the bounds is answered by the sign-in. -/
theorem answered_of_bounded (hbounded : form.Bounded) (elapsed : Binary64)
    (hout : (signIn s.passwords m s.directory form now).outcome = .ok p) (htells : p.Tells u) :
    ∃ response, (exchange s r now elapsed).1.response = .ok response ∧ response.status = 200 ∧
      response.content = .json p.toJson ∧
      response.cookies = (signIn s.passwords m s.directory form now).headers := by
  obtain ⟨route, hresolve⟩ := h.asks
  obtain ⟨path, hpath⟩ := h.address
  obtain ⟨response, hresponse, hanswers⟩ := answers_of_found s now hresolve elapsed
  have hwritten : signIn s.passwords m s.directory form now =
      ⟨.ok p, (signIn s.passwords m s.directory form now).headers⟩ := by
    rw [← hout]
  have hrun : (s.run r now .signIn).1 =
      ⟨.ok ⟨200, p.toJson⟩, (signIn s.passwords m s.directory form now).headers⟩ := by
    rw [run_signIn h, Written.lift_bind_of_ok (SignInForm.requireBody_of_bounded hbounded),
      hwritten, Written.ok_bind]
    show (⟨.ok ⟨200, p.toJson⟩, _ ++ []⟩ : Written Reply) = _
    rw [List.append_nil]
  obtain ⟨hstatus, hcookies, hcontent⟩ := hanswers.done_of_ok (congrArg Written.outcome hrun)
    (checkWritable_of_tells htells) hpath
  exact ⟨response, hresponse, hstatus, hcontent, hcookies.trans (congrArg Written.headers hrun)⟩

/-- Any other form is refused before anybody is looked up. -/
theorem answered_of_not_bounded (hbounded : ¬ form.Bounded) (now : DateTime) (elapsed : Binary64) :
    ∃ response, (exchange s r now elapsed).1.response = .ok response ∧ response.status = 422 ∧
      response.cookies = [] := by
  obtain ⟨route, hresolve⟩ := h.asks
  obtain ⟨path, hpath⟩ := h.address
  obtain ⟨errors, hrefused, htold⟩ := SignInForm.exists_badRequest_of_not_bounded hbounded
  have hout : (s.run r now .signIn).1.outcome = .error (.badRequest errors) := by
    rw [run_signIn h, Written.lift_bind_of_error hrefused]
  have hwritable : ∃ inner, (answerBadRequest s.framework r errors).response = .ok inner ∧
      inner.status = 422 ∧ inner.cookies = [] := by
    cases hanswer : (answerBadRequest s.framework r errors).response with
    | error f =>
      obtain ⟨e, he, huntold⟩ := (exists_error_answerBadRequest hpath errors).1 ⟨f, hanswer⟩
      exact absurd huntold (htold e he)
    | ok inner =>
      obtain ⟨v, rfl⟩ := ofJson_of_answerBadRequest hanswer
      exact ⟨_, rfl, rfl, rfl⟩
  obtain ⟨inner, hinner, hstatus, hcookies⟩ := hwritable
  have hroute : (answerRoute s r now (resolve r.method r.path)).1.response = .ok inner := by
    rw [hresolve, answerRoute_of_error hout]
    exact hinner
  obtain ⟨response, hresponse, hdelivers⟩ := delivers_exchange s r now elapsed
  refine ⟨response, hresponse, ?_⟩
  cases hdelivers with
  | question hmethod => exact absurd hmethod (ne_options_of_resolve hresolve)
  | passed hpassed _ hcarries =>
    obtain rfl := Except.ok.inj (hroute.symm.trans hpassed)
    exact ⟨hcarries.status.trans hstatus, hcarries.cookies.trans hcookies⟩
  | unexpected hf =>
    obtain hf | hf := hf
    · cases hroute.symm.trans hf
    · cases hpath.symm.trans hf

end

/-! ### Registered accounts -/

/-- What comes of signing in with the credentials of a registration to a service that has the
accounts of the table and checks passwords by a scheme that takes the password for the digest that
was made of it. The form is read if it is within the bounds; then the sign-in is accepted, and it is
the account that is signed in to. Else it is refused. -/
structure SignsIn (t : Accounts) (a : Account) (c : Registration) : Prop where
  reads : requireBody (some c.form.toJson) SignInForm.read = .ok c.form ↔ c.form.Bounded
  accepted : ∀ (s : Service) (m : SessionManager) (r : Request) (now : DateTime)
    (elapsed : Binary64), s.passwords.Answers → s.passwords.Takes c.hash →
    s.directory = t.toDirectory → s.TakesUp m r c.form → c.form.Bounded → m.Ready now →
      ∃ response, ∃ p : Profile, (exchange s r now elapsed).1.response = .ok response ∧
        response.status = 200 ∧ response.content = .json p.toJson ∧ p.Tells a.toUser ∧
        m.Starts a.toUser now response.cookies
  refused : ∀ (s : Service) (m : SessionManager) (r : Request) (now : DateTime)
    (elapsed : Binary64), s.TakesUp m r c.form → ¬ c.form.Bounded →
      ∃ response, (exchange s r now elapsed).1.response = .ok response ∧ response.status = 422 ∧
        response.cookies = []

/-- An account that a registration added can be signed in to by the credentials of this one. -/
theorem signsIn_of_account {t : Accounts} {db : Database} {c : Registration} {id : Int}
    {digest : String} (hdb : db.Narrow) (ht : t.Sound db) (ha : c.account id digest ∈ t.rows)
    (hdigest : c.hash c.password = .ok digest) : SignsIn t (c.account id digest) c where
  reads := SignInForm.requireBody_iff
  accepted s m r now elapsed hpasswords htakes hdirectory h hbounded hready := by
    obtain ⟨p, hp, htells, hstarts⟩ :=
      ht.exists_signIn hdb ha rfl hpasswords (htakes _ digest hdigest) hready
    rw [← hdirectory] at hp hstarts
    obtain ⟨response, hresponse, hstatus, hcontent, hcookies⟩ :=
      answered_of_bounded h hbounded elapsed hp htells
    exact ⟨response, p, hresponse, hstatus, hcontent, htells, hcookies ▸ hstarts⟩
  refused s m r now elapsed h hbounded := answered_of_not_bounded h hbounded now elapsed

end

/-! ### Requests with the credentials of a registration -/

section
attribute [local instance] Platform.standard

/-- The request that posts a form. -/
def Request.ofForm (form : SignInForm) : Request :=
  ⟨"POST", "/v1/auth/signin", [], [("Content-Type", "application/json")],
    Utf8.encode (Json.print form.toJson)⟩

theorem asks_ofForm (form : SignInForm) : (Request.ofForm form).Asks .signIn := by
  rw [Request.asks_iff]
  show (resolve "POST" "/v1/auth/signin").action? = some .signIn
  decide +kernel

/-- Every form is read from the request that posts it. -/
theorem readBody_ofForm (form : SignInForm) :
    readBody .standard (Request.ofForm form) = .ok (some form.toJson) := by
  have hregular : Json.Regular Platform.depthLimit form.toJson := by
    apply Json.Regular.of_hundred
    rw [SignInForm.toJson, Json.Regular]
    simp [Json.RegularMembers, Json.Regular]
  have hascii : ∀ c ∈ Json.print form.toJson, IsAscii c :=
    fun c hc => Json.isAscii_of_mem_print hregular hc
  have htyped : hasJson .standard (Request.ofForm form) = true := by
    show hasJson .standard ⟨"", "", [], [("Content-Type", "application/json")], []⟩ = true
    decide +kernel
  obtain ⟨c, cs, hprint, -, -⟩ := Json.print_cons hregular
  have hsome : (Request.ofForm form).body.isEmpty = false := by
    show (Utf8.encode (Json.print form.toJson)).isEmpty = false
    rw [Utf8.encode_of_isAscii hascii, hprint]
    rfl
  have hdecoded : decodeDetected (Request.ofForm form).body = some (Json.print form.toJson) :=
    decodeDetected_encode hascii
  rw [readBody, hsome, htyped, hdecoded]
  simp [Json.parse_print hregular]

/-- The sample service with the accounts of a table. -/
def serviceOf (t : Accounts) : Service := { sampleWorld "" [] [] with directory := t.toDirectory }

theorem addressPath_ofForm (form : SignInForm) :
    Framework.standard.addressPath (Request.ofForm form) = .ok "/v1/auth/signin" := by
  have hhost : (Request.ofForm form).header? "host" = none := by
    show Request.header? ⟨"", "", [], [("Content-Type", "application/json")], []⟩ "host" = none
    decide +kernel
  have htext : Address.text (.ofForm form) "/v1/auth/signin" = .ok "/v1/auth/signin".toList := by
    rw [Address.text, Address.host, hhost]
    rfl
  show Address.text (.ofForm form) "/v1/auth/signin" >>= Address.pathOf = _
  rw [htext]
  rfl

/-- The sample service takes up every form. -/
theorem takesUp_ofForm (t : Accounts) (form : SignInForm) :
    (serviceOf t).TakesUp .sample (.ofForm form) form where
  manager := manager_sampleWorld "" [] []
  asks := asks_ofForm form
  body := readBody_ofForm form
  address := ⟨_, addressPath_ofForm form⟩

/-- A registration of a regular user by SHA-256. -/
def sampleRegistration (username : String) : Registration :=
  ⟨username, "secret", .user, "", Password.hash⟩

theorem exists_hash_sample : ∃ digest, Password.hash "secret" = .ok digest :=
  ⟨_, if_neg (by decide)⟩

/-- An empty table in memory takes every row. -/
theorem admits_sampleRegistration (username digest : String) :
    Accounts.empty.Admits .inMemory
      ((sampleRegistration username).account (Database.inMemory.newId []) digest) :=
  ⟨rfl, rfl, by simp [Accounts.empty]⟩

end

end Http

end Gatehouse
