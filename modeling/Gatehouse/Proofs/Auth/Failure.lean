import Gatehouse.Proofs.Auth.Identity

/-!
How authenticating a request fails. Where the checks of its tokens fail as an authentication does,
and the user and the records can be read, so does the request, but for one gap: a personal token
whose subject is no number fails with the fault of reading that number. `escapes_iff` says that
there is no other; the session, whose subject is looked up in one place only, has none.
-/
namespace Gatehouse
open Text Hash

namespace Signer
variable [Platform]

/-- A value that is no text is refused as an authentication. -/
theorem typed_null (s : Signer) (audience : Audience) (now : DateTime) :
    s.Typed .null audience now := by
  intro f hf
  cases hf
  rfl

theorem typed_of_verify {s : Signer} {token : Json} {audience : Audience} {now : DateTime}
    {claims : Claims} (h : s.verify token (some audience) now = .ok claims) :
    s.Typed token audience now := by
  intro f hf
  cases h.symm.trans hf

end Signer

theorem userId_eq_error {claims : Claims} {f : Fault} : claims.userId = .error f ↔
    f = .badValue ∧ (claims.subject.string?.bind fun s => readInteger? s.toList) = none := by
  unfold Claims.userId
  cases claims.subject.string?.bind fun s => readInteger? s.toList with
  | none => simp [eq_comm]
  | some n => simp

section
variable [Platform]

section
variable {m : SessionManager} {r : TokenRegistry} {d : Directory} {s : KeyValue} {c : Credentials}
  {now : DateTime} {claims : Claims} {f : Fault}

omit [Platform] in
/-- While look-ups answer, claims without an active user fail as an authentication, whatever their
subject is. -/
theorem isUnauthorized_of_activeUser (hd : d.failure = none) (h : activeUser d claims = .error f) :
    f.isUnauthorized = true := by
  have hnobody : ∀ e, claims.userId.bind d.byId = .error e → namesNoUser e = true := by
    intro e he
    obtain hid | ⟨id, -, hlook⟩ := bind_eq_error.1 he
    · obtain ⟨rfl, -⟩ := userId_eq_error.1 hid
      rfl
    · unfold Directory.byId Directory.found at hlook
      simp only [hd] at hlook
      split at hlook
      · cases hlook
      · cases hlook
        rfl
  unfold activeUser at h
  split at h
  · split at h
    · cases h
    · cases h
      rfl
  · next e he =>
    rw [hnobody e he] at h
    cases h
    rfl

/-- What a request must be given so that only its own tokens can fail it: their checks fail as an
authentication does, look-ups of users answer, and the records of the user concerned can be read. -/
structure Answerable (m : SessionManager) (r : TokenRegistry) (d : Directory) (s : KeyValue)
    (c : Credentials) (now : DateTime) : Prop where
  header : ∀ header token, c.authorization = some header → Shows header token →
    r.signer.Typed (.text token) .personalAccess now
  access : m.signer.Typed (cookieToken c m.cookies.accessName) .sessionAccess now
  refresh : m.signer.Typed (cookieToken c m.cookies.refreshName) .sessionRefresh now
  directory : d.failure = none
  records : ∀ header token claims id, c.authorization = some header → Shows header token →
    r.signer.verify (.text token) (some .personalAccess) now = .ok claims →
    claims.userId = .ok id → ∃ records, Settings.getTokens s (.int id) = .ok records

/-- The header shows a token that verifies, and its subject is no number. -/
def Nameless (r : TokenRegistry) (c : Credentials) (now : DateTime) : Prop :=
  ∃ header token claims, c.authorization = some header ∧ header ≠ "" ∧ Shows header token ∧
    r.signer.verify (.text token) (some .personalAccess) now = .ok claims ∧
    (claims.subject.string?.bind fun s => readInteger? s.toList) = none

/-- A token in the header fails otherwise than an authentication exactly in the gap. -/
theorem escapes_header_iff (h : Answerable m r d s c now) {header : String}
    (hheader : c.authorization = some header) (hne : header ≠ "") :
    (authenticate m r d s c now).outcome = .error f ∧ f.isUnauthorized = false ↔
      f = .badValue ∧ Nameless r c now := by
  have hshows : Shows header (bearerToken header) := shows_iff.2 rfl
  rw [authenticate_of_header hheader hne]
  constructor
  · rintro ⟨hfault, huntyped⟩
    have hnot (htyped : f.isUnauthorized = true) : False := by
      rw [htyped] at huntyped
      cases huntyped
    simp only [authenticateToken, bind_eq_error] at hfault
    rcases hfault with hverify | ⟨claims, hverify, hid | ⟨id, hid, hlook | ⟨known, -, hlast⟩⟩⟩
    · exact (hnot (h.header header _ hheader hshows f hverify)).elim
    · obtain ⟨rfl, hnone⟩ := userId_eq_error.1 hid
      exact ⟨rfl, header, _, claims, hheader, hne, hshows, hverify, hnone⟩
    · obtain ⟨records, hrecords⟩ := h.records header _ claims id hheader hshows hverify hid
      simp [TokenRegistry.contains, hrecords, bind_eq_error] at hlook
    · cases known with
      | true => exact (hnot (isUnauthorized_of_activeUser h.directory hlast)).elim
      | false =>
        cases hlast
        exact (hnot rfl).elim
  · rintro ⟨rfl, header', token, claims, hheader', -, hshows', hverify, hnone⟩
    obtain rfl := Option.some.inj (hheader.symm.trans hheader')
    obtain rfl := shows_iff.1 hshows'
    refine ⟨?_, rfl⟩
    exact bind_eq_error.2 (.inr ⟨claims, hverify, bind_eq_error.2
      (.inl (userId_eq_error.2 ⟨rfl, hnone⟩))⟩)

/-- A session that has a verdict, and is renewed where the verdict says so, fails as an
authentication only. -/
theorem isUnauthorized_of_session (hd : d.failure = none)
    (hverdict : ∃ check, c.verdict m now = .ok check)
    (hrenews : ∀ claims, c.verdict m now = .ok (.renew claims) →
      ∃ t headers, m.renew claims now = ⟨.ok t, headers⟩)
    (h : (authenticateSession m d c now).outcome = .error f) : f.isUnauthorized = true := by
  obtain ⟨check, hcheck⟩ := hverdict
  cases check with
  | invalid reason =>
    rw [authenticateSession_of_invalid hcheck] at h
    cases h
    split <;> rfl
  | valid claims =>
    cases hu : activeUser d claims with
    | error e =>
      rw [authenticateSession_of_nobody (.inl hcheck) hu] at h
      cases h
      exact isUnauthorized_of_activeUser hd hu
    | ok u =>
      rw [SessionManager.authenticateSession_of_valid hcheck hu] at h
      cases h
  | renew claims =>
    cases hu : activeUser d claims with
    | error e =>
      rw [authenticateSession_of_nobody (.inr hcheck) hu] at h
      cases h
      exact isUnauthorized_of_activeUser hd hu
    | ok u =>
      obtain ⟨t, headers, hrenewed⟩ := hrenews claims hcheck
      rw [SessionManager.authenticateSession_of_renew hcheck hu hrenewed] at h
      cases h

end

/-- A request whose tokens can be checked fails otherwise than an authentication exactly if its
header shows a token that verifies and whose subject is no number. -/
theorem escapes_iff {m : SessionManager} {r : TokenRegistry} {d : Directory} {s : KeyValue}
    {c : Credentials} {now : DateTime} {k : Digest}
    (halg : Algorithm.ofName? m.signer.algorithm = some (.keyed k))
    (hsecret : Platform.usableSecret m.signer.secret = true)
    (hname : Cookie.validName m.cookies.accessName = true) (haware : now.offset.isSome = true)
    (hreaches : ∀ span ∈ m.spans, now.Reaches span) (hmargin : now.Reaches (-m.margin))
    (h : Answerable m r d s c now) (f : Fault) :
    (authenticate m r d s c now).outcome = .error f ∧ f.isUnauthorized = false ↔
      f = .badValue ∧ Nameless r c now := by
  by_cases hempty : c.authorization.getD "" = ""
  · have hnot : ¬ Nameless r c now := by
      rintro ⟨header, -, -, hheader, hne, -⟩
      rw [hheader] at hempty
      exact hne hempty
    simp only [hnot, and_false, iff_false, not_and, Bool.not_eq_false]
    intro hfault
    rw [authenticate_of_empty hempty] at hfault
    refine isUnauthorized_of_session h.directory ?_ ?_ hfault
    · exact SessionManager.exists_evaluate haware hmargin h.refresh h.access
    · intro claims hrenew
      obtain ⟨t, a, header, ends, hrenewed, -⟩ :=
        (SessionManager.granted_of_evaluate hrenew).exists_renew haware hreaches halg hsecret hname
      exact ⟨t, [header], hrenewed⟩
  · obtain ⟨header, hheader, hne⟩ := exists_header hempty
    exact escapes_header_iff h hheader hne

end

/-! ### A subject that is no number -/

section
attribute [local instance] Platform.standard

/-- The sample request has tokens that can be checked, if the one that it shows is signed. -/
theorem answerable_sample {subject t : String}
    (hsigned : Signer.sample.Signed t (samplePersonal subject))
    (hverify : Signer.sample.verify (.text t) (some .personalAccess) ⟨0, some 0⟩ =
      .ok (samplePersonal subject))
    (hid : ∀ id, (samplePersonal subject).userId = .ok id → id = 7) :
    Answerable .sample TokenLife.sampleRegistry ⟨[TokenLife.sampleUser], none⟩
      (TokenRegistry.sampleStore []) (sampleCredentials t) ⟨0, some 0⟩ := by
  have hshown {header token : String} (hheader : (sampleCredentials t).authorization = some header)
      (hshows : Shows header token) : token = t := by
    obtain rfl := Option.some.inj hheader
    exact (shows_iff.1 hshows).trans (shows_iff.1 (shows_sampleCredentials hsigned)).symm
  refine ⟨?_, Signer.typed_null _ _ _, Signer.typed_null _ _ _, rfl, ?_⟩
  · intro header token hheader hshows
    rw [hshown hheader hshows]
    exact Signer.typed_of_verify hverify
  · intro header token claims id hheader hshows hclaims hnumber
    rw [hshown hheader hshows] at hclaims
    obtain rfl := Except.ok.inj (hverify.symm.trans hclaims)
    rw [hid id hnumber]
    exact ⟨[], TokenRegistry.getTokens_sampleStore []⟩

/-- The token of a user whose records were dropped fails as an authentication. -/
theorem escapes_iff_sample : ∃ t, Signer.sample.sign (samplePersonal "7") = .ok t ∧
    ∀ f, (sampleAnswer [] t).outcome = .error f → f.isUnauthorized = true := by
  obtain ⟨t, hsigned, hverify⟩ := exists_sign_samplePersonal "7"
  have hid : ∀ id, (samplePersonal "7").userId = .ok id → id = 7 := by
    intro id hid
    exact Except.ok.inj (hid.symm.trans userId_samplePersonal)
  have hanswerable := answerable_sample hsigned hverify hid
  refine ⟨t, hsigned.sign, fun f hf => ?_⟩
  by_contra huntyped
  have hescapes := (escapes_iff (k := .sha256) rfl SessionManager.usable_sample (by decide) rfl
    (by decide) (by decide) hanswerable f).1 ⟨hf, by simpa using huntyped⟩
  obtain ⟨-, header, token, claims, hheader, -, hshows, hclaims, hnone⟩ := hescapes
  obtain rfl := Option.some.inj hheader
  obtain rfl : token = t :=
    (shows_iff.1 hshows).trans (shows_iff.1 (shows_sampleCredentials hsigned)).symm
  obtain rfl := Except.ok.inj (hverify.symm.trans hclaims)
  exact absurd hnone (by decide)

/-- A signed token for a guest can be checked, and fails with the fault of reading a number. -/
theorem guest_escapes : ∃ t, Signer.sample.sign (samplePersonal "guest") = .ok t ∧
    Signer.sample.verify (.text t) (some .personalAccess) ⟨0, some 0⟩ =
      .ok (samplePersonal "guest") ∧
    Answerable .sample TokenLife.sampleRegistry ⟨[TokenLife.sampleUser], none⟩
      (TokenRegistry.sampleStore []) (sampleCredentials t) ⟨0, some 0⟩ ∧
    (sampleAnswer [] t).outcome = .error .badValue ∧ Fault.badValue.isUnauthorized = false := by
  obtain ⟨t, hsigned, hverify⟩ := exists_sign_samplePersonal "guest"
  have hnone : readInteger? "guest".toList = none := by decide
  have hid : ∀ id, (samplePersonal "guest").userId = .ok id → id = 7 := by
    intro id hid
    cases hid.symm.trans (userId_eq_error.2 ⟨rfl, hnone⟩)
  have hanswerable := answerable_sample hsigned hverify hid
  refine ⟨t, hsigned.sign, hverify, hanswerable, ?_, rfl⟩
  exact ((escapes_header_iff hanswerable rfl (sampleCredentials_ne_empty t)).2
    ⟨rfl, _, t, _, rfl, sampleCredentials_ne_empty t, shows_sampleCredentials hsigned, hverify,
      hnone⟩).1

end

end Gatehouse
