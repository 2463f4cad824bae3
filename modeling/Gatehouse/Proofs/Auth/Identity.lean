import Gatehouse.Proofs.PersonalToken.Failure
import Gatehouse.Proofs.Session.Browsing
import Gatehouse.Proofs.Session.Granted
import Gatehouse.Proofs.Text.Case

/-!
Who sends a request, over both ways of telling it. `Identifies` is everything that it takes, and
`authenticate_identifies` says that nothing else does it: the header alone decides where there is
one, and the cookies where there is none.
-/
namespace Gatehouse
open Text Hash

/-- The token that a header shows: what stands behind the word and a space, the word in any letter
case, without the blanks around it; or the header as it is, where it does not start so. -/
inductive Shows (header : String) : String → Prop where
  | behindWord {word rest : List Char} (hheader : header.toList = word ++ rest)
      (hword : word.map Char.toLower = "bearer ".toList) :
      Shows header (String.ofList (trim isBlank rest))
  | bare (h : ∀ word rest, header.toList = word ++ rest →
      word.map Char.toLower ≠ "bearer ".toList) : Shows header header

section
variable {header token : String}

theorem startsWithWord_iff : (stripPrefix? "bearer ".toList (lower header.toList)).isSome = true ↔
    ∃ word rest, header.toList = word ++ rest ∧ word.map Char.toLower = "bearer ".toList := by
  have hall : ("bearer ".toList.all fun x => decide (Steady x)) = true := by decide
  apply isSome_stripPrefix?_lower
  intro x hx
  exact of_decide_eq_true (List.all_eq_true.1 hall x hx)

/-- The word has the seven characters that are cut off. -/
theorem drop_of_word {word rest : List Char} (hheader : header.toList = word ++ rest)
    (hword : word.map Char.toLower = "bearer ".toList) : header.toList.drop 7 = rest := by
  have hlength : word.length = 7 := by
    rw [← List.length_map (f := Char.toLower), hword]
    rfl
  rw [hheader, ← hlength, List.drop_left]

/-- Every header shows one token. -/
theorem shows_iff : Shows header token ↔ token = bearerToken header := by
  constructor
  · rintro (⟨hheader, hword⟩ | h)
    · have hstarts := startsWithWord_iff.2 ⟨_, _, hheader, hword⟩
      rw [bearerToken, if_pos hstarts, drop_of_word hheader hword]
    · have hstarts : ¬ (stripPrefix? "bearer ".toList (lower header.toList)).isSome = true := by
        rw [startsWithWord_iff]
        rintro ⟨word, rest, hheader, hword⟩
        exact h word rest hheader hword
      rw [bearerToken, if_neg hstarts]
  · rintro rfl
    by_cases hstarts : (stripPrefix? "bearer ".toList (lower header.toList)).isSome = true
    · obtain ⟨word, rest, hheader, hword⟩ := startsWithWord_iff.1 hstarts
      rw [bearerToken, if_pos hstarts, drop_of_word hheader hword]
      exact .behindWord hheader hword
    · rw [bearerToken, if_neg hstarts]
      refine .bare fun word rest hheader hword => ?_
      exact hstarts (startsWithWord_iff.2 ⟨word, rest, hheader, hword⟩)

end

/-- The claims name this user by number, and the user is known and active. -/
def Claims.Names (claims : Claims) (d : Directory) (u : User) : Prop :=
  ∃ id, claims.userId = .ok id ∧ d.byId id = .ok u ∧ u.isActive = true

theorem activeUser_eq_ok_iff {d : Directory} {claims : Claims} {u : User} :
    activeUser d claims = .ok u ↔ claims.Names d u := by
  constructor
  · intro h
    cases hid : claims.userId with
    | error f =>
      rw [activeUser, hid] at h
      cases h
    | ok id => exact ⟨id, hid, (activeUser_eq_ok hid).1 h⟩
  · rintro ⟨id, hid, h⟩
    exact (activeUser_eq_ok hid).2 h

section
variable [Platform]

/-- The verdict on the session that the cookies of a request show. -/
def Credentials.verdict (c : Credentials) (m : SessionManager) (now : DateTime) :
    Except Fault SessionCheck :=
  m.evaluate (cookieToken c m.cookies.accessName) (cookieToken c m.cookies.refreshName) now

/-- What makes a request one of this user: a token in the header that verifies and is on record for
the user whom it names, or without a header a session of the user that goes on. -/
inductive Identifies (m : SessionManager) (r : TokenRegistry) (d : Directory) (s : KeyValue)
    (c : Credentials) (now : DateTime) (u : User) : Prop where
  | token {header token : String} {claims : Claims} {id : Int} {records : List TokenRecord}
      (hheader : c.authorization = some header) (hne : header ≠ "") (hshows : Shows header token)
      (hverify : r.signer.verify (.text token) (some .personalAccess) now = .ok claims)
      (hid : claims.userId = .ok id) (hrecords : Settings.getTokens s (.int id) = .ok records)
      (hkept : ∃ kept ∈ records, kept.token = token) (hknown : d.byId id = .ok u)
      (hactive : u.isActive = true) : Identifies m r d s c now u
  | session {claims : Claims} (hheader : c.authorization.getD "" = "")
      (hverdict : c.verdict m now = .ok (.valid claims) ∨ c.verdict m now = .ok (.renew claims))
      (hnames : claims.Names d u) : Identifies m r d s c now u

section
variable {m : SessionManager} {r : TokenRegistry} {d : Directory} {s : KeyValue} {c : Credentials}
  {now : DateTime} {claims : Claims} {u : User} {f : Fault}

/-! ### The header -/

theorem authenticate_of_header {header : String} (hheader : c.authorization = some header)
    (hne : header ≠ "") :
    authenticate m r d s c now = ⟨authenticateToken r d s header now, []⟩ := by
  simp only [authenticate, hheader, if_neg hne, Written.ofExcept]

omit [Platform] in
theorem exists_header (h : c.authorization.getD "" ≠ "") :
    ∃ header, c.authorization = some header ∧ header ≠ "" := by
  cases hheader : c.authorization with
  | none =>
    rw [hheader] at h
    exact absurd rfl h
  | some header =>
    rw [hheader] at h
    exact ⟨header, rfl, h⟩

theorem contains_eq_ok_true {owner : Json} {token : AnyText} :
    TokenRegistry.contains s owner token = .ok true ↔
      ∃ records, Settings.getTokens s owner = .ok records ∧
        ∃ kept ∈ records, kept.token = token := by
  simp [TokenRegistry.contains, bind_eq_ok]

theorem outcome_of_header {header : String} (hheader : c.authorization = some header)
    (hne : header ≠ "") :
    (authenticate m r d s c now).outcome = .ok u ↔ Identifies m r d s c now u := by
  rw [authenticate_of_header hheader hne, authenticateToken_eq_ok]
  constructor
  · rintro ⟨claims, id, hverify, hid, hcontains, hknown, hactive⟩
    obtain ⟨records, hrecords, hkept⟩ := contains_eq_ok_true.1 hcontains
    exact .token hheader hne (shows_iff.2 rfl) hverify hid hrecords hkept hknown hactive
  · intro h
    cases h with
    | token hheader' hne' hshows hverify hid hrecords hkept hknown hactive =>
      obtain rfl := Option.some.inj (hheader.symm.trans hheader')
      obtain rfl := shows_iff.1 hshows
      exact ⟨_, _, hverify, hid, contains_eq_ok_true.2 ⟨_, hrecords, hkept⟩, hknown, hactive⟩
    | session hempty =>
      rw [hheader] at hempty
      exact absurd hempty hne

/-! ### The session -/

theorem authenticate_of_empty (h : c.authorization.getD "" = "") :
    authenticate m r d s c now = authenticateSession m d c now := by
  cases hheader : c.authorization with
  | none => simp only [authenticate, hheader]
  | some header =>
    rw [hheader] at h
    simp only [authenticate, hheader, if_pos (show header = "" from h)]

theorem authenticateSession_of_error (h : c.verdict m now = .error f) :
    authenticateSession m d c now = ⟨.error f, []⟩ := by
  unfold Credentials.verdict at h
  rw [authenticateSession, h]
  rfl

theorem authenticateSession_of_invalid {reason : String}
    (h : c.verdict m now = .ok (.invalid reason)) : authenticateSession m d c now =
      ⟨.error (if reason = "" then badCredentials else .raise .unauthorized reason), []⟩ := by
  unfold Credentials.verdict at h
  rw [authenticateSession, h]
  rfl

/-- A session that goes on for nobody is turned away before it is renewed. -/
theorem authenticateSession_of_nobody
    (h : c.verdict m now = .ok (.valid claims) ∨ c.verdict m now = .ok (.renew claims))
    (hu : activeUser d claims = .error f) : authenticateSession m d c now = ⟨.error f, []⟩ := by
  unfold Credentials.verdict at h
  obtain h | h := h
  · rw [authenticateSession, Written.lift_bind_of_ok h]
    dsimp only
    rw [hu]
    rfl
  · rw [authenticateSession, Written.lift_bind_of_ok h]
    exact Written.lift_bind_of_error hu _

/-- A session of a user is used as it is, or it was renewed and sets what the renewal sets. -/
theorem session_of_ok (h : (authenticateSession m d c now).outcome = .ok u) :
    ∃ claims, activeUser d claims = .ok u ∧
      (c.verdict m now = .ok (.valid claims) ∧ authenticateSession m d c now = ⟨.ok u, []⟩ ∨
        c.verdict m now = .ok (.renew claims) ∧ ∃ t headers,
          m.renew claims now = ⟨.ok t, headers⟩ ∧
          authenticateSession m d c now = ⟨.ok u, headers⟩) := by
  cases hverdict : c.verdict m now with
  | error f =>
    rw [authenticateSession_of_error hverdict] at h
    cases h
  | ok check =>
    cases check with
    | invalid reason =>
      rw [authenticateSession_of_invalid hverdict] at h
      cases h
    | valid claims =>
      cases hu : activeUser d claims with
      | error f =>
        rw [authenticateSession_of_nobody (.inl hverdict) hu] at h
        cases h
      | ok v =>
        have hvalid := SessionManager.authenticateSession_of_valid hverdict hu
        rw [hvalid] at h
        obtain rfl := Except.ok.inj h
        exact ⟨claims, hu, .inl ⟨rfl, hvalid⟩⟩
    | renew claims =>
      cases hu : activeUser d claims with
      | error f =>
        rw [authenticateSession_of_nobody (.inr hverdict) hu] at h
        cases h
      | ok v =>
        have hrenewed : authenticateSession m d c now =
            (do let _ ← m.renew claims now; return v) := by
          unfold Credentials.verdict at hverdict
          rw [authenticateSession, Written.lift_bind_of_ok hverdict]
          exact Written.lift_bind_of_ok hu _
        have hout := h
        rw [hrenewed, Written.outcome_bind] at hout
        obtain ⟨t, ht, hv⟩ := bind_eq_ok.1 hout
        obtain rfl := Except.ok.inj hv
        have hrenew : m.renew claims now = ⟨.ok t, (m.renew claims now).headers⟩ := by rw [← ht]
        exact ⟨claims, hu, .inr ⟨rfl, t, _, hrenew,
          SessionManager.authenticateSession_of_renew hverdict hu hrenew⟩⟩

/-- Whoever is found to send a request is identified by it. -/
theorem identifies_of_authenticate (h : (authenticate m r d s c now).outcome = .ok u) :
    Identifies m r d s c now u := by
  by_cases hempty : c.authorization.getD "" = ""
  · rw [authenticate_of_empty hempty] at h
    obtain ⟨claims, hu, ⟨hverdict, -⟩ | ⟨hverdict, -⟩⟩ := session_of_ok h
    · exact .session hempty (.inl hverdict) (activeUser_eq_ok_iff.1 hu)
    · exact .session hempty (.inr hverdict) (activeUser_eq_ok_iff.1 hu)
  · obtain ⟨header, hheader, hne⟩ := exists_header hempty
    exact (outcome_of_header hheader hne).1 h

variable (hrenews : ∀ claims, c.verdict m now = .ok (.renew claims) →
  ∃ t headers, m.renew claims now = ⟨.ok t, headers⟩)
include hrenews

theorem outcome_of_session : (authenticateSession m d c now).outcome = .ok u ↔
    ∃ claims, (c.verdict m now = .ok (.valid claims) ∨ c.verdict m now = .ok (.renew claims)) ∧
      claims.Names d u := by
  constructor
  · intro h
    obtain ⟨claims, hu, ⟨hverdict, -⟩ | ⟨hverdict, -⟩⟩ := session_of_ok h
    · exact ⟨claims, .inl hverdict, activeUser_eq_ok_iff.1 hu⟩
    · exact ⟨claims, .inr hverdict, activeUser_eq_ok_iff.1 hu⟩
  · rintro ⟨claims, hvalid | hrenew, hnames⟩
    · rw [SessionManager.authenticateSession_of_valid hvalid (activeUser_eq_ok_iff.2 hnames)]
    · obtain ⟨t, headers, hrenewed⟩ := hrenews claims hrenew
      rw [SessionManager.authenticateSession_of_renew hrenew (activeUser_eq_ok_iff.2 hnames)
        hrenewed]

theorem outcome_of_empty (hempty : c.authorization.getD "" = "") :
    (authenticate m r d s c now).outcome = .ok u ↔ Identifies m r d s c now u := by
  rw [authenticate_of_empty hempty, outcome_of_session hrenews]
  constructor
  · rintro ⟨claims, hclaims, hnames⟩
    exact .session hempty hclaims hnames
  · intro h
    cases h with
    | token hheader hne =>
      rw [hheader] at hempty
      exact absurd hempty hne
    | session _ hclaims hnames => exact ⟨_, hclaims, hnames⟩

omit hrenews in
/-- A header is only written where a session is renewed for somebody. -/
theorem headers_of_session (h : ∀ claims u, c.verdict m now = .ok (.renew claims) →
    ¬ claims.Names d u) : (authenticateSession m d c now).headers = [] := by
  cases hverdict : c.verdict m now with
  | error f => rw [authenticateSession_of_error hverdict]
  | ok check =>
    cases check with
    | invalid reason => rw [authenticateSession_of_invalid hverdict]
    | valid claims =>
      cases hu : activeUser d claims with
      | error f => rw [authenticateSession_of_nobody (.inl hverdict) hu]
      | ok u => rw [SessionManager.authenticateSession_of_valid hverdict hu]
    | renew claims =>
      cases hu : activeUser d claims with
      | error f => rw [authenticateSession_of_nobody (.inr hverdict) hu]
      | ok u => exact absurd (activeUser_eq_ok_iff.1 hu) (h claims u hverdict)

end

end

section
attribute [local instance] Platform.standard

/-- Claims of a personal token for a subject, without an end. -/
def samplePersonal (subject : String) : Claims :=
  ⟨"ann", subject, .personalAccess, "gatehouse", ⟨0, some 0⟩, none⟩

theorem exists_sign_samplePersonal (subject : String) : ∃ t,
    Signer.sample.Signed t (samplePersonal subject) ∧
    Signer.sample.verify (.text t) (some .personalAccess) ⟨0, some 0⟩ =
      .ok (samplePersonal subject) := by
  have hsecret : Platform.usableSecret Signer.sample.secret = true := by decide +kernel
  have hwhole : (samplePersonal subject).WholeSeconds := by
    refine ⟨⟨0, rfl, by decide⟩, ?_⟩
    intro e he
    cases he
  obtain ⟨t, ht⟩ := Signer.exists_sign (s := .sample) (d := .sha256) rfl hsecret hwhole
  refine ⟨t, ⟨hwhole, rfl, ht⟩, ?_⟩
  apply Signer.verify_of_sign (d := .sha256) rfl hsecret hwhole rfl ht
  · simp [samplePersonal]
  · simp [Claims.LiveAt, samplePersonal]

theorem userId_samplePersonal : (samplePersonal "7").userId = .ok 7 := rfl

/-- A request that shows a token behind a word in capitals. -/
def sampleCredentials (t : String) : Credentials := ⟨some ("BEARER " ++ t), []⟩

theorem shows_sampleCredentials {s : Signer} {t : String} {c : Claims} (h : s.Signed t c) :
    Shows ("BEARER " ++ t) t := by
  have hheader : ("BEARER " ++ t).toList = "BEARER ".toList ++ t.toList := String.toList_append ..
  have hshows := Shows.behindWord hheader (by decide)
  rwa [Signer.trim_of_sign h.sign, String.ofList_toList] at hshows

theorem sampleCredentials_ne_empty (t : String) : "BEARER " ++ t ≠ "" := by
  intro hempty
  have hl := congrArg String.toList hempty
  simp at hl

/-- How the request is answered at the sample user's, for a store with these tokens. -/
def sampleAnswer (kept : List String) (t : String) : Written User :=
  authenticate .sample TokenLife.sampleRegistry ⟨[TokenLife.sampleUser], none⟩
    (TokenRegistry.sampleStore kept) (sampleCredentials t) ⟨0, some 0⟩

end

end Gatehouse
