import Gatehouse.Proofs.Session.Browser
import Gatehouse.Proofs.Token.Genuine
import Gatehouse.Session.Manager

/-!
The tokens that a session is given. Each of them tells its user for its audience and ends a fixed
span after its issue, to the second; `establish_eq_ok` and `renew_eq_ok` take the two operations
apart that issue them.
-/
namespace Gatehouse
open Hash

namespace Issuer
variable [Platform] {i : Issuer} {principal subject : Json} {audience : Audience} {now : DateTime}
  {life : Int} {t : String}

/-- The issuer made the token now for a user and an audience, to live this long. -/
structure Issued (i : Issuer) (principal subject : Json) (audience : Audience) (life : Int)
    (now : DateTime) (t : String) (c : Claims) : Prop where
  signed : i.signer.Signed t c
  audience_eq : c.audience = audience
  principal_eq : principal = .text c.principal
  subject_eq : c.subject = subject.plainText
  userId_eq : ∀ n, subject = .int n → c.userId = .ok n
  expiresAt : c.expiresAt = some ⟨(now.instant + life) / second * second, some 0⟩

theorem issued_of_issue {e : DateTime} (he : now.shift life = .ok e)
    (h : i.issue principal subject audience now (some e) = .ok t) :
    ∃ c, i.Issued principal subject audience life now t c := by
  obtain ⟨c, hbuild, hsign⟩ := bind_eq_ok.1 h
  obtain ⟨-, -, hexp, hprincipal, hsubject, hissuer, haudience⟩ := Claims.build_eq_ok.1 hbuild
  obtain ⟨x, hx, hsome⟩ := map_eq_ok.1 hexp
  obtain ⟨-, rfl⟩ := DateTime.truncateToSeconds_eq_ok.1 hx
  rw [DateTime.instant_of_shift he] at hsome
  exact ⟨c, ⟨Claims.wholeSeconds_build hbuild, (Json.text.inj hissuer).symm, hsign⟩,
    (Audience.name_injective (AnyText.string.inj (Json.text.inj haudience))).symm, hprincipal,
    hsubject.symm,
    fun n hn => Claims.userId_build hbuild hn, hsome.symm⟩

theorem issued_of_sessionAccess (h : i.sessionAccess principal subject now = .ok t) :
    ∃ c, i.Issued principal subject .sessionAccess i.accessLife now t c := by
  obtain ⟨e, he, h⟩ := bind_eq_ok.1 h
  exact issued_of_issue he h

theorem issued_of_sessionRefresh (h : i.sessionRefresh principal subject now = .ok t) :
    ∃ c, i.Issued principal subject .sessionRefresh i.refreshLife now t c := by
  obtain ⟨e, he, h⟩ := bind_eq_ok.1 h
  exact issued_of_issue he h

/-- An issuer that gives signatures issues tokens while the times stay in years 1 to 9999. -/
theorem exists_issue (hsigns : Signer.Signs i.signer.algorithm i.signer.secret) (name : AnyText)
    (hsubject : Claims.IsSubject subject) (audience : Audience) (hnow : now.Reaches 0)
    (hlife : now.Reaches life) :
    ∃ e t, now.shift life = .ok e ∧ i.issue (.text name) subject audience now (some e) = .ok t := by
  have hissued : DateTime.inRange now.instant = true := by simpa using hnow.utc
  have hexpires : ∀ e, some (⟨now.reading + life, now.offset⟩ : DateTime) = some e →
      DateTime.inRange e.instant = true := by
    rintro e he
    obtain rfl := Option.some.inj he
    rw [DateTime.instant_of_shift hlife.shift]
    exact hlife.utc
  obtain ⟨c, hbuild, -⟩ :=
    Claims.exists_build name i.signer.issuer hsubject audience hissued hexpires
  obtain ⟨t, hsign⟩ := Signer.exists_sign_of_signs hsigns (Claims.wholeSeconds_build hbuild)
  exact ⟨_, t, hlife.shift, bind_eq_ok.2 ⟨c, hbuild, hsign⟩⟩

end Issuer

namespace SessionManager
variable {m : SessionManager} {now : DateTime} {headers : List String}

/-- Cookies that are written now end a margin before a refresh token that is issued now. -/
theorem instant_of_cookieExpiry {e : DateTime} (h : m.cookieExpiry now = .ok e) :
    e.instant = now.instant + m.issuer.refreshLife - m.margin ∧
      e.offset.isSome = now.offset.isSome := by
  obtain ⟨x, hx, he⟩ := bind_eq_ok.1 h
  have hlong := DateTime.instant_of_shift hx
  have hshort := DateTime.instant_of_shift he
  exact ⟨by omega, (DateTime.aware_of_shift he).trans (DateTime.aware_of_shift hx)⟩

/-- The end of the cookies is told by the clock of the request, if that can show it. -/
theorem cookieExpiry_of_inRange
    (hlong : DateTime.inRange (now.reading + m.issuer.refreshLife) = true)
    (hshort : DateTime.inRange (now.reading + (m.issuer.refreshLife - m.margin)) = true) :
    m.cookieExpiry now = .ok ⟨now.reading + (m.issuer.refreshLife - m.margin), now.offset⟩ := by
  have hsum : now.reading + (m.issuer.refreshLife - m.margin) =
      now.reading + m.issuer.refreshLife + -m.margin := by omega
  rw [hsum] at hshort ⊢
  exact bind_eq_ok.2 ⟨_, DateTime.shift_eq_ok.2 ⟨hlong, rfl⟩, DateTime.shift_eq_ok.2 ⟨hshort, rfl⟩⟩

theorem exists_cookieExpiry (hlong : now.Reaches m.issuer.refreshLife)
    (hshort : now.Reaches (m.issuer.refreshLife - m.margin)) : ∃ e, m.cookieExpiry now = .ok e :=
  ⟨_, cookieExpiry_of_inRange hlong.own hshort.own⟩

/-- A renewed cookie ends with the cookies that are new then, but not after the refresh cookie. -/
theorem exists_renewedExpiry_of_shift {c : Claims} {e fresh last : DateTime}
    (he : c.expiresAt = some e) (hend : e.offset.isSome = true) (hnow : now.offset.isSome = true)
    (hfresh : m.cookieExpiry now = .ok fresh) (hlast : e.shift (-m.margin) = .ok last) :
    ∃ expiry, m.renewedExpiry c now = .ok expiry ∧
      expiry.instant = min fresh.instant last.instant := by
  have hearlier := DateTime.earlier_of_aware ((instant_of_cookieExpiry hfresh).2.trans hnow)
    ((DateTime.aware_of_shift hlast).trans hend)
  have hrenewed : m.renewedExpiry c now = fresh.earlier last := by
    simp only [renewedExpiry, he, hfresh, hlast, bind, Except.bind]
  refine ⟨_, hrenewed.trans hearlier, ?_⟩
  split <;> omega

variable [Platform]

/-- A session is established by two tokens, whose cookies end at the same time. -/
theorem establish_eq_ok {username userId : Json} {tokens : SessionTokens} :
    m.establish username userId now = ⟨.ok tokens, headers⟩ ↔
      m.issuer.sessionAccess username userId now = .ok tokens.access ∧
      m.issuer.sessionRefresh username userId now = .ok tokens.refresh ∧
      m.cookieExpiry now = .ok tokens.cookieExpiry ∧
      ∃ access refresh,
        Cookie.write m.cookies.accessName tokens.access tokens.cookieExpiry m.cookies.secure =
          .ok access ∧
        Cookie.write m.cookies.refreshName tokens.refresh tokens.cookieExpiry m.cookies.secure =
          .ok refresh ∧ headers = [access, refresh] := by
  simp only [establish, setTokenCookie, Written.lift_bind_eq_ok, Written.header_bind_eq_ok,
    Written.pure_eq_ok]
  constructor
  · rintro ⟨a, ha, r, hr, e, he, access, -, haccess, ⟨refresh, -, hrefresh, ⟨rfl, rfl⟩, rfl⟩, rfl⟩
    exact ⟨ha, hr, he, access, refresh, haccess, hrefresh, rfl⟩
  · rintro ⟨ha, hr, he, access, refresh, haccess, hrefresh, rfl⟩
    exact ⟨_, ha, _, hr, _, he, access, _, haccess, ⟨refresh, _, hrefresh, ⟨rfl, rfl⟩, rfl⟩, rfl⟩

/-- The spans by which the times of a session are reckoned from its requests. -/
def spans (m : SessionManager) : List Int :=
  [0, m.issuer.accessLife, m.issuer.refreshLife, m.issuer.refreshLife - m.margin]

/-- A manager that gives signatures establishes sessions while the times stay in years 1 to
9999. -/
theorem exists_establish (hsigns : Signer.Signs m.signer.algorithm m.signer.secret)
    (hnameA : Cookie.validName m.cookies.accessName = true)
    (hnameR : Cookie.validName m.cookies.refreshName = true) (name : AnyText) {subject : Json}
    (hsubject : Claims.IsSubject subject)
    (hreaches : ∀ span ∈ m.spans, now.Reaches span) :
    ∃ tokens headers, m.establish (.text name) subject now = ⟨.ok tokens, headers⟩ := by
  have hnow : now.Reaches 0 := hreaches 0 (by simp [spans])
  have hlong : now.Reaches m.issuer.refreshLife := hreaches _ (by simp [spans])
  have hshort : now.Reaches (m.issuer.refreshLife - m.margin) := hreaches _ (by simp [spans])
  obtain ⟨x, access, hx, haccess⟩ := Issuer.exists_issue (i := m.issuer) hsigns name hsubject
    .sessionAccess hnow (hreaches m.issuer.accessLife (by simp [spans]))
  obtain ⟨y, refresh, hy, hrefresh⟩ := Issuer.exists_issue (i := m.issuer) hsigns name
    hsubject .sessionRefresh hnow hlong
  have hissuedA : m.issuer.sessionAccess (.text name) subject now = .ok access :=
    bind_eq_ok.2 ⟨x, hx, haccess⟩
  have hissuedR : m.issuer.sessionRefresh (.text name) subject now = .ok refresh :=
    bind_eq_ok.2 ⟨y, hy, hrefresh⟩
  obtain ⟨a, ha⟩ := Issuer.issued_of_sessionAccess hissuedA
  obtain ⟨r, hr⟩ := Issuer.issued_of_sessionRefresh hissuedR
  obtain ⟨e, he⟩ := exists_cookieExpiry hlong hshort
  have hrange : DateTime.inRange e.instant = true := by
    have hsum : now.instant + m.issuer.refreshLife - m.margin =
        now.instant + (m.issuer.refreshLife - m.margin) := by omega
    rw [(instant_of_cookieExpiry he).1, hsum]
    exact hshort.utc
  obtain ⟨headerA, hwriteA⟩ := Cookie.exists_write (Cookie.plainText_of_sign ha.signed.sign) hnameA
    hrange m.cookies.secure
  obtain ⟨headerR, hwriteR⟩ := Cookie.exists_write (Cookie.plainText_of_sign hr.signed.sign) hnameR
    hrange m.cookies.secure
  exact ⟨⟨access, refresh, e⟩, _, establish_eq_ok.2
    ⟨hissuedA, hissuedR, he, _, _, hwriteA, hwriteR, rfl⟩⟩

/-- A renewal issues one access token and writes its cookie only. -/
theorem renew_eq_ok {c : Claims} {t : String} :
    m.renew c now = ⟨.ok t, headers⟩ ↔
      m.issuer.sessionAccess (.text c.principal) (.text c.subject) now = .ok t ∧
      ∃ e header, m.renewedExpiry c now = .ok e ∧
        Cookie.write m.cookies.accessName t e m.cookies.secure = .ok header ∧
        headers = [header] := by
  simp only [renew, setTokenCookie, Written.lift_bind_eq_ok, Written.header_bind_eq_ok,
    Written.pure_eq_ok]
  constructor
  · rintro ⟨a, ha, e, he, header, -, hwrite, ⟨rfl, rfl⟩, rfl⟩
    exact ⟨ha, e, header, he, hwrite, rfl⟩
  · rintro ⟨ha, e, header, he, hwrite, rfl⟩
    exact ⟨_, ha, e, he, header, _, hwrite, ⟨rfl, rfl⟩, rfl⟩

/-- With an end of its cookie that a header can tell, a manager that gives signatures renews a
session for the subject of the refresh token. -/
theorem exists_renew_of_renewedExpiry (hsigns : Signer.Signs m.signer.algorithm m.signer.secret)
    (hname : Cookie.validName m.cookies.accessName = true) (hnow : now.Reaches 0)
    (hlife : now.Reaches m.issuer.accessLife) {c : Claims} {e : DateTime}
    (he : m.renewedExpiry c now = .ok e) (hrange : DateTime.inRange e.instant = true) :
    ∃ t a header, m.renew c now = ⟨.ok t, [header]⟩ ∧
      m.signer.Signed t a ∧ a.audience = .sessionAccess ∧ a.subject = c.subject ∧
      SetCookie.read header =
        some (m.cookies.accessName, ⟨t, ⟨e.instant / second * second, some 0⟩⟩) := by
  obtain ⟨x, t, hx, ht⟩ := Issuer.exists_issue (i := m.issuer) hsigns c.principal
    (.inl ⟨c.subject, rfl⟩) .sessionAccess hnow hlife
  have hissue : m.issuer.sessionAccess (.text c.principal) (.text c.subject) now = .ok t :=
    bind_eq_ok.2 ⟨x, hx, ht⟩
  obtain ⟨a, ha⟩ := Issuer.issued_of_sessionAccess hissue
  have hplain := Cookie.plainText_of_sign ha.signed.sign
  obtain ⟨header, hwrite⟩ := Cookie.exists_write hplain hname hrange m.cookies.secure
  refine ⟨t, a, header, renew_eq_ok.2 ⟨hissue, e, header, he, hwrite, rfl⟩, ha.signed,
    ha.audience_eq, ?_, Cookie.read_of_write hplain hwrite⟩
  exact ha.subject_eq

end SessionManager

end Gatehouse
