import Gatehouse.Proofs.Config.Accepted
import Gatehouse.Proofs.Session.Granted
import Gatehouse.Proofs.Session.Renewal
import Gatehouse.Session.Configured

/-!
When the cookies of a configured service end. Its spans are whole minutes, of which the margin is
shorter than the life of the refresh token: so cookies end after they are written, and before the
refresh token does, although its end is cut to the second. A renewed cookie keeps to the same
bounds at the very end of a session, when only the cut second of the refresh token is left to it.
-/
namespace Gatehouse
open Hash

namespace DateTime
variable {d : DateTime} {low span high : Int}

/-- What lies between two spans that are reached is reached. -/
theorem Reaches.between (h : d.Reaches low) (h' : d.Reaches high) (hlow : low ≤ span)
    (hhigh : span ≤ high) : d.Reaches span := by
  have hown := inRange_iff.1 h.own
  have hown' := inRange_iff.1 h'.own
  have hutc := inRange_iff.1 h.utc
  have hutc' := inRange_iff.1 h'.utc
  exact ⟨inRange_iff.2 (by omega), inRange_iff.2 (by omega)⟩

/-- A number of minutes within the years that a clock can show is a span. -/
theorem Reaches.ofMinutes {n : Int} (h : d.Reaches 0) (h' : d.Reaches (n * Span.minute)) :
    Span.ofMinutes n = .ok (n * Span.minute) := by
  have hown := inRange_iff.1 h.own
  have hown' := inRange_iff.1 h'.own
  have hyears : maxReading - minReading < 999999999 * Span.day := by decide
  have hrange : Span.inRange (n * Span.minute) = true := by
    simp only [Span.inRange, Bool.and_eq_true, decide_eq_true_eq]
    omega
  rw [Span.ofMinutes, Span.check, if_pos hrange]

end DateTime

namespace TokenConfig

/-- The configured spans, in minutes. -/
def minutes (c : TokenConfig) : List Int :=
  [c.accessMinutes, c.refreshMinutes, c.thresholdMinutes, c.marginMinutes]

/-- The time has a clock reading in UTC, and so has each configured span after it. -/
def Fits (c : TokenConfig) (now : DateTime) : Prop :=
  now.Reaches 0 ∧ ∀ n ∈ c.minutes, now.Reaches (n * Span.minute)

end TokenConfig

namespace SessionManager
variable {m : SessionManager} {c : TokenConfig} {cookies : CookieConfig} {now : DateTime}

/-- The manager has the one configured key, and the configured spans and cookies. -/
structure Configured (m : SessionManager) (c : TokenConfig) (cookies : CookieConfig) : Prop where
  keys : m.signer.keys = [(c.keyId, c.secretKey)]
  algorithm : m.signer.algorithm = c.algorithm
  accessLife : m.issuer.accessLife = c.accessMinutes * Span.minute
  refreshLife : m.issuer.refreshLife = c.refreshMinutes * Span.minute
  margin : m.margin = c.marginMinutes * Span.minute
  cookies : m.cookies = cookies

theorem exists_configured (hc : c.Accepted) (hfits : c.Fits now) (cookies : CookieConfig)
    (machineTime : Int) : ∃ signer issuer m, Signer.ofConfig c machineTime = .ok signer ∧
      Issuer.ofConfig signer c = .ok issuer ∧ SessionManager.ofConfig issuer c cookies = .ok m ∧
      m.Configured c cookies := by
  have hspan (n : Int) (hn : n ∈ c.minutes) : Span.ofMinutes n = .ok (n * Span.minute) :=
    hfits.1.ofMinutes (hfits.2 n hn)
  have hknown : ([(c.keyId, c.secretKey)].lookup c.keyId).isSome := by simp
  have hmargin : 0 < c.marginMinutes * Span.minute := Int.mul_pos hc.margin_pos (by decide)
  let signer : Signer := ⟨_, c.keyId, c.algorithm, c.issuer, machineTime, hknown⟩
  let issuer : Issuer := ⟨signer, c.accessMinutes * Span.minute, c.refreshMinutes * Span.minute⟩
  have hissuer : Issuer.ofConfig signer c = .ok issuer :=
    bind_eq_ok.2 ⟨_, hspan _ (by simp [TokenConfig.minutes]),
      bind_eq_ok.2 ⟨_, hspan _ (by simp [TokenConfig.minutes]), rfl⟩⟩
  have hmanager : SessionManager.ofConfig issuer c cookies =
      .ok ⟨issuer, c.thresholdMinutes * Span.minute, _, cookies, hmargin⟩ :=
    bind_eq_ok.2 ⟨_, hspan _ (by simp [TokenConfig.minutes]),
      bind_eq_ok.2 ⟨_, hspan _ (by simp [TokenConfig.minutes]), dif_pos hmargin⟩⟩
  exact ⟨signer, issuer, _, dif_pos hknown, hissuer, hmanager, rfl, rfl, rfl, rfl, rfl, rfl⟩

namespace Configured
variable (h : m.Configured c cookies)
include h

theorem eq_of_lookup {kid secret : String} (hlookup : m.signer.keys.lookup kid = some secret) :
    secret = c.secretKey := by
  rw [h.keys, List.lookup_cons] at hlookup
  split at hlookup
  · exact (Option.some.inj hlookup).symm
  · cases hlookup

theorem secret_eq : m.signer.secret = c.secretKey :=
  h.eq_of_lookup (Option.some_get m.signer.current_known).symm

variable (hc : c.Accepted)
include hc

/-- The margin is at least a minute, and at least a minute shorter than the refresh token lives. -/
theorem margin_bounds : Span.minute ≤ m.margin ∧ m.margin + Span.minute ≤ m.issuer.refreshLife := by
  have hpos := hc.margin_pos
  have hlt := hc.margin_lt
  rw [h.margin, h.refreshLife]
  unfold Span.minute second
  constructor <;> omega

/-- All times of a session that is started or renewed now can be told. -/
theorem reaches (hfits : c.Fits now) : ∀ span ∈ m.spans, now.Reaches span := by
  have hbounds := h.margin_bounds hc
  have hminute : 0 < Span.minute := by decide
  have hlong : now.Reaches m.issuer.refreshLife := by
    rw [h.refreshLife]
    exact hfits.2 _ (by simp [TokenConfig.minutes])
  intro span hspan
  simp only [spans, List.mem_cons, List.not_mem_nil, or_false] at hspan
  rcases hspan with rfl | rfl | rfl | rfl
  · exact hfits.1
  · rw [h.accessLife]
    exact hfits.2 _ (by simp [TokenConfig.minutes])
  · exact hlong
  · exact hfits.1.between hlong (by omega) (by omega)

/-- New cookies end later than now, and before a refresh token that is issued now. -/
theorem cookieExpiry_bounds {e : DateTime} (he : m.cookieExpiry now = .ok e) :
    now.instant < e.instant ∧
      e.instant < (now.instant + m.issuer.refreshLife) / second * second := by
  have hbounds := h.margin_bounds hc
  have hinstant := (instant_of_cookieExpiry he).1
  unfold Span.minute at hbounds
  unfold second at hbounds ⊢
  constructor <;> omega

end Configured

theorem instant_of_renewedExpiry {claims : Claims} {e expiry : DateTime}
    (hwhole : claims.WholeSeconds) (haware : now.offset.isSome = true)
    (he : claims.expiresAt = some e) (h : m.renewedExpiry claims now = .ok expiry) :
    expiry.instant =
      min (now.instant + m.issuer.refreshLife - m.margin) (e.instant - m.margin) := by
  have hsteps := h
  simp only [renewedExpiry, he] at hsteps
  obtain ⟨fresh, hfresh, hsteps⟩ := bind_eq_ok.1 hsteps
  obtain ⟨last, hlast, -⟩ := bind_eq_ok.1 hsteps
  obtain ⟨expiry', hexpiry, hmin⟩ :=
    exists_renewedExpiry_of_shift he (hwhole.expiresAt e he).aware haware hfresh hlast
  obtain rfl := Except.ok.inj (h.symm.trans hexpiry)
  have hinstant := (instant_of_cookieExpiry hfresh).1
  have hshift := DateTime.instant_of_shift hlast
  omega

section
variable [Platform]

/-- A token that verifies has shown that the configured key can sign. -/
theorem Configured.keyed_of_verify (h : m.Configured c cookies) {token : Json}
    {audience : Option Audience} {claims : Claims}
    (hv : m.signer.verify token audience now = .ok claims) :
    ∃ d, Algorithm.ofName? m.signer.algorithm = some (.keyed d) ∧
      Platform.usableSecret m.signer.secret = true := by
  obtain ⟨t, k, secret, payload, -, -, hkey, hsigned, -⟩ := Signer.verify_eq_ok.1 hv
  obtain ⟨-, kid, -, hlookup⟩ := Signer.keyFor_eq_ok.1 hkey
  obtain ⟨-, -, d, halg, husable, -⟩ := Signer.checkSignature_eq_ok.1 hsigned
  rw [h.secret_eq, ← h.eq_of_lookup hlookup]
  exact ⟨d, halg, husable⟩

/-- The cookie of a renewal that is granted ends later than now. Its second is not lost on it: what
is cut off is less than the minute by which new cookies are later, and the end of the refresh cookie
is a whole second. -/
theorem Configured.renewedExpiry_bounds (h : m.Configured c cookies) (hc : c.Accepted)
    (haware : now.offset.isSome = true) {refresh : Json} {claims : Claims} {e expiry : DateTime}
    (hgranted : m.Granted refresh claims now) (he : claims.expiresAt = some e)
    (hexpiry : m.renewedExpiry claims now = .ok expiry) :
    now.instant < expiry.floorSecond.instant ∧ expiry.floorSecond.instant ≤ expiry.instant ∧
      expiry.instant ≤ e.instant - m.margin ∧
      expiry.instant ≤ now.instant + m.issuer.refreshLife - m.margin := by
  have hwhole := Claims.wholeSeconds_of_verify hgranted.verified
  have hinstant := instant_of_renewedExpiry hwhole haware he hexpiry
  have hbounds := h.margin_bounds hc
  have hmargin := h.margin
  obtain ⟨last, hlast, hahead⟩ :=
    (cookiesEnded_eq_false hwhole haware).1 hgranted.notEnded e he
  have hshift := DateTime.instant_of_shift hlast
  obtain ⟨n, rfl, -⟩ := hwhole.expiresAt e he
  rw [DateTime.instant_utc] at hinstant hshift ⊢
  rw [DateTime.instant_floorSecond]
  unfold Span.minute at hbounds hmargin
  unfold second at *
  refine ⟨?_, ?_, ?_, ?_⟩ <;> omega

theorem signs_of_establish {username userId : Json} {tokens : SessionTokens}
    {headers : List String} (h : m.establish username userId now = ⟨.ok tokens, headers⟩) :
    Signer.Signs m.signer.algorithm m.signer.secret := by
  obtain ⟨a, ha⟩ := Issuer.issued_of_sessionAccess (establish_eq_ok.1 h).1
  exact ha.signed.signs

/-- Cookies of a manager that an accepted configuration asks for. Those of a new session end later
than now and before its refresh token; the one of a renewal that was granted ends later than now,
also to the second, and no later than a margin before the refresh token or than new cookies would.
Sessions are only refused for an algorithm and a key that give no signatures. -/
theorem cookie_bounds {values : Members} {c : TokenConfig} (hread : TokenConfig.read values = .ok c)
    (cookies : CookieConfig) (machineTime : Int) {now : DateTime}
    (haware : now.offset.isSome = true) (hfits : c.Fits now) :
    ∃ signer issuer m, Signer.ofConfig c machineTime = .ok signer ∧
      Issuer.ofConfig signer c = .ok issuer ∧ SessionManager.ofConfig issuer c cookies = .ok m ∧
      (∀ username userId tokens headers,
        m.establish username userId now = ⟨.ok tokens, headers⟩ →
        ∃ r e, m.signer.Signed tokens.refresh r ∧ r.expiresAt = some e ∧
          now.instant < tokens.cookieExpiry.instant ∧
          tokens.cookieExpiry.instant < e.instant) ∧
      (Cookie.validName cookies.accessName = true → Cookie.validName cookies.refreshName = true →
        ∀ (username : AnyText) userId, Claims.IsSubject userId →
          ((∃ tokens headers, m.establish (.text username) userId now = ⟨.ok tokens, headers⟩) ↔
            Signer.Signs c.algorithm c.secretKey)) ∧
      (Cookie.validName cookies.accessName = true → ∀ access refresh r e,
        m.evaluate access refresh now = .ok (.renew r) → r.expiresAt = some e →
        ∃ token header expiry, m.renew r now = ⟨.ok token, [header]⟩ ∧
          m.renewedExpiry r now = .ok expiry ∧
          SetCookie.read header = some (cookies.accessName, ⟨token, expiry.floorSecond⟩) ∧
          now.instant < expiry.floorSecond.instant ∧
          expiry.floorSecond.instant ≤ expiry.instant ∧
          expiry.instant ≤ e.instant - c.marginMinutes * Span.minute ∧
          expiry.instant ≤ now.instant + c.refreshMinutes * Span.minute -
            c.marginMinutes * Span.minute) := by
  have hc := TokenConfig.accepted_of_read hread
  obtain ⟨signer, issuer, m, hsigner, hissuer, hmanager, h⟩ :=
    exists_configured hc hfits cookies machineTime
  have hreaches := h.reaches hc hfits
  refine ⟨signer, issuer, m, hsigner, hissuer, hmanager, ?_, ?_, ?_⟩
  · intro username userId tokens headers hestablish
    obtain ⟨-, hrefresh, hexpiry, -⟩ := establish_eq_ok.1 hestablish
    obtain ⟨r, hr⟩ := Issuer.issued_of_sessionRefresh hrefresh
    obtain ⟨hlater, hbefore⟩ := h.cookieExpiry_bounds hc hexpiry
    refine ⟨r, _, hr.signed, hr.expiresAt, hlater, ?_⟩
    rwa [DateTime.instant_utc]
  · intro hnameA hnameR username userId hsubject
    rw [← h.algorithm, ← h.secret_eq]
    constructor
    · rintro ⟨tokens, headers, hestablish⟩
      exact signs_of_establish hestablish
    · intro hsigns
      apply exists_establish hsigns _ _ username hsubject hreaches
      · rw [h.cookies, hnameA]
      · rw [h.cookies, hnameR]
  · intro hnameA access refresh r e hverdict he
    have hgranted := granted_of_evaluate hverdict
    obtain ⟨expiry, hexpiry, hrange⟩ := hgranted.exists_renewedExpiry haware hreaches
    obtain ⟨token, -, header, hrenew, -, -, -, hwritten⟩ := exists_renew_of_renewedExpiry
      (.inl (h.keyed_of_verify hgranted.verified)) (by rw [h.cookies, hnameA])
      (hreaches 0 (by simp [spans])) (hreaches m.issuer.accessLife (by simp [spans])) hexpiry hrange
    rw [h.cookies] at hwritten
    have hends := h.renewedExpiry_bounds hc haware hgranted he hexpiry
    rw [h.margin, h.refreshLife] at hends
    exact ⟨token, header, expiry, hrenew, hexpiry, hwritten, hends⟩

end

/-- Values for a section of tokens with this key. -/
def sampleValues (secret : String) : Members :=
  [("JWT_SECRET_KEY", .text secret), ("KEY_ID", .text "first"), ("ISSUER", .text "gatehouse")]

/-- The sample manager's configuration, with this key. -/
def sampleConfig (secret : String) : TokenConfig :=
  ⟨secret, "HS256", "first", "gatehouse", 1440, 10080, 60, 1⟩

theorem read_sampleValues (secret : String) :
    TokenConfig.read (sampleValues secret) = .ok (sampleConfig secret) := rfl

theorem eq_sample_of_config {signer : Signer} {issuer : Issuer}
    (hsigner : Signer.ofConfig (sampleConfig "a secret") 0 = .ok signer)
    (hissuer : Issuer.ofConfig signer (sampleConfig "a secret") = .ok issuer)
    (hmanager : SessionManager.ofConfig issuer (sampleConfig "a secret") {} = .ok m) :
    m = sample := by
  have hs : Signer.ofConfig (sampleConfig "a secret") 0 = .ok Signer.sample := rfl
  obtain rfl := Except.ok.inj (hs.symm.trans hsigner)
  have hi : Issuer.ofConfig Signer.sample (sampleConfig "a secret") = .ok sample.issuer := rfl
  obtain rfl := Except.ok.inj (hi.symm.trans hissuer)
  have hm : SessionManager.ofConfig sample.issuer (sampleConfig "a secret") {} = .ok sample := rfl
  exact Except.ok.inj (hmanager.symm.trans hm)

section
attribute [local instance] Platform.standard

/-- A session that starts between two seconds, and its renewal in the last microsecond before its
cookies end. -/
theorem cookie_bounds_sample : ∃ tokens headers r token header expiry,
    sample.establish (.text "ann") (.int 7) ⟨999999, some 0⟩ = ⟨.ok tokens, headers⟩ ∧
    999999 < tokens.cookieExpiry.instant ∧ tokens.cookieExpiry.instant < 604800 * second ∧
    sample.evaluate (.text tokens.access) (.text tokens.refresh) ⟨604740 * second - 1, some 0⟩ =
      .ok (.renew r) ∧
    sample.renew r ⟨604740 * second - 1, some 0⟩ = ⟨.ok token, [header]⟩ ∧
    SetCookie.read header = some ("access-token", ⟨token, expiry⟩) ∧
    604740 * second - 1 < expiry.instant ∧ expiry.instant ≤ 604740 * second := by
  have hsubject : Claims.IsSubject (.int 7) :=
    .inr ⟨7, rfl, Claims.hasLongInteger_int.1 (by decide +kernel)⟩
  have hfits (now : DateTime) (h : now ∈ [⟨999999, some 0⟩, ⟨604740 * second - 1, some 0⟩]) :
      (sampleConfig "a secret").Fits now := by
    simp only [List.mem_cons, List.not_mem_nil, or_false] at h
    rcases h with rfl | rfl
    · exact ⟨by decide, by decide⟩
    · exact ⟨by decide, by decide⟩
  obtain ⟨_, _, m, hsigner, hissuer, hmanager, hbounds, hsessions, -⟩ :=
    cookie_bounds (read_sampleValues "a secret") {} 0 (by rfl)
      (hfits ⟨999999, some 0⟩ (by simp))
  obtain rfl := eq_sample_of_config hsigner hissuer hmanager
  obtain ⟨_, _, m, hsigner, hissuer, hmanager, -, -, hrenewals⟩ :=
    cookie_bounds (read_sampleValues "a secret") {} 0 (by rfl)
      (hfits ⟨604740 * second - 1, some 0⟩ (by simp))
  obtain rfl := eq_sample_of_config hsigner hissuer hmanager
  obtain ⟨tokens, headers, h⟩ := (hsessions (by decide) (by decide) "ann" (.int 7) hsubject).2
    (.inl ⟨.sha256, rfl, usable_sample⟩)
  obtain ⟨r, e, hr, he, hlater, hbefore⟩ := hbounds _ _ _ _ h
  obtain ⟨a, ha⟩ := Issuer.issued_of_sessionAccess (establish_eq_ok.1 h).1
  obtain ⟨r', hr'⟩ := Issuer.issued_of_sessionRefresh (establish_eq_ok.1 h).2.1
  obtain rfl := hr'.signed.unique hr
  have hend : (⟨604800 * second, some 0⟩ : DateTime) = e :=
    Option.some.inj (hr'.expiresAt.symm.trans he)
  subst hend
  have hrenewable : sample.Renewable r' ⟨604740 * second - 1, some 0⟩ :=
    (renewable_iff he).2 ⟨⟨604740 * second, some 0⟩, rfl, by decide⟩
  have hverdict : sample.evaluate (.text tokens.access) (.text tokens.refresh)
      ⟨604740 * second - 1, some 0⟩ = .ok (.renew r') :=
    renew_of_ended (ha.signed.genuine (d := .sha256) rfl usable_sample) ha.audience_eq
      (hr.genuine (d := .sha256) rfl usable_sample) hr'.audience_eq rfl ha.expiresAt (by decide)
      hrenewable
  obtain ⟨token, header, expiry, hrenew, -, hwritten, hahead, hfloor, hmargin, -⟩ :=
    hrenewals (by decide) _ _ _ _ hverdict he
  exact ⟨tokens, headers, r', token, header, _, h, hlater, hbefore, hverdict, hrenew, hwritten,
    hahead, hfloor.trans hmargin⟩

/-- Two accepted configurations whose manager is there but starts no session: by a clock from which
all configured spans are within the years it can show, and with an empty key. -/
theorem no_session_of_accepted :
    (TokenConfig.read (sampleValues "a secret") = .ok (sampleConfig "a secret") ∧
      ∃ signer issuer m, Signer.ofConfig (sampleConfig "a secret") 0 = .ok signer ∧
        Issuer.ofConfig signer (sampleConfig "a secret") = .ok issuer ∧
        SessionManager.ofConfig issuer (sampleConfig "a secret") {} = .ok m ∧
        DateTime.earlyClock.offset.isSome = true ∧
        (∀ n ∈ (sampleConfig "a secret").minutes,
          DateTime.inRange (DateTime.earlyClock.reading + n * Span.minute) = true) ∧
        m.establish (.text "ann") (.int 7) .earlyClock = ⟨.error .outOfRange, []⟩) ∧
    TokenConfig.read (sampleValues "") = .ok (sampleConfig "") ∧
      ∃ signer issuer m, Signer.ofConfig (sampleConfig "") 0 = .ok signer ∧
        Issuer.ofConfig signer (sampleConfig "") = .ok issuer ∧
        SessionManager.ofConfig issuer (sampleConfig "") {} = .ok m ∧
        (sampleConfig "").Fits ⟨999999, some 0⟩ ∧
        ∀ tokens headers,
          m.establish (.text "ann") (.int 7) ⟨999999, some 0⟩ ≠ ⟨.ok tokens, headers⟩ := by
  refine ⟨⟨read_sampleValues _, .sample, sample.issuer, sample, rfl, rfl, rfl, rfl, by decide, ?_⟩,
    read_sampleValues _, ?_⟩
  · have hbuild (e : DateTime) : Claims.build ⟨.text "ann", .int 7,
        .text Audience.sessionAccess.name, .text Signer.sample.issuer, .earlyClock, some e⟩ =
        .error .outOfRange := by
      have hid : Json.hasLongInteger (.int 7) = false := by decide +kernel
      exact Claims.build_of_untold hid DateTime.truncateToSeconds_earlyClock
    have hissue : sample.issuer.sessionAccess (.text "ann") (.int 7) .earlyClock =
        .error .outOfRange :=
      bind_eq_error.2 (.inr ⟨_, rfl, bind_eq_error.2 (.inl (hbuild _))⟩)
    exact Written.lift_bind_of_error hissue _
  · have hfits : (sampleConfig "").Fits ⟨999999, some 0⟩ := ⟨by decide, by decide⟩
    have hc := TokenConfig.accepted_of_read (read_sampleValues "")
    obtain ⟨signer, issuer, m, hsigner, hissuer, hmanager, h⟩ := exists_configured hc hfits {} 0
    refine ⟨signer, issuer, m, hsigner, hissuer, hmanager, hfits, fun tokens headers hsession => ?_⟩
    have hsigns := signs_of_establish hsession
    rw [h.algorithm, h.secret_eq] at hsigns
    rcases hsigns with ⟨d, -, husable⟩ | ⟨halg, -⟩
    · cases husable
    · cases halg

end

end SessionManager
end Gatehouse
