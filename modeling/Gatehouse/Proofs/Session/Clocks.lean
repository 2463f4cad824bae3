import Gatehouse.Proofs.Calendar.Instant
import Gatehouse.Proofs.Session.Renewal
import Gatehouse.Proofs.Token.Lapse

/-!
Operations by different clocks. A time that an operation is given matters to it as an instant
alone: a clock with another offset that shows the same instant gives the same tokens, the same
verdicts, the same records and the same `Set-Cookie` headers, as long as both clocks can show the
dates that are reckoned from it.
-/
namespace Gatehouse

section
variable {now now' d e : DateTime}

theorem Claims.truncateExpiry_congr (h : d.instant = e.instant) :
    truncateExpiry (some d) = truncateExpiry (some e) := by
  rw [truncateExpiry, truncateExpiry, DateTime.truncateToSeconds_congr h]

theorem Signer.checkExpiry_congr (c : Claims) (h : now.Same now') :
    checkExpiry c now = checkExpiry c now' := by
  unfold checkExpiry
  split
  · rfl
  · next e _ => rw [(DateTime.Same.refl e).notAfter h]

theorem Cookie.write_congr (name value : String) (secure : Bool) (h : d.instant = e.instant) :
    write name value d secure = write name value e secure := by
  rw [write, write, DateTime.toUtc_congr h]

theorem setTokenCookie_congr (name value : String) (secure : Bool) (h : d.instant = e.instant) :
    setTokenCookie name value d secure = setTokenCookie name value e secure := by
  rw [setTokenCookie, setTokenCookie, Cookie.write_congr name value secure h]

/-- What a new session is given, with the end of its cookies as an instant. -/
def SessionTokens.told (t : SessionTokens) : String × String × Int :=
  (t.access, t.refresh, t.cookieExpiry.instant)

namespace SessionManager
variable (m : SessionManager)

theorem endsSoon_congr (c : Claims) (h : now.Same now') : m.endsSoon c now = m.endsSoon c now' := by
  unfold endsSoon
  split
  · rfl
  · next e _ => rw [(DateTime.Same.refl e).since h]

theorem cookiesEnded_congr (c : Claims) (h : now.Same now') :
    m.cookiesEnded c now = m.cookiesEnded c now' := by
  unfold cookiesEnded
  split
  · rfl
  · simp only [(DateTime.Same.refl _).notAfter h]

/-- The clock can show when what is given out now ends. -/
def Shown (now : DateTime) : Prop := ∀ span ∈ m.spans, DateTime.inRange (now.reading + span) = true

variable {m}

theorem Shown.accessLife (h : m.Shown now) :
    DateTime.inRange (now.reading + m.issuer.accessLife) = true := h _ (by simp [spans])

theorem Shown.refreshLife (h : m.Shown now) :
    DateTime.inRange (now.reading + m.issuer.refreshLife) = true := h _ (by simp [spans])

theorem Shown.cookieExpiry (h : m.Shown now) : m.cookieExpiry now =
    .ok ⟨now.reading + (m.issuer.refreshLife - m.margin), now.offset⟩ :=
  cookieExpiry_of_inRange h.refreshLife (h _ (by simp [spans]))

theorem same_of_cookieExpiry (h : now.Same now') (he : m.cookieExpiry now = .ok e)
    (hd : m.cookieExpiry now' = .ok d) : e.Same d := by
  obtain ⟨hinstant, haware⟩ := instant_of_cookieExpiry he
  obtain ⟨hinstant', haware'⟩ := instant_of_cookieExpiry hd
  constructor
  · rw [hinstant, hinstant', h.instant]
  · rw [haware, haware', h.aware]

/-- A renewed cookie ends at the same instant, or its end fails alike. -/
theorem renewedExpiry_congr (c : Claims) (h : now.Same now') (hshown : m.Shown now)
    (hshown' : m.Shown now') :
    (∃ f, m.renewedExpiry c now = .error f ∧ m.renewedExpiry c now' = .error f) ∨
      ∃ e e', m.renewedExpiry c now = .ok e ∧ m.renewedExpiry c now' = .ok e' ∧
        e.instant = e'.instant := by
  obtain ⟨fresh, hfresh⟩ : ∃ e, m.cookieExpiry now = .ok e := ⟨_, hshown.cookieExpiry⟩
  obtain ⟨fresh', hfresh'⟩ : ∃ e, m.cookieExpiry now' = .ok e := ⟨_, hshown'.cookieExpiry⟩
  have hsame := same_of_cookieExpiry h hfresh hfresh'
  unfold renewedExpiry
  split
  · exact .inr ⟨_, _, hfresh, hfresh', hsame.instant⟩
  · next x _ =>
    rw [hfresh, hfresh']
    cases x.shift (-m.margin) with
    | error f => exact .inl ⟨f, rfl, rfl⟩
    | ok last => exact hsame.earlier last

end SessionManager

theorem TokenRegistry.checkedExpiry_congr (owner : Json) (expiresAt : Option DateTime)
    (h : now.Same now') :
    checkedExpiry owner expiresAt now = checkedExpiry owner expiresAt now' := by
  unfold checkedExpiry
  split
  · rfl
  · simp only [(DateTime.Same.refl _).notAfter h]

variable [Platform]

theorem Signer.verify_congr (s : Signer) (token : Json) (audience : Option Audience)
    (h : now.Same now') : s.verify token audience now = s.verify token audience now' := by
  simp only [verify_eq, checkExpiry_congr _ h]

namespace Issuer
variable (i : Issuer) (principal subject : Json)

theorem issue_congr (audience : Audience) {x x' : Option DateTime}
    (hnow : now.instant = now'.instant)
    (hexpiry : Claims.truncateExpiry x = Claims.truncateExpiry x') :
    i.issue principal subject audience now x = i.issue principal subject audience now' x' := by
  simp only [issue, Claims.build, DateTime.truncateToSeconds_congr hnow, hexpiry]

/-- A token that lives for a span from now on. -/
theorem shift_issue_congr (audience : Audience) {life : Int} (h : now.Same now')
    (hlife : DateTime.inRange (now.reading + life) = true)
    (hlife' : DateTime.inRange (now'.reading + life) = true) :
    (now.shift life >>= fun e => i.issue principal subject audience now (some e)) =
      now'.shift life >>= fun e => i.issue principal subject audience now' (some e) := by
  have hshift := DateTime.shift_eq_ok.2 ⟨hlife, rfl⟩
  have hshift' := DateTime.shift_eq_ok.2 ⟨hlife', rfl⟩
  rw [hshift, hshift']
  exact i.issue_congr principal subject audience h.instant
    (Claims.truncateExpiry_congr (h.of_shift hshift hshift').instant)

theorem sessionAccess_congr (h : now.Same now')
    (hlife : DateTime.inRange (now.reading + i.accessLife) = true)
    (hlife' : DateTime.inRange (now'.reading + i.accessLife) = true) :
    i.sessionAccess principal subject now = i.sessionAccess principal subject now' :=
  i.shift_issue_congr principal subject .sessionAccess h hlife hlife'

theorem sessionRefresh_congr (h : now.Same now')
    (hlife : DateTime.inRange (now.reading + i.refreshLife) = true)
    (hlife' : DateTime.inRange (now'.reading + i.refreshLife) = true) :
    i.sessionRefresh principal subject now = i.sessionRefresh principal subject now' :=
  i.shift_issue_congr principal subject .sessionRefresh h hlife hlife'

end Issuer

namespace SessionManager
variable (m : SessionManager)

theorem evaluateRefresh_congr (held : Option Claims) (refresh : Json) (h : now.Same now') :
    m.evaluateRefresh held refresh now = m.evaluateRefresh held refresh now' := by
  simp only [evaluateRefresh, m.signer.verify_congr _ _ h, m.cookiesEnded_congr _ h]

theorem evaluate_congr (access refresh : Json) (h : now.Same now') :
    m.evaluate access refresh now = m.evaluate access refresh now' := by
  simp only [evaluate, m.signer.verify_congr _ _ h, m.endsSoon_congr _ h,
    m.evaluateRefresh_congr _ refresh h]

variable {m}

theorem renew_congr (c : Claims) (h : now.Same now') (hshown : m.Shown now)
    (hshown' : m.Shown now') : m.renew c now = m.renew c now' := by
  have haccess := m.issuer.sessionAccess_congr (.text c.principal) (.text c.subject) h
    hshown.accessLife hshown'.accessLife
  unfold renew
  rw [haccess]
  rcases renewedExpiry_congr c h hshown hshown' with ⟨f, hf, hf'⟩ | ⟨e, e', he, he', hinstant⟩
  · rw [hf, hf']
  · rw [he, he']
    simp only [Written.lift_bind_of_ok rfl, setTokenCookie_congr _ _ _ hinstant]

/-- A new session has the same tokens and headers, and its cookies end at the same instant. -/
theorem establish_congr (username userId : Json) (h : now.Same now') (hshown : m.Shown now)
    (hshown' : m.Shown now') :
    SessionTokens.told <$> (m.establish username userId now).outcome =
      SessionTokens.told <$> (m.establish username userId now').outcome ∧
    (m.establish username userId now).headers = (m.establish username userId now').headers := by
  have haccess := m.issuer.sessionAccess_congr username userId h hshown.accessLife
    hshown'.accessLife
  have hrefresh := m.issuer.sessionRefresh_congr username userId h hshown.refreshLife
    hshown'.refreshLife
  obtain ⟨e, he⟩ : ∃ e, m.cookieExpiry now = .ok e := ⟨_, hshown.cookieExpiry⟩
  obtain ⟨e', he'⟩ : ∃ e', m.cookieExpiry now' = .ok e' := ⟨_, hshown'.cookieExpiry⟩
  have hinstant := (same_of_cookieExpiry h he he').instant
  unfold establish
  rw [haccess, hrefresh, he, he']
  cases m.issuer.sessionAccess username userId now' with
  | error f => exact ⟨rfl, rfl⟩
  | ok access =>
    cases m.issuer.sessionRefresh username userId now' with
    | error f => exact ⟨rfl, rfl⟩
    | ok refresh =>
      simp only [Written.lift_bind_of_ok rfl, setTokenCookie_congr _ _ _ hinstant]
      obtain ⟨first, headers⟩ := setTokenCookie m.cookies.accessName access e' m.cookies.secure
      obtain ⟨second, headers'⟩ := setTokenCookie m.cookies.refreshName refresh e' m.cookies.secure
      cases first with
      | error f => exact ⟨rfl, rfl⟩
      | ok _ =>
        cases second with
        | error f => exact ⟨rfl, rfl⟩
        | ok _ => exact ⟨congrArg (fun n => Except.ok (access, refresh, n)) hinstant, rfl⟩

end SessionManager

namespace TokenRegistry
variable (r : TokenRegistry) (s : KeyValue)

theorem verifyEach_congr (h : now.Same now') (records : List TokenRecord) :
    r.verifyEach now records = r.verifyEach now' records := by
  induction records with
  | nil => rfl
  | cons record rest ih =>
    simp only [verifyEach, view, r.signer.verify_congr _ _ h, ih]

theorem list_congr (owner : Json) (h : now.Same now') :
    r.list s owner now = r.list s owner now' := by
  simp only [list, r.verifyEach_congr h]

theorem prune_congr (owner : Json) (h : now.Same now') :
    r.prune s owner now = r.prune s owner now' := by
  have hlive : r.live now = r.live now' := by
    funext records
    simp only [live, r.verifyEach_congr h]
  rw [prune, prune, hlive]

theorem create_congr (username owner description : Json) (expiresAt : Option DateTime)
    (h : now.Same now') :
    r.create s username owner description expiresAt now =
      r.create s username owner description expiresAt now' := by
  have hissue (x : Option DateTime) : r.issuer.personalAccess username owner x now =
      r.issuer.personalAccess username owner x now' :=
    r.issuer.issue_congr username owner .personalAccess h.instant rfl
  simp only [create, prepare, checkedExpiry_congr owner expiresAt h, hissue, view,
    r.signer.verify_congr _ _ h]

/-- The expiry matters as an instant, whether its clock tells an offset or not. -/
theorem create_congr_expiry (username owner description : Json) (h : d.instant = e.instant) :
    r.create s username owner description (some d) now =
      r.create s username owner description (some e) now := by
  have hexpiry : checkedExpiry owner (some d) now = checkedExpiry owner (some e) now := by
    rw [checkedExpiry, checkedExpiry, DateTime.truncateToSeconds_congr h]
  rw [create, create, prepare, prepare, hexpiry]

end TokenRegistry

/-! ### What a time is told for -/

/-- Nothing differs between tokens that are to end at the one time or at the other. -/
structure EndsAs (d e : DateTime) : Prop where
  truncate : d.truncateToSeconds = e.truncateToSeconds
  count : d.toNumericDate = e.toNumericDate
  personalAccess : ∀ (i : Issuer) principal subject now,
    i.personalAccess principal subject (some d) now =
      i.personalAccess principal subject (some e) now
  create : ∀ (r : TokenRegistry) s username owner description now,
    r.create s username owner description (some d) now =
      r.create s username owner description (some e) now

/-- Operations by the two clocks do the same. Those that reckon a date from the time need both
clocks to show it. -/
structure ActsAs (now now' : DateTime) : Prop where
  verify : ∀ (s : Signer) token audience, s.verify token audience now = s.verify token audience now'
  personalAccess : ∀ (i : Issuer) principal subject expiresAt,
    i.personalAccess principal subject expiresAt now =
      i.personalAccess principal subject expiresAt now'
  sessionAccess : ∀ (i : Issuer) principal subject,
    DateTime.inRange (now.reading + i.accessLife) = true →
    DateTime.inRange (now'.reading + i.accessLife) = true →
    i.sessionAccess principal subject now = i.sessionAccess principal subject now'
  sessionRefresh : ∀ (i : Issuer) principal subject,
    DateTime.inRange (now.reading + i.refreshLife) = true →
    DateTime.inRange (now'.reading + i.refreshLife) = true →
    i.sessionRefresh principal subject now = i.sessionRefresh principal subject now'
  evaluate : ∀ (m : SessionManager) access refresh,
    m.evaluate access refresh now = m.evaluate access refresh now'
  renew : ∀ (m : SessionManager) c, m.Shown now → m.Shown now' → m.renew c now = m.renew c now'
  establish : ∀ (m : SessionManager) username userId, m.Shown now → m.Shown now' →
    SessionTokens.told <$> (m.establish username userId now).outcome =
      SessionTokens.told <$> (m.establish username userId now').outcome ∧
    (m.establish username userId now).headers = (m.establish username userId now').headers
  list : ∀ (r : TokenRegistry) s owner, r.list s owner now = r.list s owner now'
  prune : ∀ (r : TokenRegistry) s owner, r.prune s owner now = r.prune s owner now'
  create : ∀ (r : TokenRegistry) s username owner description expiresAt,
    r.create s username owner description expiresAt now =
      r.create s username owner description expiresAt now'

theorem endsAs_of_instant (h : d.instant = e.instant) : EndsAs d e where
  truncate := DateTime.truncateToSeconds_congr h
  count := DateTime.toNumericDate_congr h
  personalAccess i principal subject _ :=
    i.issue_congr principal subject .personalAccess rfl (Claims.truncateExpiry_congr h)
  create r s username owner description _ := r.create_congr_expiry s username owner description h

theorem DateTime.Same.actsAs (h : now.Same now') : ActsAs now now' where
  verify s token audience := s.verify_congr token audience h
  personalAccess i principal subject _ :=
    i.issue_congr principal subject .personalAccess h.instant rfl
  sessionAccess i principal subject := i.sessionAccess_congr principal subject h
  sessionRefresh i principal subject := i.sessionRefresh_congr principal subject h
  evaluate m access refresh := m.evaluate_congr access refresh h
  renew _ c := SessionManager.renew_congr c h
  establish _ username userId := SessionManager.establish_congr username userId h
  list r s owner := r.list_congr s owner h
  prune r s owner := r.prune_congr s owner h
  create r s username owner description expiresAt :=
    r.create_congr s username owner description expiresAt h

/-- Times matter as instants. Two date-times of one instant, with any offsets or none, are the same
end of a token, and on clocks that tell their offset the same time for every operation. Cutting to
the second goes back by less than one, once, and not at all from a whole second; and every count of
seconds whose instant can be shown is counted again. -/
theorem time_matters_as_instant :
    (∀ d e : DateTime, d.instant = e.instant → EndsAs d e) ∧
    (∀ now now' : DateTime, now.offset.isSome = true → now'.offset.isSome = true →
      now.instant = now'.instant → ActsAs now now') ∧
    (∀ d : DateTime, DateTime.inRange d.instant = true →
      ∃ u, d.truncateToSeconds = .ok u ∧ u.truncateToSeconds = .ok u ∧ u.instant ≤ d.instant ∧
        d.instant < u.instant + second ∧ (second ∣ d.instant → d.toUtc = .ok u)) ∧
    ∀ n : Int, DateTime.inRange (n * second) = true →
      ∃ d, DateTime.ofNumericDate n = .ok d ∧ d.toNumericDate = .ok n := by
  refine ⟨fun d e h => endsAs_of_instant h, fun now now' hnow hnow' h => ?_, fun d h => ?_,
    fun n h => DateTime.exists_ofNumericDate h⟩
  · exact DateTime.Same.actsAs ⟨h, hnow.trans hnow'.symm⟩
  · obtain ⟨hback, hless⟩ := d.instant_floorSecond_bounds
    have hcut : d.truncateToSeconds = .ok d.floorSecond :=
      DateTime.truncateToSeconds_eq_ok.2 ⟨h, rfl⟩
    refine ⟨d.floorSecond, hcut, DateTime.truncateToSeconds_floorSecond h, hback, hless, ?_⟩
    intro hwhole
    rw [← DateTime.truncateToSeconds_of_dvd hwhole, hcut]

end

section
attribute [local instance] Platform.standard

/-- A session that starts at the epoch is started alike by a clock two hours ahead, and a count of
seconds before the epoch is counted again. -/
theorem time_matters_as_instant_sample : ∃ tokens headers d,
    SessionManager.sample.establish (.text "ann") (.int 7) ⟨0, some 0⟩ = ⟨.ok tokens, headers⟩ ∧
    (SessionManager.sample.establish (.text "ann") (.int 7)
      ⟨7200 * second, some (7200 * second)⟩).headers = headers ∧
    EndsAs ⟨0, none⟩ ⟨7200 * second, some (7200 * second)⟩ ∧
    (⟨-1, some 0⟩ : DateTime).truncateToSeconds = .ok d ∧ d.instant ≤ -1 ∧
    ∃ e, DateTime.ofNumericDate (-62135596800) = .ok e ∧ e.toNumericDate = .ok (-62135596800) := by
  obtain ⟨hends, hacts, hcut, hcount⟩ := time_matters_as_instant
  have hreaches : ∀ span ∈ SessionManager.sample.spans,
      (⟨0, some 0⟩ : DateTime).Reaches span := by
    decide
  obtain ⟨tokens, headers, h⟩ := SessionManager.exists_establish_sample hreaches
  have hsame : ActsAs ⟨0, some 0⟩ ⟨7200 * second, some (7200 * second)⟩ :=
    hacts _ _ rfl rfl (by decide)
  have hsession := hsame.establish .sample (.text "ann") (.int 7)
    (by unfold SessionManager.Shown; decide) (by unfold SessionManager.Shown; decide)
  obtain ⟨d, hd, -, hback, -⟩ := hcut ⟨-1, some 0⟩ (by decide)
  rw [h] at hsession
  exact ⟨tokens, headers, d, h, hsession.2.symm,
    hends ⟨0, none⟩ ⟨7200 * second, some (7200 * second)⟩ (by decide), hd, hback,
    hcount (-62135596800) (by decide)⟩

end

end Gatehouse
