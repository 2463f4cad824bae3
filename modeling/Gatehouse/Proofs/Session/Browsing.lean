import Gatehouse.Proofs.PersonalToken.Life
import Gatehouse.Proofs.Session.Browser
import Gatehouse.Proofs.Session.Renewal

/-!
A session in a browser, from signing in until its cookies end. `Session` is what signing in leaves
behind, `Carries` is what the browser holds between two requests; `carries_turn` keeps it up over a
request, and `browse_authenticates` follows a browser over all of them.
-/
namespace Gatehouse
open Hash Signer TokenLife

/-- What a request meets: the time, the clock of the machine, and what is known of users and
tokens. -/
structure Visit where
  now : DateTime
  machineTime : Int
  directory : Directory
  store : KeyValue

/-- A request of a browser with the verdict on its session and the answer. -/
structure Turn where
  visit : Visit
  verdict : Except Fault SessionCheck
  answer : Written User

/-- The request comes while cookies that were set at `start` and end at `stop` are kept. The user
exists, and all times that are reckoned from it stay in years 1 to 9999. -/
structure Visit.Within (v : Visit) (m : SessionManager) (u : User) (start stop : DateTime) :
    Prop where
  aware : v.now.offset.isSome = true
  started : start.instant ≤ v.now.instant
  notStopped : v.now.instant < stop.instant
  known : v.directory.byId u.id = .ok u
  reaches : ∀ span ∈ m.spans, v.now.Reaches span

namespace SessionManager

section
variable [Platform] {m : SessionManager} {u : User}

/-- A browser sends the cookies that it still keeps and nothing else. -/
def turn (m : SessionManager) (r : TokenRegistry) (jar : Jar) (v : Visit) : Turn :=
  let m := m.onMachine v.machineTime
  let c : Credentials := ⟨none, jar.sent v.now⟩
  ⟨v, m.evaluate (cookieToken c m.cookies.accessName) (cookieToken c m.cookies.refreshName) v.now,
    authenticate m r v.directory v.store c v.now⟩

/-- A browser makes one request after the other, and keeps the cookies that it is sent. -/
def browse (m : SessionManager) (r : TokenRegistry) : Jar → List Visit → List Turn
  | _, [] => []
  | jar, v :: vs =>
    let t := m.turn r jar v
    t :: browse m r (jar.receive t.answer.headers) vs

/-! ### Answers -/

section
variable {d : Directory} {c : Credentials} {now : DateTime} {claims : Claims}

theorem authenticateSession_of_valid
    (h : m.evaluate (cookieToken c m.cookies.accessName) (cookieToken c m.cookies.refreshName) now =
      .ok (.valid claims)) (hu : activeUser d claims = .ok u) :
    authenticateSession m d c now = ⟨.ok u, []⟩ := by
  rw [authenticateSession, Written.lift_bind_eq_ok]
  refine ⟨_, h, ?_⟩
  dsimp only
  rw [hu]
  rfl

theorem authenticateSession_of_renew {t : String} {headers : List String}
    (h : m.evaluate (cookieToken c m.cookies.accessName) (cookieToken c m.cookies.refreshName) now =
      .ok (.renew claims)) (hu : activeUser d claims = .ok u)
    (hrenew : m.renew claims now = ⟨.ok t, headers⟩) :
    authenticateSession m d c now = ⟨.ok u, headers⟩ := by
  rw [authenticateSession, Written.lift_bind_eq_ok]
  refine ⟨_, h, ?_⟩
  dsimp only
  rw [Written.lift_bind_eq_ok]
  refine ⟨u, hu, ?_⟩
  rw [hrenew]
  exact congrArg (Written.mk _) (List.append_nil headers)

end

/-! ### What signing in leaves behind -/

/-- The end of the cookies that are set at the start of a session: a margin before the refresh token
ends, which is a whole second. -/
def cookieEnd (m : SessionManager) (start : DateTime) : DateTime :=
  ⟨(start.instant + m.issuer.refreshLife) / second * second - m.margin, some 0⟩

/-- The refresh token of a session that was started for a user, and the end of its cookies. -/
structure Session (m : SessionManager) (u : User) (refresh : String) (r : Claims)
    (start stop : DateTime) : Prop where
  accessName : Cookie.validName m.cookies.accessName = true
  refreshName : Cookie.validName m.cookies.refreshName = true
  signed : m.signer.Signed refresh r
  audience_eq : r.audience = .sessionRefresh
  userId_eq : r.userId = .ok u.id
  ends : ∃ e, r.expiresAt = some e ∧ e.shift (-m.margin) = .ok stop
  whole : stop.WholeSecond
  notAfter : stop.instant ≤ start.instant + m.issuer.refreshLife - m.margin

/-- The browser holds an access token of the session and its refresh token until the same time. -/
structure Carries (m : SessionManager) (refresh : String) (r : Claims) (stop : DateTime)
    (jar : Jar) (access : String) (a : Claims) : Prop where
  signed : m.signer.Signed access a
  audience_eq : a.audience = .sessionAccess
  subject_eq : a.subject = r.subject
  jar_eq : jar = [(m.cookies.accessName, ⟨access, stop⟩), (m.cookies.refreshName, ⟨refresh, stop⟩)]

section
variable {refresh access : String} {r a : Claims} {start stop : DateTime} {jar : Jar}

theorem Carries.read_sent (h : m.Carries refresh r stop jar access a)
    (hs : m.Session u refresh r start stop)
    (hdistinct : m.cookies.accessName ≠ m.cookies.refreshName) {now : DateTime}
    (hnow : now.instant < stop.instant) :
    Cookie.read (jar.sent now) m.cookies.accessName = some access ∧
      Cookie.read (jar.sent now) m.cookies.refreshName = some refresh := by
  have hplain : ∀ p ∈ jar, Cookie.PlainText p.1 ∧ Cookie.PlainText p.2.value := by
    rw [h.jar_eq]
    intro p hp
    simp only [List.mem_cons, List.not_mem_nil, or_false] at hp
    obtain rfl | rfl := hp
    · exact ⟨Cookie.plainText_of_validName hs.accessName, Cookie.plainText_of_sign h.signed.sign⟩
    · exact ⟨Cookie.plainText_of_validName hs.refreshName, Cookie.plainText_of_sign hs.signed.sign⟩
  have hnames : (jar.map (·.1)).Nodup := by simp [h.jar_eq, hdistinct]
  have hkeptA : (m.cookies.accessName, (⟨access, stop⟩ : Kept)) ∈ jar := by simp [h.jar_eq]
  have hkeptR : (m.cookies.refreshName, (⟨refresh, stop⟩ : Kept)) ∈ jar := by simp [h.jar_eq]
  exact ⟨Cookie.read_sent hplain hnames hkeptA hnow, Cookie.read_sent hplain hnames hkeptR hnow⟩

/-- The access cookie of a renewed session ends with the refresh cookie, however late the renewal
is: a new session would not end earlier. -/
theorem Session.exists_renewedExpiry (hs : m.Session u refresh r start stop) {now : DateTime}
    (haware : now.offset.isSome = true) (hstarted : start.instant ≤ now.instant)
    (hlong : now.Reaches m.issuer.refreshLife)
    (hshort : now.Reaches (m.issuer.refreshLife - m.margin)) :
    ∃ e, m.renewedExpiry r now = .ok e ∧ e.instant = stop.instant := by
  obtain ⟨e, he, hlast⟩ := hs.ends
  obtain ⟨fresh, hfresh⟩ := exists_cookieExpiry hlong hshort
  have hend : e.offset.isSome = true := (DateTime.aware_of_shift hlast).symm.trans hs.whole.aware
  obtain ⟨expiry, hexpiry, hmin⟩ := exists_renewedExpiry_of_shift he hend haware hfresh hlast
  have hinstant := (instant_of_cookieExpiry hfresh).1
  have hnotAfter := hs.notAfter
  exact ⟨expiry, hexpiry, by omega⟩

/-- A renewal gives the browser an access token of the same subject, for as long as before. -/
theorem Session.exists_renew (hs : m.Session u refresh r start stop) {d : Digest}
    (halg : Algorithm.ofName? m.signer.algorithm = some (.keyed d))
    (hsecret : Platform.usableSecret m.signer.secret = true) (now : DateTime)
    (haware : now.offset.isSome = true) (hstarted : start.instant ≤ now.instant)
    (hreaches : ∀ span ∈ m.spans, now.Reaches span) :
    ∃ t a header, m.renew r now = ⟨.ok t, [header]⟩ ∧
      m.signer.Signed t a ∧ a.audience = .sessionAccess ∧ a.subject = r.subject ∧
      SetCookie.read header = some (m.cookies.accessName, ⟨t, stop⟩) := by
  obtain ⟨e, he, hinstant⟩ := hs.exists_renewedExpiry haware hstarted
    (hreaches m.issuer.refreshLife (by simp [spans]))
    (hreaches (m.issuer.refreshLife - m.margin) (by simp [spans]))
  have hrange : DateTime.inRange e.instant = true := by
    rw [hinstant]
    exact hs.whole.inRange_instant
  obtain ⟨t, a, header, hrenew, hsigned, haudience, hsubject, hread⟩ :=
    exists_renew_of_renewedExpiry (.inl ⟨d, halg, hsecret⟩) hs.accessName
      (hreaches 0 (by simp [spans]))
      (hreaches m.issuer.accessLife (by simp [spans])) he hrange
  refine ⟨t, a, header, hrenew, hsigned, haudience, hsubject, ?_⟩
  rw [hread, hs.whole.eq_of_instant hinstant]

/-- The request is answered as the user's. No cookie is set but, on a renewal, the access cookie,
until the same end as before. -/
structure Continues (m : SessionManager) (u : User) (stop : DateTime) (t : Turn) : Prop where
  outcome : t.answer.outcome = .ok u
  cookies : (∃ a, t.verdict = .ok (.valid a)) ∧ t.answer.headers = [] ∨
    ∃ c header token, t.verdict = .ok (.renew c) ∧ t.answer.headers = [header] ∧
      SetCookie.read header = some (m.cookies.accessName, ⟨token, stop⟩)

/-- A request keeps up what the browser holds: after a renewal that is the new access token in
place of the old one. -/
theorem carries_turn {d : Digest} (halg : Algorithm.ofName? m.signer.algorithm = some (.keyed d))
    (hsecret : Platform.usableSecret m.signer.secret = true)
    (hdistinct : m.cookies.accessName ≠ m.cookies.refreshName) (hactive : u.isActive = true)
    (hs : m.Session u refresh r start stop) (registry : TokenRegistry)
    (h : m.Carries refresh r stop jar access a) {v : Visit} (hv : v.Within m u start stop) :
    m.Continues u stop (m.turn registry jar v) ∧
      ∃ access' a', m.Carries refresh r stop
        (jar.receive (m.turn registry jar v).answer.headers) access' a' := by
  obtain ⟨hreadA, hreadR⟩ := h.read_sent hs hdistinct hv.notStopped
  have hA := genuine_onMachine halg hsecret h.signed v.machineTime
  have hR := genuine_onMachine halg hsecret hs.signed v.machineTime
  have hrenewable : (m.onMachine v.machineTime).Renewable r v.now := by
    obtain ⟨e, he, hlast⟩ := hs.ends
    exact (renewable_iff he).2 ⟨stop, hlast, hv.notStopped⟩
  have htokenA : cookieToken ⟨none, jar.sent v.now⟩ m.cookies.accessName = .text access := by
    rw [cookieToken, hreadA, Option.elim_some]
  have htokenR : cookieToken ⟨none, jar.sent v.now⟩ m.cookies.refreshName = .text refresh := by
    rw [cookieToken, hreadR, Option.elim_some]
  have hevaluate : (m.turn registry jar v).verdict =
      (m.onMachine v.machineTime).evaluate (.text access) (.text refresh) v.now := by
    rw [← htokenA, ← htokenR]
    rfl
  have huser {c : Claims} (hc : c.subject = r.subject) : activeUser v.directory c = .ok u := by
    have hid : c.userId = .ok u.id := by
      rw [Claims.userId, hc]
      exact hs.userId_eq
    exact (activeUser_eq_ok hid).2 ⟨hv.known, hactive⟩
  obtain hvalid | hrenew := evaluate_of_renewable hA h.audience_eq hR hs.audience_eq hv.aware
    h.subject_eq hrenewable
  · have hverdict := hevaluate.trans hvalid
    have hanswer : (m.turn registry jar v).answer = ⟨.ok u, []⟩ :=
      authenticateSession_of_valid hverdict (huser h.subject_eq)
    refine ⟨⟨?_, .inl ⟨⟨a, hverdict⟩, ?_⟩⟩, access, a, ?_⟩
    · rw [hanswer]
    · rw [hanswer]
    · rw [hanswer]
      exact h
  · have hverdict := hevaluate.trans hrenew
    obtain ⟨t, a', header, hrenewed, hsigned, haudience, hsubject, hread⟩ :=
      hs.exists_renew halg hsecret v.now hv.aware hv.started hv.reaches
    have hanswer : (m.turn registry jar v).answer = ⟨.ok u, [header]⟩ :=
      authenticateSession_of_renew hverdict (huser rfl) hrenewed
    have hjar : jar.receive [header] =
        [(m.cookies.accessName, ⟨t, stop⟩), (m.cookies.refreshName, ⟨refresh, stop⟩)] := by
      simp [Jar.receive, hread, h.jar_eq, Table.set]
    refine ⟨⟨?_, .inr ⟨r, header, t, hverdict, ?_, hread⟩⟩, t, a', ?_⟩
    · rw [hanswer]
    · rw [hanswer]
    · rw [hanswer]
      exact ⟨hsigned, haudience, hsubject, hjar⟩

/-- Signing in gives the browser both tokens of the session until the same whole second. -/
theorem carries_establish (hdistinct : m.cookies.accessName ≠ m.cookies.refreshName) {k : Int}
    (hmargin : m.margin = k * second) {tokens : SessionTokens} {headers : List String}
    (h : m.establish (.text u.username) (.int u.id) start = ⟨.ok tokens, headers⟩) :
    ∃ r a, m.Session u tokens.refresh r start (m.cookieEnd start) ∧
      headers.map SetCookie.read =
        [some (m.cookies.accessName, ⟨tokens.access, m.cookieEnd start⟩),
          some (m.cookies.refreshName, ⟨tokens.refresh, m.cookieEnd start⟩)] ∧
      m.Carries tokens.refresh r (m.cookieEnd start) (Jar.receive [] headers) tokens.access a := by
  obtain ⟨haccess, hrefresh, hexpiry, headerA, headerR, hwriteA, hwriteR, rfl⟩ :=
    establish_eq_ok.1 h
  obtain ⟨a, ha⟩ := Issuer.issued_of_sessionAccess haccess
  obtain ⟨r, hr⟩ := Issuer.issued_of_sessionRefresh hrefresh
  have hplainA := Cookie.plainText_of_sign ha.signed.sign
  have hplainR := Cookie.plainText_of_sign hr.signed.sign
  obtain ⟨hrange, hnameA, -⟩ := (Cookie.write_of_plainText hplainA).1 hwriteA
  obtain ⟨-, hnameR, -⟩ := (Cookie.write_of_plainText hplainR).1 hwriteR
  obtain ⟨hinstant, -⟩ := instant_of_cookieExpiry hexpiry
  have hreadA := Cookie.read_of_write hplainA hwriteA
  have hreadR := Cookie.read_of_write hplainR hwriteR
  generalize tokens.cookieExpiry = expiry at *
  have hfloor : expiry.instant / second * second =
      (start.instant + m.issuer.refreshLife) / second * second - m.margin := by
    unfold second at *
    omega
  have hinRange : DateTime.inRange (expiry.instant / second * second) = true := by
    rw [DateTime.inRange_iff] at hrange ⊢
    unfold DateTime.minReading DateTime.maxReading second at *
    omega
  have hstop : (⟨expiry.instant / second * second, some 0⟩ : DateTime) = m.cookieEnd start := by
    rw [hfloor]
    rfl
  have hends : DateTime.shift ⟨(start.instant + m.issuer.refreshLife) / second * second, some 0⟩
      (-m.margin) = .ok (m.cookieEnd start) := by
    rw [hfloor] at hinRange
    exact DateTime.shift_eq_ok.2 ⟨hinRange, rfl⟩
  have hwhole : (m.cookieEnd start).WholeSecond := ⟨_, hstop.symm, hinRange⟩
  have hnotAfter :
      (m.cookieEnd start).instant ≤ start.instant + m.issuer.refreshLife - m.margin := by
    have hle := Int.ediv_mul_le (start.instant + m.issuer.refreshLife) (show second ≠ 0 by decide)
    simp only [cookieEnd, DateTime.instant, Option.getD_some] at hle ⊢
    omega
  rw [hstop] at hreadA hreadR
  refine ⟨r, a, ⟨hnameA, hnameR, hr.signed, hr.audience_eq, hr.userId_eq u.id rfl,
    ⟨_, hr.expiresAt, hends⟩, hwhole, hnotAfter⟩, ?_, ha.signed, ha.audience_eq, ?_, ?_⟩
  · simp [hreadA, hreadR]
  · exact ha.subject_eq.trans hr.subject_eq.symm
  · simp [Jar.receive, hreadA, hreadR, Table.set, hdistinct]

theorem map_visit_browse (m : SessionManager) (registry : TokenRegistry) (jar : Jar)
    (visits : List Visit) : (m.browse registry jar visits).map Turn.visit = visits := by
  induction visits generalizing jar with
  | nil => rfl
  | cons v visits ih => exact congrArg (v :: ·) (ih _)

/-- What one request keeps up, a whole run of requests keeps up. -/
theorem continues_browse {d : Digest}
    (halg : Algorithm.ofName? m.signer.algorithm = some (.keyed d))
    (hsecret : Platform.usableSecret m.signer.secret = true)
    (hdistinct : m.cookies.accessName ≠ m.cookies.refreshName) (hactive : u.isActive = true)
    (hs : m.Session u refresh r start stop) (registry : TokenRegistry) {visits : List Visit}
    (hvisits : ∀ v ∈ visits, v.Within m u start stop)
    (h : m.Carries refresh r stop jar access a) :
    ∀ t ∈ m.browse registry jar visits, m.Continues u stop t := by
  induction visits generalizing jar access a with
  | nil => simp [browse]
  | cons v visits ih =>
    obtain ⟨hcontinues, access', a', hnext⟩ := carries_turn halg hsecret hdistinct hactive hs
      registry h (hvisits v (by simp))
    have hlater := ih (fun w hw => hvisits w (List.mem_cons_of_mem v hw)) hnext
    intro t ht
    obtain rfl | ht := List.mem_cons.1 ht
    · exact hcontinues
    · exact hlater t ht

/-- From signing in until the cookies end, which is a margin before the refresh token does, every
request of the browser is answered as the user's, and renewals set only the access cookie, until
the same end. -/
theorem browse_authenticates {d : Digest}
    (halg : Algorithm.ofName? m.signer.algorithm = some (.keyed d))
    (hsecret : Platform.usableSecret m.signer.secret = true)
    (hdistinct : m.cookies.accessName ≠ m.cookies.refreshName) {k : Int}
    (hmargin : m.margin = k * second) (hactive : u.isActive = true) {tokens : SessionTokens}
    {headers : List String}
    (h : m.establish (.text u.username) (.int u.id) start = ⟨.ok tokens, headers⟩)
    (registry : TokenRegistry) :
    ∃ r e, m.signer.Signed tokens.refresh r ∧ r.expiresAt = some e ∧
      e.shift (-m.margin) = .ok (m.cookieEnd start) ∧ (m.cookieEnd start).WholeSecond ∧
      headers.map SetCookie.read =
        [some (m.cookies.accessName, ⟨tokens.access, m.cookieEnd start⟩),
          some (m.cookies.refreshName, ⟨tokens.refresh, m.cookieEnd start⟩)] ∧
      ∀ visits, (∀ v ∈ visits, v.Within m u start (m.cookieEnd start)) →
        (m.browse registry (Jar.receive [] headers) visits).map Turn.visit = visits ∧
        ∀ t ∈ m.browse registry (Jar.receive [] headers) visits,
          m.Continues u (m.cookieEnd start) t := by
  obtain ⟨r, a, hs, hheaders, hcarries⟩ := carries_establish hdistinct hmargin h
  obtain ⟨e, he, hstop⟩ := hs.ends
  refine ⟨r, e, hs.signed, he, hstop, hs.whole, hheaders, fun visits hvisits => ?_⟩
  exact ⟨map_visit_browse .., continues_browse halg hsecret hdistinct hactive hs registry hvisits
    hcarries⟩

end

end

section
attribute [local instance] Platform.standard

def sampleStart : DateTime := ⟨999999, some 0⟩

/-- A request at sign-in, one shortly before the access token ends, and one at the last instant,
told by another clock. -/
def sampleVisits : List Visit :=
  [sampleStart, ⟨86399 * second, some 0⟩, ⟨608340 * second - 1, some (3600 * second)⟩].map
    fun now => ⟨now, 5, ⟨[sampleUser], none⟩, .empty⟩

/-- The sample session goes on until its last microsecond. -/
theorem browse_authenticates_sample : ∃ tokens headers,
    sample.establish (.text "ann") (.int 7) sampleStart = ⟨.ok tokens, headers⟩ ∧
    sample.cookies.accessName ≠ sample.cookies.refreshName ∧ sample.margin = 60 * second ∧
    sample.cookieEnd sampleStart = ⟨604740 * second, some 0⟩ ∧
    ∀ t ∈ sample.browse sampleRegistry (Jar.receive [] headers) sampleVisits,
      sample.Continues sampleUser ⟨604740 * second, some 0⟩ t := by
  have hdistinct : sample.cookies.accessName ≠ sample.cookies.refreshName := by decide
  have hend : sample.cookieEnd sampleStart = ⟨604740 * second, some 0⟩ := by decide
  have hreaches : ∀ span ∈ sample.spans, sampleStart.Reaches span := by decide
  obtain ⟨tokens, headers, h⟩ := exists_establish_sample hreaches
  have hvisits : ∀ v ∈ sampleVisits, v.Within sample sampleUser sampleStart
      (sample.cookieEnd sampleStart) := by
    intro v hv
    simp only [sampleVisits, List.map_cons, List.map_nil, List.mem_cons, List.not_mem_nil,
      or_false] at hv
    obtain rfl | rfl | rfl := hv
    · exact ⟨rfl, by decide, by decide, rfl, by decide⟩
    · exact ⟨rfl, by decide, by decide, rfl, by decide⟩
    · exact ⟨rfl, by decide, by decide, rfl, by decide⟩
  obtain ⟨r, e, -, -, -, -, -, hrun⟩ := browse_authenticates (d := .sha256) rfl usable_sample
    hdistinct rfl (u := sampleUser) rfl h sampleRegistry
  have hcontinues := (hrun sampleVisits hvisits).2
  rw [hend] at hcontinues
  exact ⟨tokens, headers, h, hdistinct, rfl, hend, hcontinues⟩

end

end SessionManager
end Gatehouse
