import Gatehouse.Proofs.Session.Renewal

/-!
When a session is used, renewed and ended, in closed form. For two tokens of one subject the verdict
is told by their ends: the access token carries the session until the threshold before its end, then
the refresh token renews it until the margin before its own end. So a session only goes forward.
The one exception is a margin that takes the end of the cookies before year 1.
-/
namespace Gatehouse

/-- How far a session has come by a verdict. -/
def SessionCheck.stage : SessionCheck → Nat
  | .valid _ => 0
  | .renew _ => 1
  | .invalid _ => 2

namespace SessionManager
open Hash Signer
variable {m : SessionManager} {access refresh : Json} {a r c : Claims} {now : DateTime}
  {x e : DateTime}

/-- The verdict on two tokens that tell these claims and end at these instants. -/
def verdictBy (m : SessionManager) (a r : Claims) (ends last time : Int) :
    Except Fault SessionCheck :=
  if time < ends - m.threshold then .ok (.valid a)
  else if last ≤ time then .ok (.invalid "Token expired")
  else if DateTime.minReading ≤ last - m.margin then
    .ok (if time < last - m.margin then .renew r else .invalid "Session ends too soon")
  else .error .outOfRange

theorem verdictBy_of_le {ends last time : Int} (h : DateTime.minReading ≤ last - m.margin) :
    m.verdictBy a r ends last time =
      .ok (if time < ends - m.threshold then .valid a
        else if time < last - m.margin then .renew r
        else .invalid (if last ≤ time then "Token expired" else "Session ends too soon")) := by
  have hpos := m.margin_pos
  unfold verdictBy
  rw [if_pos h]
  split_ifs
  all_goals first | rfl | omega

theorem verdictBy_of_lt {ends last time : Int} (h : last - m.margin < DateTime.minReading) :
    m.verdictBy a r ends last time =
      if time < ends - m.threshold then .ok (.valid a)
      else if time < last then .error .outOfRange
      else .ok (.invalid "Token expired") := by
  unfold verdictBy
  rw [if_neg (Int.not_le.2 h)]
  split_ifs
  all_goals first | rfl | omega

/-- The stage of a verdict is told by the ends alone, also where there is none at some times. -/
theorem stage_of_verdictBy {ends last time : Int} {v : SessionCheck}
    (h : m.verdictBy a r ends last time = .ok v) :
    v.stage = if time < ends - m.threshold then 0 else if time < last - m.margin then 1 else 2 := by
  have hpos := m.margin_pos
  unfold verdictBy at h
  split_ifs at h ⊢
  all_goals first | omega | (cases h; rfl)

theorem stage_le_of_verdictBy {ends last time later : Int} {v v' : SessionCheck}
    (hle : time ≤ later) (h : m.verdictBy a r ends last time = .ok v)
    (h' : m.verdictBy a r ends last later = .ok v') : v.stage ≤ v'.stage := by
  rw [stage_of_verdictBy h, stage_of_verdictBy h']
  split_ifs <;> omega

section
variable [Platform]

section
variable (hr : m.signer.Genuine refresh r) (haudR : r.audience = .sessionRefresh)
  (he : r.expiresAt = some e) (hnow : now.offset.isSome = true)
include hr haudR he hnow

/-- What the refresh token says where the access token does not carry the session. -/
theorem evaluateRefresh_eq {held : Option Claims}
    (hsame : ∀ a, held = some a → a.subject = r.subject) :
    m.evaluateRefresh held refresh now =
      if e.instant ≤ now.instant then .ok (.invalid "Token expired")
      else if DateTime.minReading ≤ e.instant - m.margin then
        .ok (if now.instant < e.instant - m.margin then .renew r
          else .invalid "Session ends too soon")
      else .error .outOfRange := by
  by_cases hended : e.instant ≤ now.instant
  · rw [if_pos hended]
    exact evaluateRefresh_of_ended hr haudR held hnow he hended
  · have hlive : r.LiveAt now := (Claims.liveAt_iff he).2 ⟨hnow, Int.not_le.1 hended⟩
    rw [if_neg hended, evaluateRefresh_of_live hr haudR held hlive hsame,
      cookiesEnded_eq hr.whole hnow he]
    split
    · by_cases hlast : e.instant - m.margin ≤ now.instant
      · rw [if_neg (Int.not_lt.2 hlast), decide_eq_true hlast]
        rfl
      · rw [if_pos (Int.not_le.1 hlast), decide_eq_false hlast]
        rfl
    · rfl

/-- The verdict on two tokens of one subject is told by their ends. -/
theorem evaluate_eq_verdictBy (hthreshold : 0 ≤ m.threshold) (ha : m.signer.Genuine access a)
    (haudA : a.audience = .sessionAccess) (hx : a.expiresAt = some x)
    (hsame : a.subject = r.subject) :
    m.evaluate access refresh now = m.verdictBy a r x.instant e.instant now.instant := by
  have hlasts : m.Lasts a now ↔ now.instant < x.instant - m.threshold := by
    rw [lasts_iff hx]
    omega
  unfold verdictBy
  by_cases hearly : now.instant < x.instant - m.threshold
  · have hlive : a.LiveAt now := (Claims.liveAt_iff hx).2 ⟨hnow, by omega⟩
    rw [if_pos hearly, evaluate_of_lasts ha haudA hnow hlive (hlasts.2 hearly)]
  · rw [if_neg hearly]
    by_cases hended : x.instant ≤ now.instant
    · rw [evaluate_of_ended ha haudA hnow hx hended]
      exact evaluateRefresh_eq hr haudR he hnow (by simp)
    · have hlive : a.LiveAt now := (Claims.liveAt_iff hx).2 ⟨hnow, Int.not_le.1 hended⟩
      rw [evaluate_of_not_lasts ha haudA hnow hlive fun h => hearly (hlasts.1 h)]
      apply evaluateRefresh_eq hr haudR he hnow
      rintro a' ⟨⟩
      exact hsame

end

/-- The verdict on an access and a refresh token that were issued for one subject: the access token
is used until the threshold before its end, then the refresh token renews the session until the
margin before its own end, and nothing goes on after that. Where the margin leads before year 1
there is no verdict between the two ends. From one time to a later one no verdict goes back. -/
theorem evaluate_policy {d : Digest}
    (halg : Algorithm.ofName? m.signer.algorithm = some (.keyed d))
    (hsecret : Platform.usableSecret m.signer.secret = true) (hthreshold : 0 ≤ m.threshold)
    {principal principal' subject : Json} {start start' : DateTime} {access refresh : String}
    (hA : m.issuer.sessionAccess principal subject start = .ok access)
    (hR : m.issuer.sessionRefresh principal' subject start' = .ok refresh) :
    ∃ a r x e, m.signer.Signed access a ∧ a.expiresAt = some x ∧
      m.signer.Signed refresh r ∧ r.expiresAt = some e ∧
      (DateTime.minReading ≤ e.instant - m.margin →
        ∀ (machineTime : Int) (now : DateTime), now.offset.isSome = true →
        (m.onMachine machineTime).evaluate (.text access) (.text refresh) now =
          .ok (if now.instant < x.instant - m.threshold then .valid a
            else if now.instant < e.instant - m.margin then .renew r
            else .invalid (if e.instant ≤ now.instant then "Token expired"
              else "Session ends too soon"))) ∧
      (e.instant - m.margin < DateTime.minReading →
        ∀ (machineTime : Int) (now : DateTime), now.offset.isSome = true →
        (m.onMachine machineTime).evaluate (.text access) (.text refresh) now =
          if now.instant < x.instant - m.threshold then .ok (.valid a)
          else if now.instant < e.instant then .error .outOfRange
          else .ok (.invalid "Token expired")) ∧
      ∀ (machineTime machineTime' : Int) (now later : DateTime) (v v' : SessionCheck),
        now.offset.isSome = true → later.offset.isSome = true → now.instant ≤ later.instant →
        (m.onMachine machineTime).evaluate (.text access) (.text refresh) now = .ok v →
        (m.onMachine machineTime').evaluate (.text access) (.text refresh) later = .ok v' →
        v.stage ≤ v'.stage := by
  obtain ⟨a, ha⟩ := Issuer.issued_of_sessionAccess hA
  obtain ⟨r, hr⟩ := Issuer.issued_of_sessionRefresh hR
  have hsame : a.subject = r.subject := ha.subject_eq.trans hr.subject_eq.symm
  have hverdict (machineTime : Int) (now : DateTime) (hnow : now.offset.isSome = true) :
      (m.onMachine machineTime).evaluate (.text access) (.text refresh) now =
        m.verdictBy a r _ _ now.instant :=
    evaluate_eq_verdictBy (genuine_onMachine halg hsecret hr.signed machineTime) hr.audience_eq
      hr.expiresAt hnow hthreshold (genuine_onMachine halg hsecret ha.signed machineTime)
      ha.audience_eq ha.expiresAt hsame
  refine ⟨a, r, _, _, ha.signed, ha.expiresAt, hr.signed, hr.expiresAt,
    fun hlow machineTime now hnow => ?_, fun hlow machineTime now hnow => ?_,
    fun machineTime machineTime' now later v v' hnow hlater hle hv hv' => ?_⟩
  · rw [hverdict machineTime now hnow]
    exact verdictBy_of_le hlow
  · rw [hverdict machineTime now hnow]
    exact verdictBy_of_lt hlow
  · rw [hverdict machineTime now hnow] at hv
    rw [hverdict machineTime' later hlater] at hv'
    exact stage_le_of_verdictBy hle hv hv'

end

/-! ### Two issue times -/

section
attribute [local instance] Platform.standard

/-- The sample issuer issues both tokens of a session, at different times. -/
theorem exists_issue_sample (start start' : DateTime)
    (h : ∀ span ∈ sample.spans, start.Reaches span)
    (h' : ∀ span ∈ sample.spans, start'.Reaches span) : ∃ access refresh,
    sample.issuer.sessionAccess (.text "ann") (.int 7) start = .ok access ∧
      sample.issuer.sessionRefresh (.text "ann") (.int 7) start' = .ok refresh := by
  obtain ⟨tokens, headers, hsession⟩ := exists_establish_sample h
  obtain ⟨tokens', headers', hsession'⟩ := exists_establish_sample h'
  exact ⟨tokens.access, tokens'.refresh, (establish_eq_ok.1 hsession).1,
    (establish_eq_ok.1 hsession').2.1⟩

/-- The refresh token is issued half a second later by a clock in another zone. The session is used
until an hour before the end of the access token, and renewed until a minute before the end of the
other one. -/
theorem evaluate_policy_sample : ∃ access refresh a r,
    sample.issuer.sessionAccess (.text "ann") (.int 7) ⟨0, some 0⟩ = .ok access ∧
    sample.issuer.sessionRefresh (.text "ann") (.int 7)
      ⟨3600 * second + 500000, some (3600 * second)⟩ = .ok refresh ∧
    sample.evaluate (.text access) (.text refresh) ⟨82800 * second - 1, some 0⟩ = .ok (.valid a) ∧
    sample.evaluate (.text access) (.text refresh) ⟨82800 * second, some 0⟩ = .ok (.renew r) ∧
    sample.evaluate (.text access) (.text refresh) ⟨604740 * second - 1, some 0⟩ =
      .ok (.renew r) ∧
    sample.evaluate (.text access) (.text refresh) ⟨604740 * second, some 0⟩ =
      .ok (.invalid "Session ends too soon") := by
  obtain ⟨access, refresh, hA, hR⟩ := exists_issue_sample ⟨0, some 0⟩
    ⟨3600 * second + 500000, some (3600 * second)⟩ (by decide) (by decide)
  obtain ⟨a, r, x, e, ha, hx, hr, he, hverdict, -, -⟩ :=
    evaluate_policy (m := sample) (d := .sha256) rfl usable_sample (by decide) hA hR
  have hends : x = ⟨86400 * second, some 0⟩ := by
    obtain ⟨a', ha'⟩ := Issuer.issued_of_sessionAccess hA
    obtain rfl := ha'.signed.unique ha
    exact Option.some.inj (hx.symm.trans ha'.expiresAt)
  have hlast : e = ⟨604800 * second, some 0⟩ := by
    obtain ⟨r', hr'⟩ := Issuer.issued_of_sessionRefresh hR
    obtain rfl := hr'.signed.unique hr
    exact Option.some.inj (he.symm.trans hr'.expiresAt)
  subst hends hlast
  have hlow : DateTime.minReading ≤
      (⟨604800 * second, some 0⟩ : DateTime).instant - sample.margin := by decide
  exact ⟨access, refresh, a, r, hA, hR, hverdict hlow 0 _ rfl, hverdict hlow 0 _ rfl,
    hverdict hlow 0 _ rfl, hverdict hlow 0 _ rfl⟩

/-- The sample manager with a margin of more than two thousand years. -/
def sampleWide : SessionManager :=
  { sample with margin := 70000000000 * second, margin_pos := by decide }

/-- After the threshold of the access token, with the margin of the refresh token long past, there
is no verdict: the end of the cookies would be before year 1. -/
theorem no_verdict_of_sampleWide : ∃ access refresh a r,
    sampleWide.issuer.sessionAccess (.text "ann") (.int 7) ⟨0, some 0⟩ = .ok access ∧
    sampleWide.issuer.sessionRefresh (.text "ann") (.int 7) ⟨0, some 0⟩ = .ok refresh ∧
    sampleWide.signer.Signed access a ∧ a.expiresAt = some ⟨86400 * second, some 0⟩ ∧
    sampleWide.signer.Signed refresh r ∧ r.expiresAt = some ⟨604800 * second, some 0⟩ ∧
    86400 * second - sampleWide.threshold ≤ 82800 * second ∧
    604800 * second - sampleWide.margin ≤ 82800 * second ∧
    sampleWide.evaluate (.text access) (.text refresh) ⟨82800 * second, some 0⟩ =
      .error .outOfRange := by
  obtain ⟨access, refresh, hA, hR⟩ := exists_issue_sample ⟨0, some 0⟩ ⟨0, some 0⟩ (by decide)
    (by decide)
  obtain ⟨a, ha⟩ := Issuer.issued_of_sessionAccess hA
  obtain ⟨r, hr⟩ := Issuer.issued_of_sessionRefresh hR
  have hgenuineA : sampleWide.signer.Genuine (.text access) a :=
    Signed.genuine (d := .sha256) rfl usable_sample ha.signed
  have hgenuineR : sampleWide.signer.Genuine (.text refresh) r :=
    Signed.genuine (d := .sha256) rfl usable_sample hr.signed
  have hsame : a.subject = r.subject := ha.subject_eq.trans hr.subject_eq.symm
  refine ⟨access, refresh, a, r, hA, hR, ha.signed, ha.expiresAt, hr.signed, hr.expiresAt,
    by decide, by decide, ?_⟩
  rw [evaluate_eq_verdictBy hgenuineR hr.audience_eq hr.expiresAt rfl (by decide) hgenuineA
    ha.audience_eq ha.expiresAt hsame]
  exact verdictBy_of_lt (by decide)

end

end SessionManager
end Gatehouse
