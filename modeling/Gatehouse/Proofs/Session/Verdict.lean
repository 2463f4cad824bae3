import Gatehouse.Proofs.Token.Genuine
import Gatehouse.Session.Manager

/-!
The verdict on a session whose tokens are genuine. It depends on their claims and the time only:
an access token that lasts beyond the threshold carries the session, and otherwise the refresh
token renews it while its cookies have not ended.
-/
namespace Gatehouse.SessionManager
open Signer
variable {m : SessionManager} {access refresh : Json} {a r c : Claims} {now : DateTime}

/-- The claims end later than the threshold after this time. -/
def Lasts (m : SessionManager) (c : Claims) (now : DateTime) : Prop :=
  ∀ e, c.expiresAt = some e → now.instant + m.threshold < e.instant

/-- The cookies of a session with these refresh claims have not ended yet. -/
def Renewable (m : SessionManager) (c : Claims) (now : DateTime) : Prop :=
  ∀ e, c.expiresAt = some e → ∃ last, e.shift (-m.margin) = .ok last ∧ now.instant < last.instant

theorem lasts_iff {e : DateTime} (he : c.expiresAt = some e) :
    m.Lasts c now ↔ now.instant + m.threshold < e.instant := by
  simp [Lasts, he]

theorem renewable_iff {e : DateTime} (he : c.expiresAt = some e) : m.Renewable c now ↔
    ∃ last, e.shift (-m.margin) = .ok last ∧ now.instant < last.instant := by
  simp [Renewable, he]

theorem Renewable.liveAt (h : m.Renewable c now) (hnow : now.offset.isSome = true) :
    c.LiveAt now := by
  intro e he
  obtain ⟨last, hlast, hlt⟩ := h e he
  have hshift := DateTime.instant_of_shift hlast
  have hpos := m.margin_pos
  exact ⟨hnow, by omega⟩

section
variable (hc : c.WholeSeconds) (hnow : now.offset.isSome = true)
include hc hnow

theorem endsSoon_of_lasts (h : m.Lasts c now) : m.endsSoon c now = .ok false := by
  unfold endsSoon
  cases he : c.expiresAt with
  | none => rfl
  | some e =>
    have hlasts := h e he
    have hlater : ¬ e.instant - now.instant ≤ m.threshold := by omega
    simp only [DateTime.since_of_aware (hc.expiresAt e he).aware hnow, Functor.map, Except.map,
      decide_eq_false hlater]

theorem endsSoon_of_not_lasts (h : ¬ m.Lasts c now) : m.endsSoon c now = .ok true := by
  simp only [Lasts, not_forall, Int.not_lt] at h
  obtain ⟨e, he, hle⟩ := h
  have hsoon : e.instant - now.instant ≤ m.threshold := by omega
  simp only [endsSoon, he, DateTime.since_of_aware (hc.expiresAt e he).aware hnow, Functor.map,
    Except.map, decide_eq_true hsoon]

theorem cookiesEnded_eq_false : m.cookiesEnded c now = .ok false ↔ m.Renewable c now := by
  unfold cookiesEnded Renewable
  cases he : c.expiresAt with
  | none => simp
  | some e =>
    simp only [bind_eq_ok, Option.some.injEq, forall_eq']
    refine exists_congr fun last => and_congr_right fun hlast => ?_
    have haware : last.offset.isSome = true :=
      (DateTime.aware_of_shift hlast).trans (hc.expiresAt e he).aware
    rw [DateTime.notAfter_of_aware haware hnow, Except.ok.injEq, decide_eq_false_iff_not,
      Int.not_le]

/-- The end of the cookies is a margin before that of the token, if a clock can tell it. -/
theorem cookiesEnded_eq {e : DateTime} (he : c.expiresAt = some e) : m.cookiesEnded c now =
    if DateTime.minReading ≤ e.instant - m.margin then
      .ok (decide (e.instant - m.margin ≤ now.instant))
    else .error .outOfRange := by
  obtain ⟨n, rfl, hrange⟩ := hc.expiresAt e he
  have hbounds := DateTime.inRange_iff.1 hrange
  have hpos := m.margin_pos
  have hin : DateTime.inRange (n * second + -m.margin) = true ↔
      DateTime.minReading ≤ n * second - m.margin := by
    rw [DateTime.inRange_iff]
    omega
  simp only [cookiesEnded, he, DateTime.shift, DateTime.ofReading, DateTime.instant_utc, hin]
  split
  · refine (DateTime.notAfter_of_aware rfl hnow).trans ?_
    rw [DateTime.instant_utc, Int.sub_eq_add_neg]
  · rfl

end

/-! ### The access token -/

variable [Platform]

section
variable (ha : m.signer.Genuine access a) (haud : a.audience = .sessionAccess)
  (hnow : now.offset.isSome = true)
include ha haud hnow

/-- An access token that lasts carries the session, whatever the refresh token is. -/
theorem evaluate_of_lasts (hlive : a.LiveAt now) (h : m.Lasts a now) :
    m.evaluate access refresh now = .ok (.valid a) := by
  have hv := ha.verify_of_live hlive
  rw [haud] at hv
  simp only [evaluate, ha.truthy, hv, endsSoon_of_lasts ha.whole hnow h, bind, Except.bind,
    Bool.not_true, Bool.false_eq_true, if_false]

/-- Near its end it leaves the verdict to the refresh token, which must be of the same subject. -/
theorem evaluate_of_not_lasts (hlive : a.LiveAt now) (h : ¬ m.Lasts a now) :
    m.evaluate access refresh now = m.evaluateRefresh (some a) refresh now := by
  have hv := ha.verify_of_live hlive
  rw [haud] at hv
  simp only [evaluate, ha.truthy, hv, endsSoon_of_not_lasts ha.whole hnow h, bind, Except.bind,
    Bool.not_true, Bool.false_eq_true, if_false, if_true]

/-- After its end the refresh token alone decides. -/
theorem evaluate_of_ended {e : DateTime} (he : a.expiresAt = some e)
    (hle : e.instant ≤ now.instant) :
    m.evaluate access refresh now = m.evaluateRefresh none refresh now := by
  have hv := ha.verify_of_ended hnow he hle
  rw [haud] at hv
  simp only [evaluate, ha.truthy, hv, expired, Fault.raise, Bool.not_true, Bool.false_eq_true,
    if_false, if_true]

end

/-! ### The refresh token -/

section
variable (hr : m.signer.Genuine refresh r) (haud : r.audience = .sessionRefresh)
  (held : Option Claims)
include hr haud

theorem evaluateRefresh_of_ended (hnow : now.offset.isSome = true) {e : DateTime}
    (he : r.expiresAt = some e) (hle : e.instant ≤ now.instant) :
    m.evaluateRefresh held refresh now = .ok (.invalid "Token expired") := by
  have hv := hr.verify_of_ended hnow he hle
  rw [haud] at hv
  simp only [evaluateRefresh, hr.truthy, hv, Bool.not_true, Bool.false_eq_true, if_false]
  rfl

/-- A live refresh token of the subject that is looked at is held against its cookies. -/
theorem evaluateRefresh_of_live (hlive : r.LiveAt now)
    (hsame : ∀ a, held = some a → a.subject = r.subject) :
    m.evaluateRefresh held refresh now =
      (do
        if ← m.cookiesEnded r now then .ok (.invalid "Session ends too soon")
        else .ok (.renew r)) := by
  have hv := hr.verify_of_live hlive
  rw [haud] at hv
  have hany : held.any (·.subject ≠ r.subject) = false := by
    cases held with
    | none => rfl
    | some a => simp [hsame a rfl]
  simp only [evaluateRefresh, hr.truthy, hv, hany, Bool.not_true, Bool.false_eq_true, if_false]

/-- A refresh token of another subject than the one that is looked at renews nothing. -/
theorem evaluateRefresh_of_ne (hlive : r.LiveAt now) {a : Claims} (hne : a.subject ≠ r.subject) :
    m.evaluateRefresh (some a) refresh now = .ok (.invalid "Session token mismatch") := by
  have hv := hr.verify_of_live hlive
  rw [haud] at hv
  have hany : (some a).any (·.subject ≠ r.subject) = true := by simp [hne]
  simp only [evaluateRefresh, hr.truthy, hv, hany, Bool.not_true, Bool.false_eq_true, if_false,
    if_true]

/-- The refresh token renews the session for its own claims, of the subject of the access token
where that one is looked at, and while the cookies have not ended. -/
theorem evaluateRefresh_eq_renew (hnow : now.offset.isSome = true) :
    m.evaluateRefresh held refresh now = .ok (.renew c) ↔
      c = r ∧ (∀ a, held = some a → a.subject = r.subject) ∧ m.Renewable r now := by
  by_cases hlive : r.LiveAt now
  · by_cases hsame : ∀ a, held = some a → a.subject = r.subject
    · rw [evaluateRefresh_of_live hr haud held hlive hsame, ← cookiesEnded_eq_false hr.whole hnow,
        and_iff_right hsame, eq_comm (a := c)]
      cases m.cookiesEnded r now with
      | error f => simp [bind, Except.bind]
      | ok ended => cases ended <;> simp [bind, Except.bind]
    · simp only [not_forall] at hsame
      obtain ⟨a, rfl, hne⟩ := hsame
      simp [evaluateRefresh_of_ne hr haud hlive hne, hne]
  · have hnot : ¬ m.Renewable r now := fun h => hlive (h.liveAt hnow)
    obtain ⟨e, he, hle⟩ := Claims.ended_of_not_liveAt hnow hlive
    simp [evaluateRefresh_of_ended hr haud held hnow he hle, hnot]

end

/-- When the verdict on two genuine tokens is renewal: always for the claims of the refresh token,
whose subject is only held against that of an access token that still lives. -/
theorem evaluate_eq_renew (ha : m.signer.Genuine access a) (haudA : a.audience = .sessionAccess)
    (hr : m.signer.Genuine refresh r) (haudR : r.audience = .sessionRefresh)
    (hnow : now.offset.isSome = true) :
    m.evaluate access refresh now = .ok (.renew c) ↔
      c = r ∧ (a.LiveAt now → ¬ m.Lasts a now ∧ a.subject = r.subject) ∧ m.Renewable r now := by
  by_cases hlive : a.LiveAt now
  · by_cases hlasts : m.Lasts a now
    · simp [evaluate_of_lasts ha haudA hnow hlive hlasts, hlive, hlasts]
    · rw [evaluate_of_not_lasts ha haudA hnow hlive hlasts,
        evaluateRefresh_eq_renew hr haudR _ hnow]
      simp [hlive, hlasts]
  · obtain ⟨e, he, hle⟩ := Claims.ended_of_not_liveAt hnow hlive
    rw [evaluate_of_ended ha haudA hnow he hle, evaluateRefresh_eq_renew hr haudR _ hnow]
    simp [hlive]

/-- After the end of the access token the session is renewed until its cookies end. -/
theorem renew_of_ended (ha : m.signer.Genuine access a) (haudA : a.audience = .sessionAccess)
    (hr : m.signer.Genuine refresh r) (haudR : r.audience = .sessionRefresh)
    (hnow : now.offset.isSome = true) {e : DateTime} (he : a.expiresAt = some e)
    (hle : e.instant ≤ now.instant) (h : m.Renewable r now) :
    m.evaluate access refresh now = .ok (.renew r) := by
  rw [evaluate_of_ended ha haudA hnow he hle]
  exact (evaluateRefresh_eq_renew hr haudR none hnow).2 ⟨rfl, by simp, h⟩

/-- A session of one subject goes on while its cookies have not ended. -/
theorem evaluate_of_renewable (ha : m.signer.Genuine access a) (haudA : a.audience = .sessionAccess)
    (hr : m.signer.Genuine refresh r) (haudR : r.audience = .sessionRefresh)
    (hnow : now.offset.isSome = true) (hsame : a.subject = r.subject) (h : m.Renewable r now) :
    m.evaluate access refresh now = .ok (.valid a) ∨
      m.evaluate access refresh now = .ok (.renew r) := by
  by_cases hvalid : a.LiveAt now ∧ m.Lasts a now
  · exact .inl (evaluate_of_lasts ha haudA hnow hvalid.1 hvalid.2)
  · refine .inr ((evaluate_eq_renew ha haudA hr haudR hnow).2 ⟨rfl, fun hlive => ?_, h⟩)
    exact ⟨fun hlasts => hvalid ⟨hlive, hlasts⟩, hsame⟩

end Gatehouse.SessionManager
