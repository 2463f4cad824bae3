import Gatehouse.Proofs.Session.Issue
import Gatehouse.Proofs.Session.Verdict

/-!
A renewal that the verdict grants goes through: `Granted` is what the verdict has looked at by then,
and `exists_renew` issues the new access token from it. Nor does the verdict fail by itself: what is
left to fail is the check of the two tokens.
-/
namespace Gatehouse
open Hash

/-- Checking the token at this time gives claims or an authentication failure. -/
def Signer.Typed [Platform] (s : Signer) (token : Json) (audience : Audience)
    (now : DateTime) : Prop :=
  ∀ f, s.verify token (some audience) now = .error f → f.isUnauthorized = true

namespace SessionManager
variable {m : SessionManager} {access refresh : Json} {held : Option Claims} {c : Claims}
  {now : DateTime}

/-- A refusal gives no verdict but that the session has ended. -/
theorem exists_reason_of_refusal {f : Fault} {check : SessionCheck} (h : refusal f = .ok check) :
    ∃ reason, check = .invalid reason := by
  unfold refusal at h
  split at h
  · split at h
    · exact ⟨_, (Except.ok.inj h).symm⟩
    · cases h
  · cases h

theorem refusal_ne_renew (f : Fault) : refusal f ≠ .ok (.renew c) := by
  intro h
  obtain ⟨reason, h⟩ := exists_reason_of_refusal h
  cases h

theorem refusal_ne_valid (f : Fault) : refusal f ≠ .ok (.valid c) := by
  intro h
  obtain ⟨reason, h⟩ := exists_reason_of_refusal h
  cases h

theorem exists_refusal {f : Fault} (h : f.isUnauthorized = true) :
    ∃ check, refusal f = .ok check := by
  cases f with
  | service e =>
    have he : e.kind.isUnauthorized = true := h
    exact ⟨_, by rw [refusal, if_pos he]⟩
  | _ => cases h

variable [Platform]

/-- The refresh token tells these claims now, and its cookies have not ended. -/
structure Granted (m : SessionManager) (refresh : Json) (c : Claims) (now : DateTime) : Prop where
  verified : m.signer.verify refresh (some .sessionRefresh) now = .ok c
  notEnded : m.cookiesEnded c now = .ok false

theorem granted_of_evaluateRefresh (h : m.evaluateRefresh held refresh now = .ok (.renew c)) :
    m.Granted refresh c now := by
  unfold evaluateRefresh at h
  split at h
  · cases h
  · split at h
    · exact absurd h (refusal_ne_renew _)
    · next r hverify =>
      split at h
      · cases h
      · obtain ⟨ended, hended, h⟩ := bind_eq_ok.1 h
        cases ended with
        | true => cases h
        | false =>
          cases h
          exact ⟨hverify, hended⟩

theorem granted_of_evaluate (h : m.evaluate access refresh now = .ok (.renew c)) :
    m.Granted refresh c now := by
  unfold evaluate at h
  split at h
  · cases h
  · split at h
    · obtain ⟨soon, -, h⟩ := bind_eq_ok.1 h
      cases soon with
      | true => exact granted_of_evaluateRefresh h
      | false => cases h
    · split at h
      · exact granted_of_evaluateRefresh h
      · exact absurd h (refusal_ne_renew _)
    · exact absurd h (refusal_ne_renew _)

theorem evaluateRefresh_ne_valid : m.evaluateRefresh held refresh now ≠ .ok (.valid c) := by
  intro h
  unfold evaluateRefresh at h
  split at h
  · cases h
  · split at h
    · exact refusal_ne_valid _ h
    · split at h
      · cases h
      · obtain ⟨ended, -, h⟩ := bind_eq_ok.1 h
        cases ended <;> cases h

/-- An access token that is used as it is was verified. -/
theorem verify_of_evaluate (h : m.evaluate access refresh now = .ok (.valid c)) :
    m.signer.verify access (some .sessionAccess) now = .ok c := by
  unfold evaluate at h
  split at h
  · cases h
  · split at h
    · next hverify =>
      obtain ⟨soon, -, h⟩ := bind_eq_ok.1 h
      cases soon with
      | true => exact absurd h evaluateRefresh_ne_valid
      | false =>
        cases h
        exact hverify
    · split at h
      · exact absurd h evaluateRefresh_ne_valid
      · exact absurd h (refusal_ne_valid _)
    · exact absurd h (refusal_ne_valid _)

/-! ### The renewal -/

namespace Granted
variable (h : m.Granted refresh c now) (haware : now.offset.isSome = true)
  (hreaches : ∀ span ∈ m.spans, now.Reaches span)
include h haware hreaches

/-- The access cookie gets an end that a header can tell. -/
theorem exists_renewedExpiry : ∃ e, m.renewedExpiry c now = .ok e ∧
    DateTime.inRange e.instant = true := by
  have hwhole := Claims.wholeSeconds_of_verify h.verified
  have hshort : now.Reaches (m.issuer.refreshLife - m.margin) := hreaches _ (by simp [spans])
  obtain ⟨fresh, hfresh⟩ := exists_cookieExpiry (hreaches _ (by simp [spans])) hshort
  have hrange : DateTime.inRange fresh.instant = true := by
    have hsum : now.instant + m.issuer.refreshLife - m.margin =
        now.instant + (m.issuer.refreshLife - m.margin) := by omega
    rw [(instant_of_cookieExpiry hfresh).1, hsum]
    exact hshort.utc
  have hrenewable : m.Renewable c now := (cookiesEnded_eq_false hwhole haware).1 h.notEnded
  cases he : c.expiresAt with
  | none => exact ⟨fresh, by simp only [renewedExpiry, he, hfresh], hrange⟩
  | some e =>
    obtain ⟨last, hlast, -⟩ := hrenewable e he
    have hend := hwhole.expiresAt e he
    obtain ⟨expiry, hexpiry, hmin⟩ :=
      exists_renewedExpiry_of_shift he hend.aware haware hfresh hlast
    have hlastRange : DateTime.inRange last.instant = true := by
      obtain ⟨n, rfl, -⟩ := hend
      obtain ⟨hr, rfl⟩ := DateTime.shift_eq_ok.1 hlast
      rwa [DateTime.instant_utc]
    refine ⟨expiry, hexpiry, ?_⟩
    rw [DateTime.inRange_iff] at hrange hlastRange ⊢
    omega

/-- The renewal issues an access token for the subject of the refresh token and writes one header,
which sets it. -/
theorem exists_renew {d : Digest}
    (halg : Algorithm.ofName? m.signer.algorithm = some (.keyed d))
    (hsecret : Platform.usableSecret m.signer.secret = true)
    (hname : Cookie.validName m.cookies.accessName = true) :
    ∃ t a header ends, m.renew c now = ⟨.ok t, [header]⟩ ∧ m.signer.Signed t a ∧
      a.audience = .sessionAccess ∧ a.subject = c.subject ∧
      SetCookie.read header = some (m.cookies.accessName, ⟨t, ends⟩) := by
  obtain ⟨e, he, hrange⟩ := h.exists_renewedExpiry haware hreaches
  obtain ⟨t, a, header, hrenewed⟩ := exists_renew_of_renewedExpiry (.inl ⟨d, halg, hsecret⟩)
    hname (hreaches 0 (by simp [spans])) (hreaches m.issuer.accessLife (by simp [spans])) he hrange
  exact ⟨t, a, header, _, hrenewed⟩

end Granted

/-! ### The verdict -/

section
variable (haware : now.offset.isSome = true)
include haware

theorem exists_endsSoon {token : Json} {audience : Option Audience}
    (h : m.signer.verify token audience now = .ok c) : ∃ soon, m.endsSoon c now = .ok soon := by
  have hwhole := Claims.wholeSeconds_of_verify h
  by_cases hlasts : m.Lasts c now
  · exact ⟨false, endsSoon_of_lasts hwhole haware hlasts⟩
  · exact ⟨true, endsSoon_of_not_lasts hwhole haware hlasts⟩

variable (hmargin : now.Reaches (-m.margin))
include hmargin

/-- Claims that have not expired end late enough for the end of their cookies to be reckoned. -/
theorem exists_cookiesEnded {token : Json} {audience : Option Audience}
    (h : m.signer.verify token audience now = .ok c) :
    ∃ ended, m.cookiesEnded c now = .ok ended := by
  have hwhole := Claims.wholeSeconds_of_verify h
  obtain ⟨-, -, -, -, -, -, -, -, -, -, -, hexpiry⟩ := Signer.verify_eq_ok.1 h
  cases he : c.expiresAt with
  | none => exact ⟨false, by simp only [cookiesEnded, he]⟩
  | some e =>
    have hlater := (hwhole.checkExpiry.1 hexpiry e he).2
    have hlow := (DateTime.inRange_iff.1 hmargin.utc).1
    rw [cookiesEnded_eq hwhole haware he, if_pos (by omega)]
    exact ⟨_, rfl⟩

variable (hrefresh : m.signer.Typed refresh .sessionRefresh now)
include hrefresh

theorem exists_evaluateRefresh : ∃ check, m.evaluateRefresh held refresh now = .ok check := by
  unfold evaluateRefresh
  split
  · exact ⟨_, rfl⟩
  · split
    · next f hf => exact exists_refusal (hrefresh f hf)
    · next r hr =>
      split
      · exact ⟨_, rfl⟩
      · obtain ⟨ended, hended⟩ := exists_cookiesEnded haware hmargin hr
        rw [hended]
        cases ended <;> exact ⟨_, rfl⟩

/-- There is a verdict on every two tokens whose checks give no other failure. -/
theorem exists_evaluate (haccess : m.signer.Typed access .sessionAccess now) :
    ∃ check, m.evaluate access refresh now = .ok check := by
  unfold evaluate
  split
  · exact ⟨_, rfl⟩
  · split
    · next c hc =>
      obtain ⟨soon, hsoon⟩ := exists_endsSoon haware hc
      rw [hsoon]
      cases soon with
      | true => exact exists_evaluateRefresh haware hmargin hrefresh
      | false => exact ⟨_, rfl⟩
    · next e he =>
      split
      · exact exists_evaluateRefresh haware hmargin hrefresh
      · exact exists_refusal (haccess _ he)
    · next f _ hf => exact exists_refusal (haccess f hf)

end

end SessionManager
end Gatehouse
