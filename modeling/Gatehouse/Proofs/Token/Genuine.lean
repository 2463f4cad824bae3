import Gatehouse.Proofs.Calendar.Reckoning
import Gatehouse.Proofs.Token.RoundTrip

/-!
Genuine tokens: those that are accepted at some time. Every check but the last is the same at all
times, so a genuine token tells its claims until they expire, and from then on fails as expired.
What a keyed signer signs is genuine; what a signer without a key signs is never accepted.
-/
namespace Gatehouse

namespace Claims
variable {c : Claims} {now : DateTime}

theorem liveAt_iff {e : DateTime} (he : c.expiresAt = some e) :
    c.LiveAt now ↔ now.offset.isSome = true ∧ now.instant < e.instant := by
  simp [LiveAt, he]

theorem ended_of_not_liveAt (hnow : now.offset.isSome = true) (h : ¬ c.LiveAt now) :
    ∃ e, c.expiresAt = some e ∧ e.instant ≤ now.instant := by
  simp only [LiveAt, hnow, true_and, not_forall, Int.not_lt] at h
  obtain ⟨e, he, hle⟩ := h
  exact ⟨e, he, hle⟩

end Claims

namespace Signer
open Hash
variable {s : Signer} {token : Json} {c : Claims} {now : DateTime}

/-- The failure of a token whose claims have expired. -/
def expired (c : Claims) : Fault :=
  .raise .tokenExpired "Token expired"
    (some [("sub", .text c.subject), ("aud", .text c.audience.name)])

theorem checkExpiry_of_ended (hc : c.WholeSeconds) (hnow : now.offset.isSome = true)
    {e : DateTime} (he : c.expiresAt = some e) (hle : e.instant ≤ now.instant) :
    checkExpiry c now = .error (expired c) := by
  have hpast : e.notAfter now = .ok true := by
    rw [DateTime.notAfter_of_aware (hc.expiresAt e he).aware hnow, decide_eq_true hle]
  simp only [checkExpiry, he, hpast, bind, Except.bind, if_true, expired]

variable [Platform]

/-- A token that is accepted once is held against its expiry only at any other time. -/
theorem verify_of_verify {audience : Option Audience} (h : s.verify token audience now = .ok c)
    (later : DateTime) :
    s.verify token audience later = (fun _ => c) <$> checkExpiry c later := by
  simp only [verify, bind_eq_ok] at h
  obtain ⟨header, hheader, secret, hsecret, payload, hpayload, claims, hclaims, -, -, h⟩ := h
  obtain rfl := Except.ok.inj h
  simp only [verify, hheader, hsecret, hpayload, hclaims, bind, Except.bind, Functor.map,
    Except.map]

/-- The token is accepted at some time, for the audience that it tells. -/
def Genuine (s : Signer) (token : Json) (c : Claims) : Prop :=
  ∃ now, s.verify token (some c.audience) now = .ok c

theorem Genuine.whole (h : s.Genuine token c) : c.WholeSeconds := by
  obtain ⟨now, hv⟩ := h
  exact Claims.wholeSeconds_of_verify hv

theorem Genuine.truthy (h : s.Genuine token c) : token.truthy = true := by
  obtain ⟨now, hv⟩ := h
  obtain ⟨t, k, -, -, rfl, hk, -⟩ := verify_eq_ok.1 hv
  have hne : t ≠ "" := by
    rintro rfl
    simp [Compact.read, Text.cutLast] at hk
  simpa [Json.truthy, AnyText.isEmpty, AnyText.codes] using hne

theorem Genuine.verify_of_live (h : s.Genuine token c) (hlive : c.LiveAt now) :
    s.verify token (some c.audience) now = .ok c := by
  have hok := h.whole.checkExpiry.2 hlive
  obtain ⟨once, hv⟩ := h
  rw [verify_of_verify hv now, hok]
  rfl

theorem Genuine.verify_of_ended (h : s.Genuine token c) (hnow : now.offset.isSome = true)
    {e : DateTime} (he : c.expiresAt = some e) (hle : e.instant ≤ now.instant) :
    s.verify token (some c.audience) now = .error (expired c) := by
  have hended := checkExpiry_of_ended h.whole hnow he hle
  obtain ⟨once, hv⟩ := h
  rw [verify_of_verify hv now, hended]
  rfl

/-- The signer made the token from these claims, which name it as issuer. -/
structure Signed (s : Signer) (t : String) (c : Claims) : Prop where
  whole : c.WholeSeconds
  issuer : c.issuer = s.issuer
  sign : s.sign c = .ok t

/-- What a keyed signer signs is genuine: there is a time before every expiry. -/
theorem Signed.genuine {d : Digest} (halg : Algorithm.ofName? s.algorithm = some (.keyed d))
    (hsecret : Platform.usableSecret s.secret = true) {t : String} (h : s.Signed t c) :
    s.Genuine (.text t) c := by
  have hlive : c.LiveAt ⟨(c.expiresAt.elim 0 DateTime.instant) - 1, some 0⟩ := by
    intro e he
    simp [he]
  exact ⟨_, verify_of_sign halg hsecret h.whole h.issuer h.sign (by simp) hlive⟩

theorem Signed.unique {t : String} {c' : Claims} (h : s.Signed t c) (h' : s.Signed t c') : c = c' :=
  sign_injective h.whole h'.whole h.sign h'.sign

theorem Signed.signs {t : String} (h : s.Signed t c) : Signs s.algorithm s.secret := by
  obtain ⟨payload, -, hsigned⟩ := sign_eq_ok h.whole h.sign
  obtain ⟨sig, hsig, -⟩ := read_signPayload hsigned
  unfold signature at hsig
  split at hsig
  · cases hsig
  · next halg =>
    split at hsig
    · next hempty => exact .inr ⟨halg, hempty⟩
    · cases hsig
  · next d halg =>
    split at hsig
    · next husable => exact .inl ⟨d, halg, husable⟩
    · cases hsig

/-- Without a keyed hash the signer's own tokens have no signature that could be checked. -/
theorem Signed.verify_of_unsigned {t : String} (h : s.Signed t c)
    (halg : Algorithm.ofName? s.algorithm = some .unsigned) (hempty : s.secret = "")
    (audience : Option Audience) (now : DateTime) :
    s.verify (.text t) audience now =
      .error (.raise .invalidSignature "Invalid token signature") := by
  obtain ⟨payload, -, hsigned⟩ := sign_eq_ok h.whole h.sign
  obtain ⟨sig, -, hread⟩ := read_signPayload hsigned
  have hlookup : s.keys.lookup s.current = some s.secret := (Option.some_get _).symm
  have hkey : s.keyFor s.header = .ok s.secret := keyFor_eq_ok.2 ⟨rfl, s.current, rfl, hlookup⟩
  have hdetached : Compact.isDetached s.header = false := rfl
  have hown : s.algorithmOk s.header = true := algorithmOk_iff.2 rfl
  rw [verify_of_read hread hkey]
  simp only [checkSignature, hdetached, hown, halg, hempty, bind, Except.bind, Bool.not_true,
    Bool.or_self, Bool.false_eq_true, if_false, if_true]

end Signer

end Gatehouse
