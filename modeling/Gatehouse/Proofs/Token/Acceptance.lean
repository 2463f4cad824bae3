import Gatehouse.Proofs.Token.RoundTrip

/-!
What the acceptance of a token means for its text: which key it names, what its signature covers
and what its payload tells. `verify_checked` is the whole of it.
-/
namespace Gatehouse.Signer
open Text Hash

section
variable [Platform] {s : Signer}

/-- The text before the first dot tells the signer's algorithm and a key of the ring, which has
this secret. -/
def NamesKey (s : Signer) (t : List Char) (secret : String) : Prop :=
  ∃ (part rest : List Char) (header : Members) (kid : String),
    t = part ++ '.' :: rest ∧ '.' ∉ part ∧ Compact.Decodes part header ∧
    header.get? "alg" = some (.text s.algorithm) ∧ header.get? "kid" = some (.text kid) ∧
    s.keys.lookup kid = some secret

/-- The text behind the last dot is the keyed hash of all that stands before that dot. -/
def SignedUnder (s : Signer) (t : List Char) (secret : String) : Prop :=
  ∃ signed part d, t = signed ++ '.' :: part ∧ '.' ∉ part ∧
    Algorithm.ofName? s.algorithm = some (.keyed d) ∧
    Platform.readPart? part =
      some (hmac d (Utf8.encode secret.toList) (Utf8.encode signed))

/-- The text between these dots tells the claims, for the signer's own issuer. -/
def TellsClaims (s : Signer) (t : List Char) (c : Claims) : Prop :=
  ∃ before part behind payload, t = before ++ '.' :: part ++ '.' :: behind ∧ '.' ∉ before ∧
    '.' ∉ behind ∧ Compact.Decodes part payload ∧
    payload.get? "name" = some (.text c.principal) ∧
    payload.get? "sub" = some (.text c.subject) ∧
    payload.get? "aud" = some (.text c.audience.name) ∧
    payload.get? "iss" = some (.text s.issuer) ∧ c.issuer = s.issuer

/-- Everything that the acceptance of a token text for an audience at a time rests on. -/
structure Checked (s : Signer) (t : String) (audience : Option Audience) (now : DateTime)
    (c : Claims) : Prop where
  vouched : ∃ secret, s.NamesKey t.toList secret ∧ s.SignedUnder t.toList secret
  tells : s.TellsClaims t.toList c
  expected : ∀ a, audience = some a → c.audience = a
  unexpired : ∀ e, c.expiresAt = some e → now.instant < e.instant

theorem checked_of_verify {token : Json} {audience : Option Audience} {now : DateTime}
    {c : Claims} (h : s.verify token audience now = .ok c) :
    ∃ t : String, token = .text t ∧ s.Checked t audience now c := by
  obtain ⟨t, k, secret, payload, rfl, hk, hkey, hs, hp, hc, hclaims, he⟩ := verify_eq_ok.1 h
  obtain ⟨headerPart, payloadPart, signaturePart, htext, hsig, hsigned, hhead, hdec, hpay, hdsig⟩ :=
    Compact.read_eq_ok hk
  obtain ⟨halg, kid, hkid, hlookup⟩ := keyFor_eq_ok.1 hkey
  obtain ⟨-, -, d, hd, -, hmac⟩ := checkSignature_eq_ok.1 hs
  obtain ⟨text, hdet, hparse⟩ := Compact.object_eq_ok.1 hp
  obtain ⟨-, -, hiss, haud, -⟩ := checkPayload_eq_ok.1 hc
  obtain ⟨hname, hsub, haudience, hiss', -⟩ := Claims.ofPayload_eq_ok.1 hclaims
  have hissuer := issuerOk_iff.1 hiss
  have hissuer' : c.issuer = s.issuer := by
    rw [hissuer, Option.some.injEq, Json.text.injEq] at hiss'
    exact hiss'.symm
  have hfirst : t.toList = headerPart ++ '.' :: (payloadPart ++ '.' :: signaturePart) := by
    rw [htext, hsigned, List.append_assoc]
    rfl
  refine ⟨t, rfl, ⟨secret, ?_, ?_⟩, ?_, ?_, ?_⟩
  · exact ⟨headerPart, _, k.header, kid, hfirst, hhead, hdec, halg, hkid, hlookup⟩
  · exact ⟨k.signed, signaturePart, d, htext, hsig, hd, by rw [hdsig, hmac]⟩
  · exact ⟨headerPart, payloadPart, signaturePart, payload, by rw [htext, hsigned], hhead, hsig,
      ⟨k.payload, text, hpay, hdet, hparse⟩, hname, hsub, haudience, hissuer, hissuer'⟩
  · rintro a rfl
    exact ((audienceMatch_text haudience).1 haud).symm
  · intro e hexp
    exact (checkExpiry_eq_ok.1 he e hexp).2

/-- A payload has one audience, whatever the time and the audience that is expected. -/
theorem audience_eq_of_verify {token : Json} {audience audience' : Option Audience}
    {now now' : DateTime} {c c' : Claims} (h : s.verify token audience now = .ok c)
    (h' : s.verify token audience' now' = .ok c') : c.audience = c'.audience := by
  obtain ⟨t, k, -, payload, rfl, hk, -, -, hp, -, hclaims, -⟩ := verify_eq_ok.1 h
  obtain ⟨t', k', -, payload', ht, hk', -, -, hp', -, hclaims', -⟩ := verify_eq_ok.1 h'
  obtain rfl := AnyText.string.inj (Json.text.inj ht)
  obtain rfl := Except.ok.inj (hk.symm.trans hk')
  obtain rfl := Except.ok.inj (hp.symm.trans hp')
  have haud := (Claims.ofPayload_eq_ok.1 hclaims).2.2.1
  have haud' := (Claims.ofPayload_eq_ok.1 hclaims').2.2.1
  rw [haud, Option.some.injEq, Json.text.injEq, AnyText.string.injEq] at haud'
  exact Audience.name_injective haud'

/-- No token is accepted without every check, and each token is good for one audience only. -/
theorem verify_checked (s : Signer) (token : Json) :
    (∀ audience now c, s.verify token audience now = .ok c →
      ∃ t : String, token = .text t ∧ s.Checked t audience now c) ∧
    (∀ a b now now' c c', s.verify token (some a) now = .ok c →
      s.verify token (some b) now' = .ok c' → a = b) := by
  constructor
  · intro audience now c h
    exact checked_of_verify h
  · intro a b now now' c c' h h'
    obtain ⟨t, -, hc⟩ := checked_of_verify h
    obtain ⟨t', -, hc'⟩ := checked_of_verify h'
    rw [← hc.expected a rfl, ← hc'.expected b rfl]
    exact audience_eq_of_verify h h'

end

section
attribute [local instance] Platform.standard

/-- A session token of the sample signer passes the checks, and for no other audience. -/
theorem verify_checked_session :
    ∃ t c, sample.sign ⟨"ann", "7", .sessionAccess, "gatehouse", ⟨0, some 0⟩, none⟩ = .ok t ∧
      sample.verify (.text t) (some .sessionAccess) ⟨second, some 0⟩ = .ok c ∧
      sample.Checked t (some .sessionAccess) ⟨second, some 0⟩ c ∧
      ∀ b now c', sample.verify (.text t) (some b) now = .ok c' → Audience.sessionAccess = b := by
  obtain ⟨t, ht, hv⟩ := exists_sign_sample
  obtain ⟨u, hu, hchecked⟩ := (verify_checked sample (.text t)).1 _ _ _ hv
  obtain rfl := AnyText.string.inj (Json.text.inj hu)
  refine ⟨t, _, ht, hv, hchecked, ?_⟩
  intro b now c' h
  exact (verify_checked sample (.text t)).2 _ _ _ _ _ _ hv h

end

end Gatehouse.Signer
