import Gatehouse.Proofs.Calendar.NumericDate
import Gatehouse.Proofs.Token.Compact
import Gatehouse.Token.Signer

/-!
When a token is accepted. Every check of `Signer.verify` has one lemma that tells when it
succeeds, and `verify_eq_ok` puts them together.
-/
namespace Gatehouse
open Text Hash

namespace Audience

theorem ofName?_eq_some {s : String} {a : Audience} : ofName? s = some a ↔ s = a.name := by
  constructor
  · intro h
    exact (name_of_ofName? h).symm
  · rintro rfl
    exact ofName?_name a

theorem ofJson?_eq_some {v : Json} {a : Audience} : ofJson? v = some a ↔ v = .text a.name := by
  unfold ofJson?
  split
  · next s => simp [ofName?_eq_some]
  · next h =>
    simp only [reduceCtorEq, false_iff]
    exact h a.name

theorem name_injective {a b : Audience} (h : a.name = b.name) : a = b :=
  Option.some.inj ((ofName?_name a).symm.trans (ofName?_eq_some.2 h))

end Audience

namespace Claims

theorem textField_eq_ok {name : String} {v : Json} {t : AnyText} :
    textField name v = .ok t ↔ v = .text t := by
  unfold textField
  cases v <;> simp

theorem ofFields_eq_ok {principal subject issuer : Except FieldError AnyText}
    {audience : Except FieldError Audience} {issuedAt : DateTime} {expiresAt : Option DateTime}
    {c : Claims} :
    ofFields principal subject issuer audience issuedAt expiresAt = .ok c ↔
      principal = .ok c.principal ∧ subject = .ok c.subject ∧ issuer = .ok c.issuer ∧
        audience = .ok c.audience ∧ issuedAt = c.issuedAt ∧ expiresAt = c.expiresAt := by
  obtain ⟨p, s, a, i, iat, exp⟩ := c
  cases principal <;> cases subject <;> cases issuer <;> cases audience <;> simp [ofFields]
  tauto

theorem member_eq_ok {payload : Members} {name : String} {v : Json} :
    member payload name = .ok v ↔ payload.get? name = some v := by
  unfold member
  split <;> simp [*]

theorem audienceOf_eq_ok {v : Json} {a : Audience} :
    audienceOf v = .ok a ↔ v = .text a.name := by
  rw [← Audience.ofJson?_eq_some]
  unfold audienceOf
  split <;> simp [*]

/-- Claims are read from members that tell each of them. -/
theorem ofPayload_eq_ok {payload : Members} {c : Claims} :
    ofPayload payload = .ok c ↔
      payload.get? "name" = some (.text c.principal) ∧
      payload.get? "sub" = some (.text c.subject) ∧
      payload.get? "aud" = some (.text c.audience.name) ∧
      payload.get? "iss" = some (.text c.issuer) ∧
      (∃ iat, payload.get? "iat" = some iat ∧ timeOf iat = .ok c.issuedAt) ∧
      expiryOf payload = .ok c.expiresAt := by
  simp only [ofPayload, bind_eq_ok, member_eq_ok, audienceOf_eq_ok, ofFields_eq_ok,
    textField_eq_ok]
  constructor
  · rintro ⟨name, hname, sub, hsub, aud, haud, a, rfl, iss, hiss, iat, hiat, issuedAt, ht, exp,
      hexp, rfl, rfl, rfl, h, rfl, rfl⟩
    obtain rfl := Except.ok.inj h
    exact ⟨hname, hsub, haud, hiss, ⟨iat, hiat, ht⟩, hexp⟩
  · rintro ⟨hname, hsub, haud, hiss, ⟨iat, hiat, ht⟩, hexp⟩
    exact ⟨_, hname, _, hsub, _, haud, _, rfl, _, hiss, iat, hiat, _, ht, _, hexp, rfl, rfl, rfl,
      rfl, rfl, rfl⟩

end Claims

namespace Signer
variable {s : Signer}

theorem text?_eq_some {v : Json} {t : String} : v.text? = some t ↔ v = .text t := by
  cases v with
  | text u => cases u <;> simp [Json.text?, AnyText.string?]
  | _ => simp [Json.text?]

theorem text?_get? {ms : Members} {name t : String} :
    ((ms.get? name).getD .null).text? = some t ↔ ms.get? name = some (.text t) := by
  cases ms.get? name with
  | none => simp [Json.text?]
  | some v => simp [text?_eq_some]

/-- A header names the signer's algorithm and a key of the ring. -/
theorem keyFor_eq_ok {header : Members} {secret : String} :
    s.keyFor header = .ok secret ↔ header.get? "alg" = some (.text s.algorithm) ∧
      ∃ kid : String, header.get? "kid" = some (.text kid) ∧ s.keys.lookup kid = some secret := by
  unfold keyFor
  dsimp only
  split
  · next h =>
    rw [ne_eq, text?_get?] at h
    simp [h]
  · next h =>
    rw [ne_eq, text?_get?, not_not] at h
    rw [and_iff_right h]
    simp only [← text?_get?]
    cases ((header.get? "kid").getD .null).text? with
    | none => simp
    | some kid => cases hk : s.keys.lookup kid <;> simp [hk]

theorem algorithmOk_iff {header : Members} :
    s.algorithmOk header = true ↔ header.get? "alg" = some (.text s.algorithm) := by
  unfold algorithmOk
  split
  · next h => simp [h]
  · next h =>
    simp only [Bool.false_eq_true, false_iff]
    exact h s.algorithm

/-- The conditions on a payload, as a whole. -/
theorem checkPayload_eq_ok {payload : Members} {audience : Option Audience} :
    s.checkPayload payload audience = .ok () ↔
      requiredClaims.all (present payload) = true ∧ startOk payload s.machineTime = true ∧
      issuerOk payload s.issuer = true ∧ expectedMatch payload audience = .same ∧
      textOk payload "sub" = true ∧ textOk payload "jti" = true := by
  unfold checkPayload
  split
  · next h => simp_all
  · next h =>
    split
    · next h => simp_all
    · next h =>
      split
      · next h => simp_all
      · next h =>
        cases expectedMatch payload audience with
        | absent => simp
        | other => simp
        | same => split <;> simp_all

theorem claimsOf_eq_ok {payload : Members} {c : Claims} :
    claimsOf payload = .ok c ↔ Claims.ofPayload payload = .ok c := by
  unfold claimsOf
  split <;> simp [*]

/-- Claims are in time when they have no expiry, or one that is after the given time. -/
theorem checkExpiry_eq_ok {c : Claims} {now : DateTime} :
    checkExpiry c now = .ok () ↔ ∀ e, c.expiresAt = some e →
      e.offset.isSome = now.offset.isSome ∧ now.instant < e.instant := by
  unfold checkExpiry
  cases c.expiresAt with
  | none => simp
  | some e =>
    simp only [Option.some.injEq, forall_eq', DateTime.notAfter, DateTime.since]
    split
    · next h =>
      simp only [Functor.map, Except.map, bind, Except.bind, decide_eq_true_eq, h, true_and]
      split
      · next hle =>
        simp only [reduceCtorEq, false_iff]
        omega
      · next hle =>
        simp only [true_iff]
        omega
    · next h => simp [h, Functor.map, Except.map, bind, Except.bind]

theorem issuerOk_iff {payload : Members} {issuer : String} :
    issuerOk payload issuer = true ↔ payload.get? "iss" = some (.text issuer) := by
  unfold issuerOk
  split
  · next h => simp [h]
  · next h =>
    simp only [Bool.false_eq_true, false_iff]
    exact h issuer

theorem audienceMatch_text {payload : Members} {a b : Audience}
    (h : payload.get? "aud" = some (.text a.name)) :
    audienceMatch payload b = .same ↔ b = a := by
  unfold audienceMatch
  rw [h]
  cases a <;> cases b <;> decide

variable [Platform]

theorem takeApart_eq_ok {message : String} {token : Json} {k : Compact} :
    takeApart message token = .ok k ↔
      ∃ t : String, token = .text t ∧ Compact.read t.toList = .ok k := by
  unfold takeApart
  split
  · next t =>
    cases h : Compact.read t.toList with
    | ok k' => simp [h]
    | error e => cases e <;> simp [h]
  · simp
  · next h _ =>
    simp only [reduceCtorEq, false_iff]
    rintro ⟨t, rfl, -⟩
    exact h t rfl

theorem readHeader_eq_ok {token : Json} {header : Members} :
    readHeader token = .ok header ↔
      ∃ (t : String) (k : Compact), token = .text t ∧ Compact.read t.toList = .ok k ∧
        k.header = header := by
  have hempty : ∀ k, Compact.read "".toList ≠ .ok k := by
    intro k h
    exact absurd h (by simp [Compact.read, cutLast])
  unfold readHeader
  split
  · simp only [reduceCtorEq, false_iff]
    rintro ⟨t, k, ht, hk, -⟩
    obtain rfl := AnyText.string.inj (Json.text.inj ht)
    exact hempty k hk
  · simp only [map_eq_ok, takeApart_eq_ok]
    constructor
    · rintro ⟨k, ⟨u, hu, hk⟩, h⟩
      exact ⟨u, k, hu, hk, h⟩
    · rintro ⟨u, k, hu, hk, h⟩
      exact ⟨k, ⟨u, hu, hk⟩, h⟩
  · next h =>
    simp only [reduceCtorEq, false_iff]
    rintro ⟨t, k, rfl, -⟩
    exact h t rfl

/-- A signature that is accepted is the keyed hash of the signed text under a usable secret. -/
theorem checkSignature_eq_ok {secret : String} {k : Compact} :
    s.checkSignature secret k = .ok () ↔
      Compact.isDetached k.header = false ∧ k.header.get? "alg" = some (.text s.algorithm) ∧
      ∃ d, Algorithm.ofName? s.algorithm = some (.keyed d) ∧ Platform.usableSecret secret = true ∧
        k.signature = hmac d (Utf8.encode secret.toList) (Utf8.encode k.signed) := by
  rw [← algorithmOk_iff]
  unfold checkSignature
  split
  · next h =>
    simp only [reduceCtorEq, false_iff]
    rintro ⟨hd, ha, -⟩
    simp [hd, ha] at h
  · next h =>
    simp only [Bool.not_eq_true, Bool.or_eq_false_iff, Bool.not_eq_false'] at h
    rw [and_iff_right h.1, and_iff_right h.2]
    cases halg : Algorithm.ofName? s.algorithm with
    | none => simp
    | some a =>
      cases a with
      | unsigned =>
        simp only [Option.some.injEq, reduceCtorEq, false_and, exists_false, iff_false]
        split <;> simp
      | keyed d =>
        simp only [signature, halg, Option.some.injEq, Algorithm.keyed.injEq, exists_eq_left']
        by_cases hu : Platform.usableSecret secret = true
        · simp only [hu, if_true, bind, Except.bind, true_and]
          split <;> simp_all
        · simp [hu, bind, Except.bind]

theorem payloadOf_eq_ok {k : Compact} {payload : Members} :
    payloadOf k = .ok payload ↔ Compact.object k.payload = .ok payload := by
  unfold payloadOf
  split <;> simp [*]

theorem decode_eq_ok {secret : String} {token : Json} {audience : Option Audience}
    {payload : Members} :
    s.decode secret token audience = .ok payload ↔
      ∃ (t : String) (k : Compact), token = .text t ∧ Compact.read t.toList = .ok k ∧
        s.checkSignature secret k = .ok () ∧
        Compact.object k.payload = .ok payload ∧ s.checkPayload payload audience = .ok () := by
  simp only [decode, bind_eq_ok, takeApart_eq_ok, payloadOf_eq_ok]
  constructor
  · rintro ⟨k, ⟨t, ht, hk⟩, ⟨⟩, hs, p, hp, ⟨⟩, hc, h⟩
    obtain rfl := Except.ok.inj h
    exact ⟨t, k, ht, hk, hs, hp, hc⟩
  · rintro ⟨t, k, ht, hk, hs, hp, hc⟩
    exact ⟨k, ⟨t, ht, hk⟩, (), hs, payload, hp, (), hc, rfl⟩

/-- A token is accepted when every check succeeds; both readings of its text agree. -/
theorem verify_eq_ok {token : Json} {audience : Option Audience} {now : DateTime} {c : Claims} :
    s.verify token audience now = .ok c ↔
      ∃ (t : String) (k : Compact) (secret : String) (payload : Members),
        token = .text t ∧ Compact.read t.toList = .ok k ∧
        s.keyFor k.header = .ok secret ∧ s.checkSignature secret k = .ok () ∧
        Compact.object k.payload = .ok payload ∧ s.checkPayload payload audience = .ok () ∧
        Claims.ofPayload payload = .ok c ∧ checkExpiry c now = .ok () := by
  simp only [verify, bind_eq_ok, readHeader_eq_ok, decode_eq_ok, claimsOf_eq_ok]
  constructor
  · rintro ⟨header, ⟨t, k, rfl, hk, rfl⟩, secret, hkey, payload, ⟨t', k', ht', hk', hs, hp, hc⟩,
      claims, hclaims, ⟨⟩, he, h⟩
    obtain rfl := AnyText.string.inj (Json.text.inj ht')
    obtain rfl := Except.ok.inj (hk.symm.trans hk')
    obtain rfl := Except.ok.inj h
    exact ⟨t, k, secret, payload, rfl, hk, hkey, hs, hp, hc, hclaims, he⟩
  · rintro ⟨t, k, secret, payload, rfl, hk, hkey, hs, hp, hc, hclaims, he⟩
    exact ⟨k.header, ⟨t, k, rfl, hk, rfl⟩, secret, hkey, payload, ⟨t, k, rfl, hk, hs, hp, hc⟩, c,
      hclaims, (), he, rfl⟩

/-- What is left to check when a text comes apart and names a key of the ring. -/
theorem verify_of_read {t : String} {k : Compact} {secret : String}
    (hread : Compact.read t.toList = .ok k) (hkey : s.keyFor k.header = .ok secret)
    (audience : Option Audience) (now : DateTime) :
    s.verify (.text t) audience now = (do
      s.checkSignature secret k
      let payload ← payloadOf k
      s.checkPayload payload audience
      let claims ← claimsOf payload
      checkExpiry claims now
      .ok claims) := by
  have hheader : readHeader (.text t) = .ok k.header := readHeader_eq_ok.2 ⟨t, k, rfl, hread, rfl⟩
  have happart : takeApart "Malformed token" (.text t) = .ok k :=
    takeApart_eq_ok.2 ⟨t, rfl, hread⟩
  simp only [verify, decode, hheader, hkey, happart, bind, Except.bind]
  cases s.checkSignature secret k with
  | error f => rfl
  | ok _ =>
    cases payloadOf k with
    | error f => rfl
    | ok payload =>
      dsimp only
      cases s.checkPayload payload audience <;> rfl

/-- A signer with one key. -/
def sample : Signer := ⟨[("first", "a secret")], "first", "HS256", "gatehouse", 0, by decide⟩

end Signer

end Gatehouse
