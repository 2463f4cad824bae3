import Gatehouse.Proofs.Calendar.Reckoning
import Gatehouse.Proofs.Token.RoundTrip

/-!
How checking a token fails. Almost always it is an authentication failure. `Signer.Gap` lists what
is left: texts without a byte form, parts that are nested too deeply, and signed times that no
clock can hold; `Signer.gap_of_verify` says that there is nothing else.
-/
namespace Gatehouse
open Text Hash

namespace Claims
variable {payload : Members} {v : Json} {f : Fault}

/-- The value is a count of seconds that leaves 64 bits, or the clock of the system. -/
inductive Unreckonable : Json → Fault → Prop where
  | infinite (negative : Bool) : Unreckonable (.float (.infinite negative)) .outOfRange
  | wide {v : Json} {n : Int} (hn : integerOf v = .ok n)
      (h : n < -0x8000000000000000 ∨ 0x8000000000000000 ≤ n) : Unreckonable v .outOfRange
  | far {v : Json} {n : Int} (hn : integerOf v = .ok n)
      (hfits : -0x8000000000000000 ≤ n ∧ n < 0x8000000000000000)
      (h : n < DateTime.firstSystemSecond ∨ DateTime.lastSystemSecond < n) :
      Unreckonable v .beyondSystemClock

theorem Unreckonable.fault_eq (h : Unreckonable v f) :
    f = .outOfRange ∨ f = .beyondSystemClock := by
  cases h with
  | infinite => exact .inl rfl
  | wide => exact .inl rfl
  | far => exact .inr rfl

theorem Unreckonable.not_isBadStructure (h : Unreckonable v f) : f.isBadStructure = false := by
  obtain rfl | rfl := h.fault_eq <;> rfl

theorem integerOf_eq_error (h : integerOf v = .error f) :
    f.isBadStructure = true ∨ ∃ negative, v = .float (.infinite negative) ∧ f = .outOfRange := by
  unfold integerOf at h
  split at h
  · cases h
  · cases h
  · split at h
    · cases h
      exact .inl rfl
    · next negative =>
      cases h
      exact .inr ⟨negative, rfl, rfl⟩
    · cases h
  · split at h
    · cases h
    · cases h
      exact .inl rfl
  · cases h
    exact .inl rfl

/-- A time is refused as a bad structure, unless its count of seconds cannot be reckoned with. -/
theorem timeOf_eq_error : timeOf v = .error f ∧ f.isBadStructure = false ↔ Unreckonable v f := by
  constructor
  · rintro ⟨h, hf⟩
    obtain h | ⟨n, hn, h⟩ := bind_eq_error.1 h
    · obtain hbad | ⟨negative, rfl, rfl⟩ := integerOf_eq_error h
      · rw [hbad] at hf
        cases hf
      · exact .infinite negative
    · unfold DateTime.ofNumericDate at h
      split_ifs at h with hwide hfar hrange
      · cases h
        exact .wide hn hwide
      · cases h
        exact .far hn (by omega) hfar
      · cases h
        cases hf
  · intro h
    refine ⟨?_, h.not_isBadStructure⟩
    cases h with
    | infinite negative => rfl
    | wide hn h =>
      refine bind_eq_error.2 (.inr ⟨_, hn, ?_⟩)
      rw [DateTime.ofNumericDate, if_pos h]
    | far hn hfits h =>
      refine bind_eq_error.2 (.inr ⟨_, hn, ?_⟩)
      rw [DateTime.ofNumericDate, if_neg (by omega), if_pos h]

/-- The payload tells an audience, and its first time that cannot be read is one that cannot be
reckoned with. -/
inductive Mistimed (payload : Members) : Fault → Prop where
  | issued {audience : Audience} {iat : Json} {f : Fault}
      (haud : payload.get? "aud" = some (.text audience.name))
      (hiat : payload.get? "iat" = some iat) (h : Unreckonable iat f) : Mistimed payload f
  | expires {audience : Audience} {iat exp : Json} {issuedAt : DateTime} {f : Fault}
      (haud : payload.get? "aud" = some (.text audience.name))
      (hiat : payload.get? "iat" = some iat) (hissued : timeOf iat = .ok issuedAt)
      (hexp : payload.get? "exp" = some exp) (h : Unreckonable exp f) : Mistimed payload f

theorem Mistimed.fault_eq (h : Mistimed payload f) : f = .outOfRange ∨ f = .beyondSystemClock := by
  cases h with
  | issued _ _ h => exact h.fault_eq
  | expires _ _ _ _ h => exact h.fault_eq

theorem Mistimed.not_isBadStructure (h : Mistimed payload f) : f.isBadStructure = false := by
  obtain rfl | rfl := h.fault_eq <;> rfl

theorem isBadStructure_of_ofFields {principal subject issuer : Except FieldError AnyText}
    {audience : Except FieldError Audience} {issuedAt : DateTime} {expiresAt : Option DateTime}
    (h : ofFields principal subject issuer audience issuedAt expiresAt = .error f) :
    f.isBadStructure = true := by
  unfold ofFields at h
  split at h
  · cases h
  · cases h
    rfl

theorem isBadStructure_of_audienceOf (h : audienceOf v = .error f) : f.isBadStructure = true := by
  unfold audienceOf at h
  split at h
  · cases h
  · cases h
    rfl

theorem expiryOf_eq_error : expiryOf payload = .error f ∧ f.isBadStructure = false ↔
    ∃ exp, payload.get? "exp" = some exp ∧ Unreckonable exp f := by
  have hnull : ¬ Unreckonable .null f := by
    intro h
    cases (timeOf_eq_error.2 h).1
    cases h.not_isBadStructure
  unfold expiryOf
  split
  · next h => simp [h]
  · next h => simp [h, hnull]
  · next exp _ h => simp [h, map_eq_error, timeOf_eq_error]

/-- A payload with every required claim is refused as a bad structure, unless it is mistimed. -/
theorem ofPayload_eq_error (hrequired : Signer.requiredClaims.all (Signer.present payload) = true) :
    ofPayload payload = .error f ∧ f.isBadStructure = false ↔ Mistimed payload f := by
  have hmember (name : String) (hname : name ∈ Signer.requiredClaims) :
      ∃ v, payload.get? name = some v := by
    have hpresent := List.all_eq_true.1 hrequired name hname
    unfold Signer.present at hpresent
    split at hpresent
    · cases hpresent
    · cases hpresent
    · next v _ h => exact ⟨v, h⟩
  obtain ⟨name, hname⟩ := hmember "name" (by decide)
  obtain ⟨sub, hsub⟩ := hmember "sub" (by decide)
  obtain ⟨aud, haud⟩ := hmember "aud" (by decide)
  obtain ⟨iss, hiss⟩ := hmember "iss" (by decide)
  obtain ⟨iat, hiat⟩ := hmember "iat" (by decide)
  have hread : ofPayload payload = (do
      let audience ← audienceOf aud
      let issuedAt ← timeOf iat
      let expiresAt ← expiryOf payload
      ofFields (textField "principal" name) (textField "subject" sub) (textField "issuer" iss)
        (.ok audience) issuedAt expiresAt) := by
    simp only [ofPayload, member_eq_ok.2 hname, member_eq_ok.2 hsub, member_eq_ok.2 haud,
      member_eq_ok.2 hiss, member_eq_ok.2 hiat, bind, Except.bind]
  rw [hread]
  constructor
  · rintro ⟨h, hf⟩
    obtain haudience | ⟨audience, haudience, htimes⟩ := bind_eq_error.1 h
    · rw [isBadStructure_of_audienceOf haudience] at hf
      cases hf
    rw [audienceOf_eq_ok.1 haudience] at haud
    obtain hissued | ⟨issuedAt, hissued, hexpiry⟩ := bind_eq_error.1 htimes
    · exact .issued haud hiat (timeOf_eq_error.1 ⟨hissued, hf⟩)
    obtain hexpires | ⟨expiresAt, -, hfields⟩ := bind_eq_error.1 hexpiry
    · obtain ⟨exp, hexp, hexpires⟩ := expiryOf_eq_error.1 ⟨hexpires, hf⟩
      exact .expires haud hiat hissued hexp hexpires
    · rw [isBadStructure_of_ofFields hfields] at hf
      cases hf
  · intro h
    refine ⟨?_, h.not_isBadStructure⟩
    cases h with
    | issued haud' hiat' h =>
      obtain rfl := Option.some.inj (haud.symm.trans haud')
      obtain rfl := Option.some.inj (hiat.symm.trans hiat')
      refine bind_eq_error.2 (.inr ⟨_, audienceOf_eq_ok.2 rfl, ?_⟩)
      exact bind_eq_error.2 (.inl (timeOf_eq_error.2 h).1)
    | expires haud' hiat' hissued hexp h =>
      obtain rfl := Option.some.inj (haud.symm.trans haud')
      obtain rfl := Option.some.inj (hiat.symm.trans hiat')
      refine bind_eq_error.2 (.inr ⟨_, audienceOf_eq_ok.2 rfl, ?_⟩)
      refine bind_eq_error.2 (.inr ⟨_, hissued, ?_⟩)
      exact bind_eq_error.2 (.inl (expiryOf_eq_error.2 ⟨_, hexp, h⟩).1)

end Claims

namespace Signer
variable {s : Signer} {token : Json} {audience : Option Audience} {now : DateTime} {f : Fault}

/-! ### Each check -/

theorem malformed_ne (hf : f.isUnauthorized = false) (message : String) :
    malformed message ≠ f := by
  rintro rfl
  cases hf

theorem isUnauthorized_of_keyFor {header : Members} (h : s.keyFor header = .error f) :
    f.isUnauthorized = true := by
  unfold keyFor at h
  dsimp only at h
  split at h
  · cases h
    rfl
  · split at h
    · cases h
    · cases h
      rfl

theorem isUnauthorized_of_checkPayload {payload : Members}
    (h : s.checkPayload payload audience = .error f) : f.isUnauthorized = true := by
  unfold checkPayload at h
  split at h
  · cases h
    rfl
  · split at h
    · cases h
      rfl
    · split at h
      · cases h
        rfl
      · cases hmatch : expectedMatch payload audience with
        | absent =>
          rw [hmatch] at h
          cases h
          rfl
        | other =>
          rw [hmatch] at h
          cases h
          rfl
        | same =>
          rw [hmatch] at h
          dsimp only at h
          split at h
          · cases h
          · cases h
            rfl

theorem isUnauthorized_of_checkExpiry {c : Claims} (hc : c.WholeSeconds)
    (hnow : now.offset.isSome = true) (h : checkExpiry c now = .error f) :
    f.isUnauthorized = true := by
  unfold checkExpiry at h
  split at h
  · cases h
  · next e he =>
    rw [DateTime.notAfter_of_aware (hc.expiresAt e he).aware hnow] at h
    simp only [bind, Except.bind] at h
    split at h
    · cases h
      rfl
    · cases h

theorem claimsOf_eq_error (hf : f.isUnauthorized = false) {payload : Members} :
    claimsOf payload = .error f ↔
      Claims.ofPayload payload = .error f ∧ f.isBadStructure = false := by
  have hmalformed := malformed_ne hf "Invalid token structure"
  unfold claimsOf
  cases h : Claims.ofPayload payload with
  | ok c => simp
  | error e =>
    by_cases he : e.isBadStructure = true
    · simp only [he, if_true, Except.error.injEq, hmalformed, false_iff, not_and]
      rintro rfl
      simp [he]
    · simp only [he, Bool.false_eq_true, if_false, Except.error.injEq]
      constructor
      · rintro rfl
        exact ⟨rfl, by simpa using he⟩
      · exact And.left

variable [Platform]

theorem takeApart_eq_error (hf : f.isUnauthorized = false) {message : String} :
    takeApart message token = .error f ↔
      (∃ codes h, token = .text (.unpaired codes h) ∧ f = .unencodable) ∨
      ∃ t : String, token = .text t ∧ Compact.read t.toList = .error .tooDeep ∧ f = .tooDeep := by
  have hmalformed := malformed_ne hf message
  unfold takeApart
  split
  · next t =>
    cases h : Compact.read t.toList with
    | ok k => simp [h]
    | error e =>
      cases e with
      | malformed => simp [h, hmalformed]
      | tooDeep =>
        constructor
        · exact fun heq => .inr ⟨t, rfl, h, (Except.error.inj heq).symm⟩
        · rintro (⟨codes, hcodes, ht, -⟩ | ⟨t', ht, -, rfl⟩)
          · cases ht
          · simp
  · next codes hcodes =>
    constructor
    · exact fun heq => .inl ⟨codes, hcodes, rfl, (Except.error.inj heq).symm⟩
    · rintro (⟨codes', hcodes', -, rfl⟩ | ⟨t, ht, -⟩)
      · rfl
      · cases ht
  · next htext hunpaired =>
    simp only [Except.error.injEq, hmalformed, false_iff, not_or, not_exists, not_and]
    exact ⟨fun codes h heq => absurd heq (hunpaired codes h), fun t heq => absurd heq (htext t)⟩

theorem readHeader_eq_error (hf : f.isUnauthorized = false) :
    readHeader token = .error f ↔
      (∃ codes h, token = .text (.unpaired codes h) ∧ f = .unencodable) ∨
      ∃ t : String, token = .text t ∧ Compact.read t.toList = .error .tooDeep ∧ f = .tooDeep := by
  have hempty := malformed_ne hf "Token is empty"
  have hnone : Compact.read [] ≠ .error .tooDeep := by simp [Compact.read, cutLast]
  unfold readHeader
  split
  · simp [hempty, hnone]
  · rw [map_eq_error, takeApart_eq_error hf]
  · next htext =>
    simp only [Except.error.injEq, hempty, false_iff, not_or, not_exists, not_and]
    exact ⟨fun codes h heq => absurd heq (htext _), fun t heq => absurd heq (htext _)⟩

theorem isUnauthorized_of_checkSignature {d : Digest}
    (halg : Algorithm.ofName? s.algorithm = some (.keyed d)) {secret : String}
    (hsecret : Platform.usableSecret secret = true) {k : Compact}
    (h : s.checkSignature secret k = .error f) : f.isUnauthorized = true := by
  unfold checkSignature at h
  split at h
  · cases h
    rfl
  · simp only [signature, halg, hsecret, if_true, bind, Except.bind] at h
    split at h
    · cases h
    · cases h
      rfl

theorem payloadOf_eq_error (hf : f.isUnauthorized = false) {k : Compact} :
    payloadOf k = .error f ↔ Compact.object k.payload = .error .tooDeep ∧ f = .tooDeep := by
  have hmalformed := malformed_ne hf "Malformed token"
  unfold payloadOf
  split
  · next h => simp [h]
  · next h => simp [h, hmalformed]
  · next h => simp [h, eq_comm]

/-! ### All checks together -/

/-- The text comes apart, and a key of the ring signed it. -/
structure Authentic (s : Signer) (t : String) (k : Compact) : Prop where
  read : Compact.read t.toList = .ok k
  signed : ∃ secret, s.keyFor k.header = .ok secret ∧ s.checkSignature secret k = .ok ()

/-- The tokens whose check fails with something else than an authentication failure. -/
inductive Gap (s : Signer) (audience : Option Audience) : Json → Fault → Prop where
  | unpaired (codes : List Nat) (h : isUnpaired codes = true) :
      Gap s audience (.text (.unpaired codes h)) .unencodable
  | header {t : String} (hdeep : Compact.read t.toList = .error .tooDeep) :
      Gap s audience (.text t) .tooDeep
  | payload {t : String} {k : Compact} (h : s.Authentic t k)
      (hdeep : Compact.object k.payload = .error .tooDeep) : Gap s audience (.text t) .tooDeep
  | times {t : String} {k : Compact} {payload : Members} {f : Fault} (h : s.Authentic t k)
      (hobject : Compact.object k.payload = .ok payload)
      (hchecked : s.checkPayload payload audience = .ok ()) (htimes : Claims.Mistimed payload f) :
      Gap s audience (.text t) f

theorem Gap.not_isUnauthorized (h : s.Gap audience token f) : f.isUnauthorized = false := by
  cases h with
  | unpaired => rfl
  | header => rfl
  | payload => rfl
  | times _ _ _ htimes => obtain rfl | rfl := htimes.fault_eq <;> rfl

theorem Gap.verify_eq (h : s.Gap audience token f) (now : DateTime) :
    s.verify token audience now = .error f := by
  have hf := h.not_isUnauthorized
  cases h with
  | unpaired codes h => exact bind_eq_error.2 (.inl rfl)
  | header hdeep =>
    exact bind_eq_error.2 (.inl ((readHeader_eq_error hf).2 (.inr ⟨_, rfl, hdeep, rfl⟩)))
  | payload h hdeep =>
    obtain ⟨hread, secret, hkey, hsigned⟩ := h
    rw [verify_of_read hread hkey]
    refine bind_eq_error.2 (.inr ⟨(), hsigned, ?_⟩)
    exact bind_eq_error.2 (.inl ((payloadOf_eq_error hf).2 ⟨hdeep, rfl⟩))
  | times h hobject hchecked htimes =>
    obtain ⟨hread, secret, hkey, hsigned⟩ := h
    have hclaims := (claimsOf_eq_error hf).2
      ((Claims.ofPayload_eq_error (checkPayload_eq_ok.1 hchecked).1).2 htimes)
    rw [verify_of_read hread hkey]
    refine bind_eq_error.2 (.inr ⟨(), hsigned, ?_⟩)
    refine bind_eq_error.2 (.inr ⟨_, payloadOf_eq_ok.2 hobject, ?_⟩)
    refine bind_eq_error.2 (.inr ⟨(), hchecked, ?_⟩)
    exact bind_eq_error.2 (.inl hclaims)

/-- With usable keys nothing but a gap is left beside the authentication failures. -/
theorem gap_of_verify {d : Digest} (halg : Algorithm.ofName? s.algorithm = some (.keyed d))
    (hring : ∀ kid secret, s.keys.lookup kid = some secret → Platform.usableSecret secret = true)
    (hnow : now.offset.isSome = true) (h : s.verify token audience now = .error f)
    (hf : f.isUnauthorized = false) : s.Gap audience token f := by
  obtain hheader | ⟨header, hheader, hkeys⟩ := bind_eq_error.1 h
  · obtain ⟨codes, hcodes, rfl, rfl⟩ | ⟨t, rfl, hdeep, rfl⟩ := (readHeader_eq_error hf).1 hheader
    · exact .unpaired codes hcodes
    · exact .header hdeep
  obtain ⟨t, k, rfl, hread, rfl⟩ := readHeader_eq_ok.1 hheader
  obtain hkey | ⟨secret, hkey, -⟩ := bind_eq_error.1 hkeys
  · rw [isUnauthorized_of_keyFor hkey] at hf
    cases hf
  obtain ⟨-, kid, -, hlookup⟩ := keyFor_eq_ok.1 hkey
  have husable := hring kid secret hlookup
  rw [verify_of_read hread hkey] at h
  obtain hsignature | ⟨⟨⟩, hsigned, hpayloads⟩ := bind_eq_error.1 h
  · rw [isUnauthorized_of_checkSignature halg husable hsignature] at hf
    cases hf
  have hauthentic : s.Authentic t k := ⟨hread, secret, hkey, hsigned⟩
  obtain hpayload | ⟨payload, hpayload, hchecks⟩ := bind_eq_error.1 hpayloads
  · obtain ⟨hdeep, rfl⟩ := (payloadOf_eq_error hf).1 hpayload
    exact .payload hauthentic hdeep
  obtain hcheck | ⟨⟨⟩, hcheck, hbuilt⟩ := bind_eq_error.1 hchecks
  · rw [isUnauthorized_of_checkPayload hcheck] at hf
    cases hf
  obtain hclaims | ⟨c, hclaims, hexpiry⟩ := bind_eq_error.1 hbuilt
  · have htimes := (Claims.ofPayload_eq_error (checkPayload_eq_ok.1 hcheck).1).1
      ((claimsOf_eq_error hf).1 hclaims)
    exact .times hauthentic (payloadOf_eq_ok.1 hpayload) hcheck htimes
  obtain hexpired | ⟨⟨⟩, -, hok⟩ := bind_eq_error.1 hexpiry
  · have hc := Claims.wholeSeconds_ofPayload (claimsOf_eq_ok.1 hclaims)
    rw [isUnauthorized_of_checkExpiry hc hnow hexpired] at hf
    cases hf
  · cases hok

end Signer
end Gatehouse
