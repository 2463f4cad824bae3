import Gatehouse.Proofs.Token.RoundTrip

/-!
Key rotation. Checking a token looks at the ring only for the key that the header names, and never
at the key that signs. So a ring that keeps the keys of another one gives every token the same
outcome, unless the token names a key that is new: `verify_rotation`.
-/
namespace Gatehouse.Signer

section
variable {s s' : Signer} {token : Json} {header : Members} {audience : Option Audience}
  {now : DateTime}

/-- The second signer has the keys of the first one under the same ids, and perhaps more. Which of
its keys a signer signs with is left open. -/
structure Extends (s s' : Signer) : Prop where
  algorithm : s'.algorithm = s.algorithm
  issuer : s'.issuer = s.issuer
  machineTime : s'.machineTime = s.machineTime
  keys : ∀ id secret, s.keys.lookup id = some secret → s'.keys.lookup id = some secret

/-- The failure of a token that names no key of the ring. -/
def unknownKey (kid : Json) : Fault :=
  .raise .unknownKeyVersion "Unknown token key version" (some [("kid", kid)])

/-! ### The key that a header names -/

/-- A header with the signer's algorithm gets the key that it names, or is told that there is none.
-/
theorem keyFor_of_algorithm (halg : header.get? "alg" = some (.text s.algorithm)) :
    (∃ id secret : String, header.get? "kid" = some (.text id) ∧
        s.keys.lookup id = some secret ∧ s.keyFor header = .ok secret) ∨
      (∀ id : String, (header.get? "kid").getD .null = .text id → s.keys.lookup id = none) ∧
        s.keyFor header = .error (unknownKey ((header.get? "kid").getD .null)) := by
  have hown : ((header.get? "alg").getD .null).text? = some s.algorithm := text?_get?.2 halg
  unfold keyFor
  dsimp only
  rw [if_neg (not_not.2 hown)]
  cases hkid : ((header.get? "kid").getD .null).text? with
  | none =>
    refine .inr ⟨?_, rfl⟩
    intro id hid
    rw [hid] at hkid
    cases hkid
  | some id =>
    have htext : (header.get? "kid").getD .null = .text id := text?_eq_some.1 hkid
    cases hlookup : s.keys.lookup id with
    | none =>
      refine .inr ⟨?_, by simp only [Option.bind_some, hlookup]; rfl⟩
      intro other hother
      rw [htext] at hother
      rwa [← AnyText.string.inj (Json.text.inj hother)]
    | some secret =>
      exact .inl ⟨id, secret, text?_get?.1 hkid, hlookup, by simp only [Option.bind_some, hlookup]⟩

/-- Another algorithm is refused before any key is looked up. -/
theorem keyFor_of_other_algorithm (halg : header.get? "alg" ≠ some (.text s.algorithm)) :
    s.keyFor header = .error (.raise .invalidSignature "Unexpected signing algorithm"
      (some [("alg", (header.get? "alg").getD .null), ("expected", .text s.algorithm)])) := by
  have hother : ((header.get? "alg").getD .null).text? ≠ some s.algorithm :=
    fun h => halg (text?_get?.1 h)
  unfold keyFor
  dsimp only
  rw [if_pos hother]

variable [Platform]

/-- The token comes apart and has the signer's algorithm, but the key that it names is not in the
ring. -/
def LacksKey (s : Signer) (token kid : Json) : Prop :=
  ∃ (t : String) (k : Compact), token = .text t ∧ Compact.read t.toList = .ok k ∧
    k.header.get? "alg" = some (.text s.algorithm) ∧ (k.header.get? "kid").getD .null = kid ∧
    ∀ id : String, kid = .text id → s.keys.lookup id = none

theorem LacksKey.verify_eq {kid : Json} (h : s.LacksKey token kid) (audience : Option Audience)
    (now : DateTime) : s.verify token audience now = .error (unknownKey kid) := by
  obtain ⟨t, k, rfl, hread, halg, rfl, hnone⟩ := h
  have hheader : readHeader (.text t) = .ok k.header := readHeader_eq_ok.2 ⟨t, k, rfl, hread, rfl⟩
  have hkey : s.keyFor k.header = .error (unknownKey ((k.header.get? "kid").getD .null)) := by
    rcases keyFor_of_algorithm halg with ⟨id, secret, hid, hsecret, -⟩ | ⟨-, hkey⟩
    · have hlookup := hnone id (by rw [hid]; rfl)
      rw [hsecret] at hlookup
      cases hlookup
    · exact hkey
  simp only [verify, hheader, hkey, bind, Except.bind]

/-! ### A larger ring -/

section
variable (h : s.Extends s')
include h

theorem Extends.decode_eq (secret : String) (token : Json) (audience : Option Audience) :
    s'.decode secret token audience = s.decode secret token audience := by
  have hsignature (c : Compact) : s'.checkSignature secret c = s.checkSignature secret c := by
    unfold checkSignature algorithmOk
    rw [h.algorithm]
  have hpayload (payload : Members) :
      s'.checkPayload payload audience = s.checkPayload payload audience := by
    unfold checkPayload
    rw [h.issuer, h.machineTime]
  simp only [decode, hsignature, hpayload]

/-- Where the larger ring finds the same key, or the same failure, the outcome is the same. -/
theorem Extends.verify_eq
    (hkey : ∀ header, readHeader token = .ok header → s'.keyFor header = s.keyFor header)
    (audience : Option Audience) (now : DateTime) :
    s'.verify token audience now = s.verify token audience now := by
  cases hheader : readHeader token with
  | error f => simp only [verify, hheader, bind, Except.bind]
  | ok header =>
    simp only [verify, hheader, bind, Except.bind]
    rw [hkey header hheader]
    simp only [h.decode_eq]

/-- The larger ring finds the key that a token names, unless the smaller one lacks it. -/
theorem Extends.keyFor_eq_or_lacks (token : Json) :
    (∀ header, readHeader token = .ok header → s'.keyFor header = s.keyFor header) ∨
      ∃ kid, s.LacksKey token kid := by
  by_cases hlacks : ∃ kid, s.LacksKey token kid
  · exact .inr hlacks
  left
  intro header hheader
  obtain ⟨t, k, rfl, hread, rfl⟩ := readHeader_eq_ok.1 hheader
  by_cases halg : k.header.get? "alg" = some (.text s.algorithm)
  · rcases keyFor_of_algorithm halg with ⟨id, secret, hid, hsecret, hkey⟩ | ⟨hnone, -⟩
    · rw [hkey]
      exact keyFor_eq_ok.2 ⟨by rw [h.algorithm, halg], id, hid, h.keys id secret hsecret⟩
    · exact absurd ⟨_, t, k, rfl, hread, halg, rfl, hnone⟩ hlacks
  · have halg' : k.header.get? "alg" ≠ some (.text s'.algorithm) := by
      rwa [h.algorithm]
    rw [keyFor_of_other_algorithm halg, keyFor_of_other_algorithm halg', h.algorithm]

end

/-! ### The signers' own tokens -/

/-- A signer's own token comes apart into the header that names its current key. -/
theorem readHeader_of_sign {c : Claims} {t : String} (ht : s.sign c = .ok t) :
    ∃ k, Compact.read t.toList = .ok k ∧ k.header = s.header := by
  obtain ⟨payload, -, hsigned⟩ := bind_eq_ok.1 ht
  obtain ⟨sig, -, hread⟩ := read_signPayload hsigned
  exact ⟨_, hread, rfl⟩

theorem not_lacksKey_of_sign {c : Claims} {t : String} (ht : s.sign c = .ok t) (kid : Json) :
    ¬ s.LacksKey (.text t) kid := by
  rintro ⟨t', k, htext, hread, -, rfl, hnone⟩
  obtain rfl := AnyText.string.inj (Json.text.inj htext)
  obtain ⟨k', hread', hheader⟩ := readHeader_of_sign ht
  obtain rfl := Except.ok.inj (hread.symm.trans hread')
  have hkid : (k.header.get? "kid").getD .null = .text s.current := by
    rw [hheader]
    rfl
  have hknown := s.current_known
  rw [hnone s.current hkid] at hknown
  cases hknown

theorem lacksKey_of_sign {c : Claims} {t : String} (halg : s'.algorithm = s.algorithm)
    (ht : s'.sign c = .ok t) (hnone : s.keys.lookup s'.current = none) :
    s.LacksKey (.text t) (.text s'.current) := by
  obtain ⟨k, hread, hheader⟩ := readHeader_of_sign ht
  refine ⟨t, k, rfl, hread, ?_, ?_, ?_⟩
  · rw [hheader, ← halg]
    rfl
  · rw [hheader]
    rfl
  · intro id hid
    rwa [← AnyText.string.inj (Json.text.inj hid)]

/-! ### Rotation -/

/-- A signer that keeps the keys of another one gives every token the outcome that the other gives
it, unless the other lacks the key that the token names and says so. Tokens that the other signed
are among those that keep their outcome, and what is signed with a key that the other lacks fails
there as unknown. So giving up one key changes the outcome of tokens that name this key only, and
the changed outcome is always that the key is unknown. -/
theorem verify_rotation {s s' : Signer} (h : s.Extends s') (audience : Option Audience)
    (now : DateTime) :
    (∀ token, s'.verify token audience now = s.verify token audience now ∨
      ∃ kid, s.LacksKey token kid ∧ s.verify token audience now = .error (unknownKey kid)) ∧
    (∀ c t, s.sign c = .ok t →
      s'.verify (.text t) audience now = s.verify (.text t) audience now) ∧
    (∀ c t, s'.sign c = .ok t → s.keys.lookup s'.current = none →
      s.verify (.text t) audience now = .error (unknownKey (.text s'.current))) ∧
    (∀ id : String, s.keys.lookup id = none →
      (∀ other, other ≠ id → s.keys.lookup other = s'.keys.lookup other) →
      ∀ token, s.verify token audience now ≠ s'.verify token audience now →
        s.LacksKey token (.text id) ∧
          s.verify token audience now = .error (unknownKey (.text id))) := by
  have hkept (token : Json) : s'.verify token audience now = s.verify token audience now ∨
      ∃ kid, s.LacksKey token kid := by
    rcases h.keyFor_eq_or_lacks token with hkey | hlacks
    · exact .inl (h.verify_eq hkey audience now)
    · exact .inr hlacks
  refine ⟨?_, ?_, ?_, ?_⟩
  · intro token
    rcases hkept token with heq | ⟨kid, hlacks⟩
    · exact .inl heq
    · exact .inr ⟨kid, hlacks, hlacks.verify_eq audience now⟩
  · intro c t ht
    rcases hkept (.text t) with heq | ⟨kid, hlacks⟩
    · exact heq
    · exact absurd hlacks (not_lacksKey_of_sign ht kid)
  · intro c t ht hnone
    exact (lacksKey_of_sign h.algorithm ht hnone).verify_eq audience now
  · intro id hgone hothers token hchanged
    rcases hkept token with heq | ⟨kid, hlacks⟩
    · exact absurd heq.symm hchanged
    by_cases hkid : kid = .text id
    · subst hkid
      exact ⟨hlacks, hlacks.verify_eq audience now⟩
    -- any other key that the smaller ring lacks, the larger one lacks as well
    have hlacks' : s'.LacksKey token kid := by
      obtain ⟨t, k, htoken, hread, halg, hnamed, hnone⟩ := hlacks
      refine ⟨t, k, htoken, hread, by rw [h.algorithm, halg], hnamed, ?_⟩
      intro other hother
      have hne : other ≠ id := by
        rintro rfl
        exact hkid hother
      rw [← hothers other hne, hnone other hother]
    apply absurd _ hchanged
    rw [hlacks.verify_eq, hlacks'.verify_eq]

end

/-- The sample signer after its rotation to a second key. -/
def rotated : Signer :=
  ⟨[("second", "another secret"), ("first", "a secret")], "second", "HS256", "gatehouse", 0,
    by decide⟩

section
attribute [local instance] Platform.standard

/-- After the rotation a token of the first key is still good, and before it one of the second key
fails as unknown. -/
theorem verify_rotation_second_key :
    ∃ t t', sample.sign ⟨"ann", "7", .sessionAccess, "gatehouse", ⟨0, some 0⟩, none⟩ = .ok t ∧
      rotated.sign ⟨"ann", "7", .sessionAccess, "gatehouse", ⟨0, some 0⟩, none⟩ = .ok t' ∧
      rotated.verify (.text t) (some .sessionAccess) ⟨second, some 0⟩ =
        .ok ⟨"ann", "7", .sessionAccess, "gatehouse", ⟨0, some 0⟩, none⟩ ∧
      sample.verify (.text t') (some .sessionAccess) ⟨second, some 0⟩ =
        .error (unknownKey (.text "second")) := by
  have hextends : sample.Extends rotated := by
    refine ⟨rfl, rfl, rfl, ?_⟩
    intro id secret hid
    by_cases hfirst : id = "first"
    · subst hfirst
      exact hid
    · simp [sample, List.lookup_cons, beq_eq_false_iff_ne.2 hfirst] at hid
  obtain ⟨t, ht, hgood⟩ := exists_sign_sample
  have husable : Platform.usableSecret rotated.secret = true := by decide +kernel
  obtain ⟨t', ht'⟩ := exists_sign (s := rotated) (d := .sha256) rfl husable
    (c := ⟨"ann", "7", .sessionAccess, "gatehouse", ⟨0, some 0⟩, none⟩)
    ⟨⟨0, rfl, by decide⟩, by simp⟩
  obtain ⟨-, hkept, hnew, -⟩ :=
    verify_rotation hextends (some .sessionAccess) ⟨second, some 0⟩
  exact ⟨t, t', ht, ht', (hkept _ t ht).trans hgood, hnew _ t' ht' rfl⟩

end

end Gatehouse.Signer
