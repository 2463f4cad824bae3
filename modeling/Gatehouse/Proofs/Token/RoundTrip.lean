import Gatehouse.Proofs.Token.Verify

/-!
Signed claims are read back. Claims that were built or accepted have times of whole seconds, and
such claims pass every check of the signer that signed them until they expire.
-/
namespace Gatehouse
open Text Hash

namespace Claims

/-- The times of the claims are whole seconds of UTC, in years 1 to 9999. -/
structure WholeSeconds (c : Claims) : Prop where
  issuedAt : c.issuedAt.WholeSecond
  expiresAt : ∀ e, c.expiresAt = some e → e.WholeSecond

theorem wholeSecond_timeOf {v : Json} {d : DateTime} (h : timeOf v = .ok d) : d.WholeSecond := by
  obtain ⟨n, -, hn⟩ := bind_eq_ok.1 h
  exact DateTime.wholeSecond_ofNumericDate hn

theorem wholeSecond_expiryOf {payload : Members} {expiresAt : Option DateTime} {e : DateTime}
    (h : expiryOf payload = .ok expiresAt) (he : expiresAt = some e) : e.WholeSecond := by
  subst he
  unfold expiryOf at h
  split at h
  · cases h
  · cases h
  · obtain ⟨d, hd, h⟩ := map_eq_ok.1 h
    obtain rfl := Option.some.inj h
    exact wholeSecond_timeOf hd

theorem wholeSeconds_ofPayload {payload : Members} {c : Claims} (h : ofPayload payload = .ok c) :
    c.WholeSeconds := by
  obtain ⟨-, -, -, -, ⟨iat, -, hiat⟩, hexp⟩ := ofPayload_eq_ok.1 h
  exact ⟨wholeSecond_timeOf hiat, fun e he => wholeSecond_expiryOf hexp he⟩

/-- What a claim set is built from, and when that succeeds. -/
theorem build_eq_ok {r : ClaimsRequest} {c : Claims} :
    build r = .ok c ↔ r.subject.hasLongInteger = false ∧
      r.issuedAt.truncateToSeconds = .ok c.issuedAt ∧ truncateExpiry r.expiresAt = .ok c.expiresAt ∧
      r.principal = .text c.principal ∧ r.subject.plainText = c.subject ∧
      r.issuer = .text c.issuer ∧ r.audience = .text c.audience.name := by
  have haud {v : Json} {a : Audience} : audienceField v = .ok a ↔ v = .text a.name := by
    rw [← Audience.ofJson?_eq_some]
    unfold audienceField
    split <;> simp [*]
  unfold build
  split
  · next h => simp [h]
  · next h =>
    rw [Bool.not_eq_true] at h
    simp only [bind_eq_ok, ofFields_eq_ok, textField_eq_ok, haud, Except.ok.injEq, h, true_and]
    constructor
    · rintro ⟨iat, hiat, exp, hexp, hp, hs, hi, ha, rfl, rfl⟩
      exact ⟨hiat, hexp, hp, hs, hi, ha⟩
    · rintro ⟨hiat, hexp, hp, hs, hi, ha⟩
      exact ⟨_, hiat, _, hexp, hp, hs, hi, ha, rfl, rfl⟩

/-- No claims are built from a time of issue that UTC cannot tell. -/
theorem build_of_untold {r : ClaimsRequest} {f : Fault}
    (hsubject : r.subject.hasLongInteger = false)
    (h : r.issuedAt.truncateToSeconds = .error f) : build r = .error f := by
  simp only [build, hsubject, h]
  rfl

theorem wholeSeconds_build {r : ClaimsRequest} {c : Claims} (h : build r = .ok c) :
    c.WholeSeconds := by
  obtain ⟨-, hiat, hexp, -⟩ := build_eq_ok.1 h
  refine ⟨DateTime.wholeSecond_truncateToSeconds hiat, ?_⟩
  rintro e he
  rw [he] at hexp
  cases hr : r.expiresAt with
  | none => simp [truncateExpiry, hr] at hexp
  | some d =>
    rw [hr] at hexp
    obtain ⟨e', he', h⟩ := map_eq_ok.1 hexp
    obtain rfl := Option.some.inj h
    exact DateTime.wholeSecond_truncateToSeconds he'

theorem hasLongInteger_int {n : Int} :
    Json.hasLongInteger (.int n) = false ↔ n.natAbs < 10 ^ integerDigitLimit := by
  rw [Json.hasLongInteger, decide_eq_false_iff_not, Nat.not_le, Nat.pow_eq]

/-- A text, or an integer that can be shown. -/
def IsSubject (v : Json) : Prop :=
  (∃ t, v = .text t) ∨ ∃ n : Int, v = .int n ∧ n.natAbs < 10 ^ integerDigitLimit

/-- Claims can be built for texts and for times that UTC can tell. -/
theorem exists_build (principal issuer : AnyText) {subject : Json} (hsubject : IsSubject subject)
    (audience : Audience) {issuedAt : DateTime} (hissued : DateTime.inRange issuedAt.instant = true)
    {expiresAt : Option DateTime}
    (hexpires : ∀ e, expiresAt = some e → DateTime.inRange e.instant = true) :
    ∃ c, build ⟨.text principal, subject, .text audience.name, .text issuer, issuedAt, expiresAt⟩ =
      .ok c ∧ c.principal = principal ∧ c.audience = audience ∧ c.issuer = issuer := by
  obtain ⟨iat, hiat⟩ := DateTime.exists_truncateToSeconds hissued
  obtain ⟨exp, hexp⟩ : ∃ exp, truncateExpiry expiresAt = .ok exp := by
    cases expiresAt with
    | none => exact ⟨none, rfl⟩
    | some e =>
      obtain ⟨u, hu⟩ := DateTime.exists_truncateToSeconds (hexpires e rfl)
      exact ⟨some u, map_eq_ok.2 ⟨u, hu, rfl⟩⟩
  have hlong : subject.hasLongInteger = false := by
    obtain ⟨t, rfl⟩ | ⟨n, rfl, hn⟩ := hsubject
    · simp [Json.hasLongInteger]
    · exact hasLongInteger_int.2 hn
  exact ⟨⟨principal, subject.plainText, audience, issuer, iat, exp⟩,
    build_eq_ok.2 ⟨hlong, hiat, hexp, rfl, rfl, rfl, rfl⟩, rfl, rfl, rfl⟩

/-- A number as subject is the number of the user. -/
theorem userId_build {r : ClaimsRequest} {c : Claims} {n : Int} (h : build r = .ok c)
    (hn : r.subject = .int n) : c.userId = .ok n := by
  obtain ⟨hlong, -, -, -, hsub, -⟩ := build_eq_ok.1 h
  rw [hn] at hlong hsub
  have hread := readInteger?_integerChars (hasLongInteger_int.1 hlong)
  have hplain : c.subject = String.ofList (Json.integerChars n) := hsub.symm
  simp only [userId, hplain, AnyText.string?, Option.bind_some, String.toList_ofList, hread]

/-! ### The payload of claims -/

/-- The payload makes the claims and nothing besides that a check would look at. -/
structure ToldBy [Platform] (c : Claims) (payload : Members) : Prop where
  regular : Json.Regular Platform.depthLimit (.object payload)
  storable : (Json.object payload).storable = true
  read : ofPayload payload = .ok c
  required : Signer.requiredClaims.all (Signer.present payload) = true
  start : payload.get? "nbf" = none
  tokenId : payload.get? "jti" = none

/-- The members that every payload has. -/
def members (c : Claims) (iat : Int) : Members :=
  [("name", .text c.principal), ("sub", .text c.subject), ("aud", .text c.audience.name),
    ("iss", .text c.issuer), ("iat", .int iat)]

theorem get?_members (c : Claims) (iat : Int) (rest : Members) (name : String) :
    Table.get? (c.members iat ++ rest) name =
      if name = "name" then some (.text c.principal)
      else if name = "sub" then some (.text c.subject)
      else if name = "aud" then some (.text c.audience.name)
      else if name = "iss" then some (.text c.issuer)
      else if name = "iat" then some (.int iat)
      else rest.get? name := by
  simp only [members, List.cons_append, List.nil_append, Table.get?, AnyText.string.injEq, eq_comm]

theorem toldBy_members [Platform] {c : Claims} {iat : Int} (hsmall : iat.natAbs < 10 ^ 12)
    (hread : DateTime.ofNumericDate iat = .ok c.issuedAt) {rest : Members}
    (hrest : rest = [] ∨ ∃ exp : Int, rest = ([("exp", .int exp)] : Members) ∧ exp.natAbs < 10 ^ 12)
    (hexp : expiryOf (c.members iat ++ rest) = .ok c.expiresAt) :
    c.ToldBy (c.members iat ++ rest) := by
  have hint {n : Int} (hn : n.natAbs < 10 ^ 12) : n.natAbs < 10 ^ Json.digitLimit :=
    hn.trans_le (Nat.pow_le_pow_right (by decide) (by decide))
  have hother {name : String} (h : name ≠ "exp") : rest.get? name = none := by
    obtain rfl | ⟨exp, rfl, -⟩ := hrest
    · rfl
    · simp [Table.get?, h.symm]
  refine ⟨?_, ?_, ?_, ?_, ?_, ?_⟩
  · apply Json.Regular.of_hundred
    obtain rfl | ⟨exp, rfl, hsmall'⟩ := hrest
    · simpa [Json.Regular, Json.RegularMembers, members] using hint hsmall
    · simpa [Json.Regular, Json.RegularMembers, members] using
        And.intro (hint hsmall) (hint hsmall')
  · obtain rfl | ⟨exp, rfl, -⟩ := hrest <;> rfl
  · rw [ofPayload_eq_ok]
    simp only [get?_members]
    exact ⟨rfl, rfl, rfl, rfl, ⟨_, rfl, hread⟩, hexp⟩
  · simp [Signer.requiredClaims, Signer.present, get?_members]
  · rw [get?_members]
    exact hother (by decide)
  · rw [get?_members]
    exact hother (by decide)

/-- Claims of whole seconds are told by the payload that is made of them. -/
theorem WholeSeconds.toPayload [Platform] {c : Claims} (h : c.WholeSeconds) :
    ∃ payload, c.toPayload = .ok payload ∧ c.ToldBy payload := by
  obtain ⟨iat, hiat, hread, hsmall⟩ := h.issuedAt.toNumericDate
  cases hexp : c.expiresAt with
  | none =>
    refine ⟨c.members iat ++ [], ?_, toldBy_members hsmall hread (.inl rfl) ?_⟩
    · simp only [Claims.toPayload, hiat, hexp, bind, Except.bind, members, List.append_nil]
    · rw [hexp]
      rfl
  | some e =>
    obtain ⟨exp, hexp', hread', hsmall'⟩ := (h.expiresAt e hexp).toNumericDate
    refine ⟨c.members iat ++ ([("exp", .int exp)] : Members), ?_,
      toldBy_members hsmall hread (.inr ⟨exp, rfl, hsmall'⟩) ?_⟩
    · simp only [Claims.toPayload, hiat, hexp, hexp', bind, Except.bind, members]
    · rw [hexp]
      exact map_eq_ok.2 ⟨e, hread', rfl⟩

/-- The claims were built from a request, or a signer accepted a token that makes them. -/
def Obtained [Platform] (c : Claims) : Prop :=
  (∃ r, build r = .ok c) ∨
    ∃ (s : Signer) (token : Json) (audience : Option Audience) (now : DateTime),
      s.verify token audience now = .ok c

theorem Obtained.wholeSeconds [Platform] {c : Claims} (h : c.Obtained) : c.WholeSeconds := by
  obtain ⟨r, hr⟩ | ⟨s, token, audience, now, hv⟩ := h
  · exact wholeSeconds_build hr
  · obtain ⟨t, k, secret, payload, -, -, -, -, -, -, hclaims, -⟩ := Signer.verify_eq_ok.1 hv
    exact wholeSeconds_ofPayload hclaims

theorem wholeSeconds_of_verify [Platform] {c : Claims} {s : Signer} {token : Json}
    {audience : Option Audience} {now : DateTime} (h : s.verify token audience now = .ok c) :
    c.WholeSeconds :=
  Obtained.wholeSeconds (.inr ⟨s, token, audience, now, h⟩)

/-- The time of the claims has not passed at a time that has an offset. -/
def LiveAt (c : Claims) (now : DateTime) : Prop :=
  ∀ e, c.expiresAt = some e → now.offset.isSome = true ∧ now.instant < e.instant

theorem WholeSeconds.checkExpiry {c : Claims} (h : c.WholeSeconds) {now : DateTime} :
    Signer.checkExpiry c now = .ok () ↔ c.LiveAt now := by
  rw [Signer.checkExpiry_eq_ok]
  refine forall₂_congr fun e he => ?_
  obtain ⟨n, rfl, -⟩ := h.expiresAt e he
  rw [Option.isSome_some, eq_comm]

end Claims

namespace Signer
variable {s : Signer} {d : Digest}

theorem regular_header (s : Signer) : Json.Regular 100 (.object s.header) := by
  rw [Json.Regular]
  simp [header, Json.RegularMembers, Json.Regular]

section
variable [Platform]

theorem writable_of_toldBy {c : Claims} {payload : Members} (h : c.ToldBy payload) :
    writable payload = true := by
  have hiss := (Claims.ofPayload_eq_ok.1 h.read).2.2.2.1
  simp [writable, hiss, h.storable]

/-- The text that is signed for a payload. -/
def signedText (s : Signer) (payload : Members) : List Char :=
  Compact.part s.header ++ '.' :: Compact.part payload

theorem write_of_signPayload {payload : Members} {t : String} (h : s.signPayload payload = .ok t) :
    ∃ sig, signature s.algorithm s.secret (s.signedText payload) = .ok sig ∧
      t = Compact.write (s.signedText payload) sig := by
  unfold signPayload at h
  split at h
  · obtain ⟨sig, hsig, h⟩ := bind_eq_ok.1 h
    obtain rfl := Except.ok.inj h
    exact ⟨sig, hsig, rfl⟩
  · cases h

/-- A signed payload is read back with its header and its signature. -/
theorem read_signPayload {payload : Members} {t : String} (h : s.signPayload payload = .ok t) :
    ∃ sig, signature s.algorithm s.secret (s.signedText payload) = .ok sig ∧
      Compact.read t.toList = .ok ⟨s.header, s.signedText payload,
        Utf8.encode (Json.print (.object payload)), sig⟩ := by
  obtain ⟨sig, hsig, rfl⟩ := write_of_signPayload h
  exact ⟨sig, hsig, Compact.read_write payload sig (regular_header s).of_hundred rfl rfl rfl⟩

/-- A signed token consists of dots and the digits of URL-safe base 64. -/
theorem exists_digit_of_mem_sign {c : Claims} {t : String} (h : s.sign c = .ok t) {x : Char}
    (hx : x ∈ t.toList) : x = '.' ∨ ∃ n < 64, x = Base64Url.digit n := by
  obtain ⟨payload, -, hsigned⟩ := bind_eq_ok.1 h
  obtain ⟨sig, -, rfl⟩ := write_of_signPayload hsigned
  simp only [Compact.write, signedText, Compact.part, String.toList_ofList, List.mem_append,
    List.mem_cons] at hx
  rcases hx with (hx | hx | hx) | hx | hx
  · exact .inr (Base64Url.exists_digit_of_mem_encode hx)
  · exact .inl hx
  · exact .inr (Base64Url.exists_digit_of_mem_encode hx)
  · exact .inl hx
  · exact .inr (Base64Url.exists_digit_of_mem_encode hx)

/-- Claims of whole seconds can be signed, and are what the token tells. -/
theorem sign_eq_ok {c : Claims} (hc : c.WholeSeconds) {t : String} (h : s.sign c = .ok t) :
    ∃ payload, c.ToldBy payload ∧ s.signPayload payload = .ok t := by
  obtain ⟨payload, hp, htold⟩ := hc.toPayload
  simp only [sign, hp, bind, Except.bind] at h
  exact ⟨payload, htold, h⟩

theorem sign_injective {c c' : Claims} (hc : c.WholeSeconds) (hc' : c'.WholeSeconds) {t : String}
    (h : s.sign c = .ok t) (h' : s.sign c' = .ok t) : c = c' := by
  obtain ⟨payload, htold, hsigned⟩ := sign_eq_ok hc h
  obtain ⟨payload', htold', hsigned'⟩ := sign_eq_ok hc' h'
  obtain ⟨sig, -, hread⟩ := read_signPayload hsigned
  obtain ⟨sig', -, hread'⟩ := read_signPayload hsigned'
  have hbytes := (Compact.mk.inj (Except.ok.inj (hread.symm.trans hread'))).2.2.1
  have hobject := Compact.object_print htold.regular
  rw [hbytes, Compact.object_print htold'.regular] at hobject
  obtain rfl := Except.ok.inj hobject
  exact Except.ok.inj (htold.read.symm.trans htold'.read)

/-- An algorithm and a secret that give signatures: a keyed hash and a secret it can use, or no
hash and no secret. -/
def Signs (algorithm secret : String) : Prop :=
  (∃ d, Algorithm.ofName? algorithm = some (.keyed d) ∧ Platform.usableSecret secret = true) ∨
    Algorithm.ofName? algorithm = some .unsigned ∧ secret = ""

theorem Signs.exists_signature {algorithm secret : String} (h : Signs algorithm secret)
    (signed : List Char) : ∃ sig, signature algorithm secret signed = .ok sig := by
  unfold signature
  rcases h with ⟨d, halg, husable⟩ | ⟨halg, hempty⟩
  · simp only [halg, if_pos husable]
    exact ⟨_, rfl⟩
  · simp only [halg, if_pos hempty]
    exact ⟨_, rfl⟩

theorem exists_signPayload (hs : Signs s.algorithm s.secret) {payload : Members}
    (h : writable payload = true) : ∃ t, s.signPayload payload = .ok t := by
  obtain ⟨sig, hsig⟩ := hs.exists_signature (s.signedText payload)
  exact ⟨_, (if_pos h).trans (bind_eq_ok.2 ⟨sig, hsig, rfl⟩)⟩

/-- A signer that gives signatures can sign claims of whole seconds. -/
theorem exists_sign_of_signs (hs : Signs s.algorithm s.secret) {c : Claims}
    (hc : c.WholeSeconds) : ∃ t, s.sign c = .ok t := by
  obtain ⟨payload, hp, htold⟩ := hc.toPayload
  obtain ⟨t, ht⟩ := exists_signPayload hs (writable_of_toldBy htold)
  exact ⟨t, bind_eq_ok.2 ⟨payload, hp, ht⟩⟩

section
variable (halg : Algorithm.ofName? s.algorithm = some (.keyed d))
  (hsecret : Platform.usableSecret s.secret = true)
include halg hsecret

theorem signature_eq (signed : List Char) : signature s.algorithm s.secret signed =
    .ok (hmac d (Utf8.encode s.secret.toList) (Utf8.encode signed)) := by
  simp only [signature, halg, hsecret, if_true]

/-- The signer accepts its own signature, and finds the payload that it signed. -/
theorem accepts_signPayload {payload : Members}
    (hregular : Json.Regular Platform.depthLimit (.object payload)) {t : String}
    (ht : s.signPayload payload = .ok t) :
    ∃ k, Compact.read t.toList = .ok k ∧ s.keyFor k.header = .ok s.secret ∧
      s.checkSignature s.secret k = .ok () ∧ Compact.object k.payload = .ok payload := by
  obtain ⟨sig, hsig, hread⟩ := read_signPayload ht
  rw [signature_eq halg hsecret] at hsig
  obtain rfl := Except.ok.inj hsig
  have hlookup : s.keys.lookup s.current = some s.secret := (Option.some_get _).symm
  refine ⟨_, hread, ?_, ?_, Compact.object_print hregular⟩
  · exact keyFor_eq_ok.2 ⟨rfl, s.current, rfl, hlookup⟩
  · exact checkSignature_eq_ok.2 ⟨rfl, rfl, d, halg, hsecret, rfl⟩

/-- A payload that the signer signed passes every check until its claims expire. -/
theorem verify_signPayload {c : Claims} {payload : Members} (h : c.ToldBy payload)
    (hiss : c.issuer = s.issuer) {t : String} (ht : s.signPayload payload = .ok t)
    {audience : Option Audience} (haud : ∀ a, audience = some a → a = c.audience) {now : DateTime}
    (hnow : checkExpiry c now = .ok ()) : s.verify (.text t) audience now = .ok c := by
  obtain ⟨hname, hsub, haudience, hissuer, -⟩ := Claims.ofPayload_eq_ok.1 h.read
  obtain ⟨k, hread, hkey, hsigned, hobject⟩ := accepts_signPayload halg hsecret h.regular ht
  refine verify_eq_ok.2 ⟨t, k, s.secret, payload, rfl, hread, hkey, hsigned, hobject, ?_, h.read,
    hnow⟩
  refine checkPayload_eq_ok.2 ⟨h.required, ?_, ?_, ?_, ?_, ?_⟩
  · simp [startOk, h.start]
  · exact issuerOk_iff.2 (hiss ▸ hissuer)
  · cases audience with
    | none => rfl
    | some a => exact (audienceMatch_text haudience).2 (haud a rfl)
  · simp [textOk, hsub]
  · simp [textOk, h.tokenId]

/-- Claims of whole seconds can be signed. -/
theorem exists_sign {c : Claims} (hc : c.WholeSeconds) : ∃ t, s.sign c = .ok t :=
  exists_sign_of_signs (.inl ⟨d, halg, hsecret⟩) hc

theorem verify_of_sign {c : Claims} (hc : c.WholeSeconds) (hiss : c.issuer = s.issuer) {t : String}
    (ht : s.sign c = .ok t) {audience : Option Audience}
    (haud : ∀ a, audience = some a → a = c.audience) {now : DateTime} (hnow : c.LiveAt now) :
    s.verify (.text t) audience now = .ok c := by
  obtain ⟨payload, htold, hsigned⟩ := sign_eq_ok hc ht
  exact verify_signPayload halg hsecret htold hiss hsigned haud (hc.checkExpiry.2 hnow)

/-- A token that the signer signed tells its claims, for their audience, until they expire, and
nothing else. -/
theorem verify_signed_iff {c c' : Claims} (hc : c.WholeSeconds) (hiss : c.issuer = s.issuer)
    {t : String} (ht : s.sign c = .ok t) {now : DateTime} :
    s.verify (.text t) (some c.audience) now = .ok c' ↔ c' = c ∧ c.LiveAt now := by
  constructor
  · intro h
    obtain ⟨payload, htold, hsigned⟩ := sign_eq_ok hc ht
    obtain ⟨sig, -, hread⟩ := read_signPayload hsigned
    obtain ⟨u, k, secret, payload', hu, hk, -, -, hp, -, hclaims, he⟩ := verify_eq_ok.1 h
    obtain rfl := AnyText.string.inj (Json.text.inj hu)
    obtain rfl := Except.ok.inj (hread.symm.trans hk)
    obtain rfl := Except.ok.inj ((Compact.object_print htold.regular).symm.trans hp)
    obtain rfl := Except.ok.inj (hclaims.symm.trans htold.read)
    exact ⟨rfl, hc.checkExpiry.1 he⟩
  · rintro ⟨rfl, hnow⟩
    exact verify_of_sign halg hsecret hc hiss ht (by simp) hnow

/-- Claims that were built or accepted can be signed by the signer that they name as issuer, and
its token tells exactly these claims until they expire; so different claims have different
tokens. Claims can be built for all texts and times, and for a number they tell that number. -/
theorem verify_sign :
    (∀ (principal issuer : AnyText) (subject : Json) (audience : Audience) (issuedAt : DateTime)
      (expiresAt : Option DateTime), Claims.IsSubject subject →
      DateTime.inRange issuedAt.instant = true →
      (∀ e, expiresAt = some e → DateTime.inRange e.instant = true) →
      ∃ c, Claims.build ⟨.text principal, subject, .text audience.name, .text issuer, issuedAt,
        expiresAt⟩ = .ok c ∧ c.principal = principal ∧ c.audience = audience ∧
          c.issuer = issuer) ∧
    (∀ c : Claims, c.Obtained → c.issuer = s.issuer → ∃ t, s.sign c = .ok t ∧
      ∀ now, c.LiveAt now → s.verify (.text t) (some c.audience) now = .ok c ∧
        s.verify (.text t) none now = .ok c) ∧
    (∀ (r : ClaimsRequest) (c : Claims) (n : Int), Claims.build r = .ok c → r.subject = .int n →
      c.userId = .ok n) ∧
    (∀ c c' : Claims, c.Obtained → c'.Obtained → c.issuer = s.issuer → c'.issuer = s.issuer →
      s.sign c = s.sign c' → c = c') := by
  refine ⟨?_, ?_, ?_, ?_⟩
  · intro principal issuer subject audience issuedAt expiresAt hsubject hissued hexpires
    exact Claims.exists_build principal issuer hsubject audience hissued hexpires
  · intro c hc hiss
    obtain ⟨t, ht⟩ := exists_sign halg hsecret hc.wholeSeconds
    refine ⟨t, ht, fun now hnow => ⟨?_, ?_⟩⟩
    · exact verify_of_sign halg hsecret hc.wholeSeconds hiss ht (by simp) hnow
    · exact verify_of_sign halg hsecret hc.wholeSeconds hiss ht (by simp) hnow
  · intro r c n hr hn
    exact Claims.userId_build hr hn
  · intro c c' hc hc' _ _ h
    obtain ⟨t, ht⟩ := exists_sign halg hsecret hc.wholeSeconds
    exact sign_injective hc.wholeSeconds hc'.wholeSeconds ht (h ▸ ht)

end

end

section
attribute [local instance] Platform.standard

/-- Claims from the first second of year 1 for a day, whose build cuts off a fraction. -/
theorem verify_sign_first_second :
    ∃ c t, Claims.build ⟨.text "Zoë", .int 7, .text "session-access", .text "gatehouse",
        ⟨DateTime.minReading + 3600 * second + 5, some (3600 * second)⟩,
        some ⟨DateTime.minReading + 86400 * second + 999999, some 0⟩⟩ = .ok c ∧
      sample.sign c = .ok t ∧
      sample.verify (.text t) none ⟨DateTime.minReading + 86399 * second, some 0⟩ = .ok c ∧
      c.userId = .ok 7 := by
  have hbuild : Claims.build ⟨.text "Zoë", .int 7, .text "session-access", .text "gatehouse",
      ⟨DateTime.minReading + 3600 * second + 5, some (3600 * second)⟩,
      some ⟨DateTime.minReading + 86400 * second + 999999, some 0⟩⟩ =
      .ok ⟨"Zoë", "7", .sessionAccess, "gatehouse", ⟨DateTime.minReading, some 0⟩,
        some ⟨DateTime.minReading + 86400 * second, some 0⟩⟩ :=
    Claims.build_eq_ok.2 ⟨by decide +kernel, rfl, rfl, rfl, rfl, rfl, rfl⟩
  have hall := verify_sign (s := sample) (d := .sha256) rfl (by decide +kernel)
  obtain ⟨t, ht, hverify⟩ := hall.2.1 _ (.inl ⟨_, hbuild⟩) rfl
  refine ⟨_, t, hbuild, ht, (hverify _ ?_).2, hall.2.2.1 _ _ _ hbuild rfl⟩
  rintro e he
  obtain rfl := Option.some.inj he
  exact ⟨rfl, by decide⟩

/-- A token of the sample signer for its first user. -/
theorem exists_sign_sample : ∃ t,
    sample.sign ⟨"ann", "7", .sessionAccess, "gatehouse", ⟨0, some 0⟩, none⟩ = .ok t ∧
    sample.verify (.text t) (some .sessionAccess) ⟨second, some 0⟩ =
      .ok ⟨"ann", "7", .sessionAccess, "gatehouse", ⟨0, some 0⟩, none⟩ := by
  have hsecret : Platform.usableSecret sample.secret = true := by decide +kernel
  have hc : Claims.WholeSeconds ⟨"ann", "7", .sessionAccess, "gatehouse", ⟨0, some 0⟩, none⟩ :=
    ⟨⟨0, rfl, by decide⟩, by simp⟩
  obtain ⟨t, ht⟩ := exists_sign (s := sample) (d := .sha256) rfl hsecret hc
  refine ⟨t, ht, verify_of_sign (d := .sha256) rfl hsecret hc rfl ht (by simp) ?_⟩
  rintro e ⟨⟩

end

end Signer

end Gatehouse
