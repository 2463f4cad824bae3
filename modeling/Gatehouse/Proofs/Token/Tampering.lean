import Gatehouse.Proofs.Hash.Length
import Gatehouse.Proofs.PersonalToken.Listed

/-!
Tampering with the signature of a token. Whatever is put in place of the text behind the second dot
of a signed token is refused, but for texts that are read as the bytes of the signature. On a
platform that reads bytes from their canonical text only, with or without the signs that complete it
to a multiple of four characters, these are two at most: `verify_resigned`.
-/
namespace Gatehouse
open Text Hash

/-- The platform reads bytes from their canonical text, and from this text with the signs that
complete it, and from no other one. -/
def Platform.Canonical [Platform] : Prop :=
  ∀ cs bs, Platform.readPart? cs = some bs ↔
    cs = Base64Url.encode bs ∨ cs = Base64Url.encode bs ++ Base64Url.padding bs.length

theorem Platform.canonical_standard : @Platform.Canonical .standard :=
  fun _ _ => Base64Url.decodePadded?_eq_some

namespace Signer

section
variable {s : Signer} {d : Digest} {c : Claims} {t t' : String} {payload : Members}

/-- The texts are the same up to and with their second dot, and have no further one. -/
def SameSigned (t t' : String) : Prop :=
  ∃ header payload part part', '.' ∉ header ∧ '.' ∉ payload ∧ '.' ∉ part ∧ '.' ∉ part' ∧
    t.toList = header ++ '.' :: payload ++ '.' :: part ∧
    t'.toList = header ++ '.' :: payload ++ '.' :: part'

/-- The signs that complete the text of a signature. -/
def signaturePadding : Digest → String
  | .sha256 => "="
  | .sha384 => ""
  | .sha512 => "=="

theorem toList_signaturePadding (d : Digest) :
    (signaturePadding d).toList = Base64Url.padding d.size := by
  cases d <;> rfl

/-- The keyed hash of the text that is signed for a payload. -/
def code (s : Signer) (d : Digest) (payload : Members) : List UInt8 :=
  hmac d (Utf8.encode s.secret.toList) (Utf8.encode (s.signedText payload))

/-- What shares the signed text with a token has another part behind its last dot. -/
theorem exists_part_of_sameSigned
    (ht : t.toList = s.signedText payload ++ '.' :: Base64Url.encode (s.code d payload))
    (h : SameSigned t t') :
    ∃ part, '.' ∉ part ∧ t'.toList = s.signedText payload ++ '.' :: part := by
  obtain ⟨header, body, part, part', -, -, hpart, hpart', hfirst, hsecond⟩ := h
  have hcut := cutLast_append (a := header ++ '.' :: body) hpart
  rw [← hfirst, ht, cutLast_append (Base64Url.dot_not_mem_encode _)] at hcut
  obtain ⟨hsigned, -⟩ := Prod.mk.inj (Option.some.inj hcut)
  exact ⟨part', hpart', by rw [hsecond, hsigned]⟩

theorem keyFor_header (s : Signer) : s.keyFor s.header = .ok s.secret :=
  keyFor_eq_ok.2 ⟨rfl, s.current, rfl, (Option.some_get _).symm⟩

variable [Platform]

/-- Behind their last dots the texts have parts that are read as the same bytes. -/
def SameSignature (t t' : String) : Prop :=
  ∃ signed signed' part part' bs, '.' ∉ part ∧ '.' ∉ part' ∧
    t.toList = signed ++ '.' :: part ∧ t'.toList = signed' ++ '.' :: part' ∧
    Platform.readPart? part = some bs ∧ Platform.readPart? part' = some bs

/-- A signed token ends with the code of its payload, under a secret that can be used. -/
theorem toList_of_sign (halg : Algorithm.ofName? s.algorithm = some (.keyed d))
    (h : s.sign c = .ok t) :
    Platform.usableSecret s.secret = true ∧ ∃ payload,
      t.toList = s.signedText payload ++ '.' :: Base64Url.encode (s.code d payload) := by
  obtain ⟨payload, -, hsigned⟩ := bind_eq_ok.1 h
  obtain ⟨sig, hsig, rfl⟩ := write_of_signPayload hsigned
  simp only [signature, halg] at hsig
  split at hsig
  · next husable =>
    obtain rfl := Except.ok.inj hsig
    exact ⟨husable, payload, String.toList_ofList⟩
  · cases hsig

/-! ### Another part behind the last dot -/

/-- The token of a payload with some signature, taken apart. -/
def resigned (s : Signer) (payload : Members) (signature : List UInt8) : Compact :=
  ⟨s.header, s.signedText payload, Utf8.encode (Json.print (.object payload)), signature⟩

theorem read_of_part {part : List Char} (hpart : '.' ∉ part)
    (ht : t.toList = s.signedText payload ++ '.' :: part) :
    Compact.read t.toList = s.resigned payload <$> Compact.segment part := by
  rw [ht, signedText]
  exact Compact.read_signed payload hpart (regular_header s).of_hundred rfl rfl rfl

/-- A part that is no base 64 makes the token malformed. -/
theorem verify_of_undecodable {part : List Char} (hpart : '.' ∉ part)
    (ht : t.toList = s.signedText payload ++ '.' :: part)
    (hsegment : Compact.segment part = .error .malformed) (audience : Option Audience)
    (now : DateTime) :
    s.verify (.text t) audience now = .error (malformed "Malformed token header") := by
  have hread : Compact.read t.toList = .error .malformed := by
    rw [read_of_part hpart ht, hsegment]
    rfl
  have hne : t ≠ "" := by
    rintro rfl
    simp at ht
  have hheader : readHeader (.text t) = .error (malformed "Malformed token header") := by
    unfold readHeader
    split
    · next hempty => exact absurd (AnyText.string.inj (Json.text.inj hempty)) hne
    · simp only [takeApart, hread]
      rfl
    · next hnone => exact absurd rfl (hnone t)
  simp only [verify, hheader, bind, Except.bind]

/-- A text with an unpaired surrogate has no bytes that could be signed. -/
theorem verify_of_unpaired {t : AnyText} (ht : t.string? = none) (s : Signer)
    (audience : Option Audience) (now : DateTime) :
    s.verify (.text t) audience now = .error .unencodable := by
  cases t with
  | string t => cases ht
  | unpaired codes h => rfl

/-- Another signature is invalid. -/
theorem verify_of_other {part : List Char} (hpart : '.' ∉ part)
    (ht : t.toList = s.signedText payload ++ '.' :: part)
    (halg : Algorithm.ofName? s.algorithm = some (.keyed d))
    (hsecret : Platform.usableSecret s.secret = true) {signature : List UInt8}
    (hsegment : Compact.segment part = .ok signature) (hne : signature ≠ s.code d payload)
    (audience : Option Audience) (now : DateTime) :
    s.verify (.text t) audience now =
      .error (.raise .invalidSignature "Invalid token signature") := by
  have hread : Compact.read t.toList = .ok (s.resigned payload signature) := by
    rw [read_of_part hpart ht, hsegment]
    rfl
  have hown : s.algorithmOk s.header = true := algorithmOk_iff.2 rfl
  have hcheck : s.checkSignature s.secret (s.resigned payload signature) =
      .error (.raise .invalidSignature "Invalid token signature") := by
    simp only [checkSignature, resigned, halg, signature_eq halg hsecret, hown, bind, Except.bind]
    exact if_neg hne
  rw [verify_of_read hread (keyFor_header s), hcheck]
  rfl

/-- What shares the signed text with a token has its signature exactly if the part behind its last
dot is read as the code. -/
theorem sameSignature_iff
    (ht : t.toList = s.signedText payload ++ '.' :: Base64Url.encode (s.code d payload))
    {part : List Char} (hpart : '.' ∉ part)
    (ht' : t'.toList = s.signedText payload ++ '.' :: part) :
    SameSignature t t' ↔ Platform.readPart? part = some (s.code d payload) := by
  have hown := Base64Url.dot_not_mem_encode (s.code d payload)
  constructor
  · rintro ⟨signed, signed', first, second, bs, hfirst, hsecond, htext, htext', hbs, hbs'⟩
    have hcut := cutLast_append (a := signed) hfirst
    rw [← htext, ht, cutLast_append hown] at hcut
    have hcut' := cutLast_append (a := signed') hsecond
    rw [← htext', ht', cutLast_append hpart] at hcut'
    obtain ⟨-, rfl⟩ := Prod.mk.inj (Option.some.inj hcut)
    obtain ⟨-, rfl⟩ := Prod.mk.inj (Option.some.inj hcut')
    rw [hbs', ← hbs, Platform.readPart?_encode]
  · intro hread
    exact ⟨_, _, _, part, _, hown, hpart, ht, ht', Platform.readPart?_encode _, hread⟩

theorem segment_eq_malformed {part : List Char} {e : CompactError}
    (h : Compact.segment part = .error e) : Compact.segment part = .error .malformed := by
  unfold Compact.segment at h ⊢
  cases hdecode : Platform.readPart? part with
  | some signature => simp [hdecode] at h
  | none => rfl

/-! ### The texts that share the signed text -/

section
variable (halg : Algorithm.ofName? s.algorithm = some (.keyed d)) (h : s.sign c = .ok t)
include halg h

/-- Any other signature, in any form, is refused. -/
theorem verify_of_tampered (hsame : SameSigned t t') (hother : ¬ SameSignature t t')
    (audience : Option Audience) (now : DateTime) :
    ∃ f, s.verify (.text t') audience now = .error f ∧ f.isUnauthorized = true := by
  obtain ⟨husable, payload, ht⟩ := toList_of_sign halg h
  obtain ⟨part, hpart, ht'⟩ := exists_part_of_sameSigned ht hsame
  rw [sameSignature_iff ht hpart ht', ← Compact.segment_eq_ok] at hother
  cases hsegment : Compact.segment part with
  | error e =>
    have hmalformed := segment_eq_malformed hsegment
    exact ⟨_, verify_of_undecodable hpart ht' hmalformed audience now, rfl⟩
  | ok signature =>
    have hne : signature ≠ s.code d payload := by
      rintro rfl
      exact hother hsegment
    exact ⟨_, verify_of_other hpart ht' halg husable hsegment hne audience now, rfl⟩

/-- The same signature in another form changes nothing. -/
theorem verify_of_sameSignature (hsame : SameSigned t t') (hsignature : SameSignature t t')
    (audience : Option Audience) (now : DateTime) :
    s.verify (.text t') audience now = s.verify (.text t) audience now := by
  obtain ⟨-, payload, ht⟩ := toList_of_sign halg h
  obtain ⟨part, hpart, ht'⟩ := exists_part_of_sameSigned ht hsame
  have hsegment := Compact.segment_eq_ok.2 ((sameSignature_iff ht hpart ht').1 hsignature)
  have hread : Compact.read t.toList = .ok (s.resigned payload (s.code d payload)) := by
    rw [read_of_part (Base64Url.dot_not_mem_encode _) ht, Compact.segment_encode]
    rfl
  have hread' : Compact.read t'.toList = .ok (s.resigned payload (s.code d payload)) := by
    rw [read_of_part hpart ht', hsegment]
    rfl
  rw [verify_of_read hread (keyFor_header s), verify_of_read hread' (keyFor_header s)]

/-- The text with a completed signature shares the signed text. -/
theorem sameSigned_completed : SameSigned t (t ++ signaturePadding d) := by
  obtain ⟨-, payload, ht⟩ := toList_of_sign halg h
  have hpadding : '.' ∉ (signaturePadding d).toList := by cases d <;> decide
  refine ⟨Compact.part s.header, Compact.part payload, Base64Url.encode (s.code d payload),
    Base64Url.encode (s.code d payload) ++ (signaturePadding d).toList,
    Compact.dot_not_mem_part _, Compact.dot_not_mem_part _, Base64Url.dot_not_mem_encode _, ?_, ht,
    ?_⟩
  · rw [List.mem_append, not_or]
    exact ⟨Base64Url.dot_not_mem_encode _, hpadding⟩
  · rw [String.toList_append, ht, signedText]
    simp

/-- Where only canonical text is read, the signature has two forms. -/
theorem sameSignature_iff_of_canonical (hcanonical : Platform.Canonical) (hsame : SameSigned t t') :
    SameSignature t t' ↔ t' = t ∨ t' = t ++ signaturePadding d := by
  obtain ⟨-, payload, ht⟩ := toList_of_sign halg h
  obtain ⟨part, hpart, ht'⟩ := exists_part_of_sameSigned ht hsame
  have hsize : (s.code d payload).length = d.size := length_hmac ..
  rw [sameSignature_iff ht hpart ht', hcanonical, hsize, ← toList_signaturePadding,
    ← String.toList_inj, ← String.toList_inj, String.toList_append, ht, ht']
  simp

/-- A list shows a token with its signature only. -/
theorem sameSignature_of_list {r : TokenRegistry} (hr : r.signer = s) {store : KeyValue}
    {owner : Json} {now : DateTime} {views : List TokenView}
    (hlist : r.list store owner now = .ok views) {v : TokenView} (hv : v ∈ views) :
    ∃ t' : String, v.token = t' ∧ (SameSigned t t' → SameSignature t t') := by
  obtain ⟨records, -, rfl⟩ := TokenRegistry.list_eq_ok hlist
  obtain ⟨x, -, hx⟩ := List.mem_filterMap.1 (List.mem_mergeSort.1 hv)
  have hview : r.view x now = .ok v := by
    cases hview : r.view x now <;> simp_all [Except.toOption]
  have hshows := TokenRegistry.shows_of_view hview
  obtain ⟨c', hverify⟩ := hshows.verified
  obtain ⟨t', -, -, -, htext, -⟩ := hshows.told
  refine ⟨t', hshows.token.trans htext, fun hsame => ?_⟩
  by_contra hother
  obtain ⟨f, hrefused, -⟩ := verify_of_tampered halg h hsame hother (some .personalAccess) now
  rw [hr, htext, hrefused] at hverify
  cases hverify

end

/-- Of all texts that agree with a signed token up to its second dot and have no further one, those
with the signature of the token have the outcome of the token, in whatever form it is read, and
every other one is refused at every time, for every audience and on every machine, as is what is no
Unicode text. A registry lists no other one either. Where only canonical text is read, with or
without the signs that complete it, these are the token, and the token with the signs that complete
its signature to a multiple of four characters, of which a signature of 48 bytes needs none. -/
theorem verify_resigned (halg : Algorithm.ofName? s.algorithm = some (.keyed d))
    (h : s.sign c = .ok t) (machineTime : Int) :
    (∀ t', SameSigned t t' → ¬ SameSignature t t' → ∀ audience now,
      ∃ f, (s.onMachine machineTime).verify (.text t') audience now = .error f ∧
        f.isUnauthorized = true) ∧
    (∀ t' : AnyText, t'.string? = none → ∀ audience now,
      (s.onMachine machineTime).verify (.text t') audience now = .error .unencodable) ∧
    (∀ t', SameSigned t t' → SameSignature t t' → ∀ audience now,
      (s.onMachine machineTime).verify (.text t') audience now =
        (s.onMachine machineTime).verify (.text t) audience now) ∧
    (∀ (r : TokenRegistry) store owner now views, r.signer = s.onMachine machineTime →
      r.list store owner now = .ok views → ∀ v ∈ views,
        ∃ t' : String, v.token = t' ∧ (SameSigned t t' → SameSignature t t')) ∧
    (Platform.Canonical → SameSigned t (t ++ signaturePadding d) ∧
      ∀ t', SameSigned t t' → (SameSignature t t' ↔ t' = t ∨ t' = t ++ signaturePadding d)) := by
  have halg' : Algorithm.ofName? (s.onMachine machineTime).algorithm = some (.keyed d) := halg
  have h' : (s.onMachine machineTime).sign c = .ok t := h
  refine ⟨?_, ?_, ?_, ?_, fun hcanonical => ⟨sameSigned_completed halg h, fun t' hsame => ?_⟩⟩
  · intro t' hsame hother audience now
    exact verify_of_tampered halg' h' hsame hother audience now
  · intro t' hnone audience now
    exact verify_of_unpaired hnone _ audience now
  · intro t' hsame hsignature audience now
    exact verify_of_sameSignature halg' h' hsame hsignature audience now
  · intro r store owner now views hr hlist v hv
    exact sameSignature_of_list halg' h' hr hlist hv
  · exact sameSignature_iff_of_canonical halg h hcanonical hsame

end

section
attribute [local instance] Platform.standard

/-- A sign of padding behind a token of the sample signer passes, and a letter does not. -/
theorem verify_resigned_sample : ∃ t c,
    sample.sign ⟨"ann", "7", .sessionAccess, "gatehouse", ⟨0, some 0⟩, none⟩ = .ok t ∧
    sample.verify (.text (t ++ "=" : String)) (some .sessionAccess) ⟨second, some 0⟩ = .ok c ∧
    ∃ f, sample.verify (.text (t ++ "A" : String)) (some .sessionAccess) ⟨second, some 0⟩ =
      .error f ∧ f.isUnauthorized = true := by
  obtain ⟨t, ht, hverify⟩ := exists_sign_sample
  obtain ⟨hrefused, -, halike, -, hforms⟩ :=
    verify_resigned (s := sample) (d := .sha256) rfl ht sample.machineTime
  obtain ⟨hsame, hiff⟩ := hforms Platform.canonical_standard
  have hcompleted : SameSignature t (t ++ "=") := (hiff _ hsame).2 (.inr rfl)
  have hletter : SameSigned t (t ++ "A") := by
    obtain ⟨header, payload, part, part', hheader, hpayload, hpart, -, hfirst, -⟩ := hsame
    refine ⟨header, payload, part, part ++ ['A'], hheader, hpayload, hpart, by simpa, hfirst, ?_⟩
    rw [String.toList_append, hfirst]
    simp
  have hother : ¬ SameSignature t (t ++ "A") := by
    rw [hiff _ hletter, not_or]
    constructor
    · intro he
      simpa using congrArg String.length he
    · intro he
      simpa [signaturePadding] using congrArg String.toList he
  exact ⟨t, _, ht, (halike _ hsame hcompleted _ _).trans hverify, hrefused _ hletter hother _ _⟩

/-- A second text passes for a token of the sample signer: a sign of padding completes its
signature. -/
theorem verify_second_text : ∃ t, sample.sign
      ⟨"ann", "7", .sessionAccess, "gatehouse", ⟨0, some 0⟩, none⟩ = .ok t ∧
    SameSigned t (t ++ "=") ∧ t ++ "=" ≠ t ∧
    sample.verify (.text (t ++ "=" : String)) (some .sessionAccess) ⟨second, some 0⟩ =
      .ok ⟨"ann", "7", .sessionAccess, "gatehouse", ⟨0, some 0⟩, none⟩ := by
  obtain ⟨t, ht, hverify⟩ := exists_sign_sample
  have hsame : SameSigned t (t ++ "=") := sameSigned_completed (d := .sha256) rfl ht
  have hcompleted : SameSignature t (t ++ "=") :=
    (sameSignature_iff_of_canonical (d := .sha256) rfl ht Platform.canonical_standard hsame).2
      (.inr rfl)
  refine ⟨t, ht, hsame, ?_, ?_⟩
  · intro he
    simpa using congrArg String.length he
  · exact (verify_of_sameSignature (d := .sha256) rfl ht hsame hcompleted _ _).trans hverify

end

end Signer

end Gatehouse
