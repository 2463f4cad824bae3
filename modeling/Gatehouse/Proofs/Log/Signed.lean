import Gatehouse.Log.Record
import Gatehouse.Proofs.Log.Patterns
import Gatehouse.Proofs.Token.Opening
import Gatehouse.Proofs.Token.Tampering

/-!
Signed tokens in the log. A token that is signed with a key is masked wherever it begins a word: it
is seen in a masked message only if it stood directly behind a word character, and there it is seen
indeed. A token of a signer without a key, whose last segment is empty, is not masked where it is
set off.
-/
namespace Gatehouse.Log
open Text

/-! ### Characters -/

section
variable {c : Char}

theorem isWord_of_segmentChar (h : isSegmentChar c = true) : isWord c = true ∨ c = '-' := by
  simp only [isSegmentChar, Bool.or_eq_true, beq_iff_eq] at h
  rcases h with (h | rfl) | rfl
  · have hlow : c.toNat < 0x80 := by
      have := bounds_of_isAlphanum h
      omega
    exact .inl (by rw [isWord, if_pos hlow, h, Bool.true_or])
  · exact .inl (by decide)
  · exact .inr rfl

/-- No blank is part of a word. -/
theorem isWord_of_blank (h : isBlank c = true) : isWord c = false := by
  have hall : ∀ r ∈ blankRanges, ∀ n ∈ List.range' r.1 (r.2 + 1 - r.1),
      isWord (Char.ofNat n) = false := by decide +kernel
  obtain ⟨r, hr, hb⟩ := List.any_eq_true.1 h
  simp only [Bool.and_eq_true, decide_eq_true_eq] at hb
  have hmem : c.toNat ∈ List.range' r.1 (r.2 + 1 - r.1) := by
    rw [List.mem_range'_1]
    omega
  have hword := hall r hr c.toNat hmem
  rwa [Char.ofNat_toNat] at hword

/-- Letter case is nothing to a word character. -/
theorem isWord_toLower (c : Char) : isWord c.toLower = isWord c :=
  apply_toLower (by decide) c

theorem isSegmentChar_digit {n : Nat} (h : n < 64) : isSegmentChar (Base64Url.digit n) = true := by
  interval_cases n <;> decide

theorem isSegmentChar_of_mem_encode {bs : List UInt8} (h : c ∈ Base64Url.encode bs) :
    isSegmentChar c = true := by
  obtain ⟨n, hn, rfl⟩ := Base64Url.exists_digit_of_mem_encode h
  exact isSegmentChar_digit hn

theorem isBlank_of_segmentChar (h : isSegmentChar c = true) : isBlank c = false := by
  by_contra hblank
  rw [Bool.not_eq_false] at hblank
  rcases isWord_of_segmentChar h with hword | rfl
  · exact absurd (isWord_of_blank hblank) (by simp [hword])
  · exact absurd hblank (by decide)

end

/-! ### The segments of a token -/

/-- The three segments of a text, of which the first one begins with `eyJ` and has these letters
nowhere behind a `-`. The last one may be empty. -/
structure Segments (token first second third : List Char) : Prop where
  text : token = "eyJ".toList ++ first ++ '.' :: second ++ '.' :: third
  first_chars : ∀ c ∈ first, isSegmentChar c = true
  second_chars : ∀ c ∈ second, isSegmentChar c = true
  third_chars : ∀ c ∈ third, isSegmentChar c = true
  first_ne : first ≠ []
  second_ne : second ≠ []
  alone : ¬ ['-', 'e', 'y', 'J'] <:+: "eyJ".toList ++ first

/-- Only a signer without a key leaves the signature empty. -/
theorem signature_eq_nil [Platform] {algorithm secret : String} {signed : List Char}
    {bs : List UInt8} (h : Signer.signature algorithm secret signed = .ok bs) :
    bs = [] ↔ Algorithm.ofName? algorithm = some .unsigned := by
  unfold Signer.signature at h
  split at h
  · cases h
  · next hunsigned =>
    split_ifs at h
    obtain rfl := Except.ok.inj h
    simp [hunsigned]
  · next d hkeyed =>
    split_ifs at h
    obtain rfl := Except.ok.inj h
    have hlength := Hash.length_hmac d (Utf8.encode secret.toList) (Utf8.encode signed)
    simp only [hkeyed, Option.some.injEq, reduceCtorEq, iff_false]
    intro hnil
    rw [hnil] at hlength
    cases d <;> cases hlength

/-- The token of a signer has segments, and the last one is empty if the signer has no key. -/
theorem exists_segments [Platform] {s : Signer} {c : Claims} {t : String} (h : s.sign c = .ok t) :
    ∃ first second third, Segments t.toList first second third ∧
      (third = [] ↔ Algorithm.ofName? s.algorithm = some .unsigned) := by
  obtain ⟨payload, -, hsigned⟩ := bind_eq_ok.1 h
  obtain ⟨signature, hsignature, rfl⟩ := Signer.write_of_signPayload hsigned
  obtain ⟨first, hne, hfirst⟩ := s.exists_part_header
  have halone := s.not_infix_part_header
  have hchars (c : Char) (hc : c ∈ Compact.part s.header) : isSegmentChar c = true :=
    isSegmentChar_of_mem_encode hc
  rw [hfirst] at halone hchars
  refine ⟨first, Compact.part payload, Base64Url.encode signature, ⟨?_, ?_, ?_, ?_, hne, ?_,
    halone⟩, ?_⟩
  · rw [Compact.write, String.toList_ofList, Signer.signedText, hfirst]
  · intro c hc
    exact hchars c (List.mem_append_right _ hc)
  · intro c hc
    exact isSegmentChar_of_mem_encode hc
  · intro c hc
    exact isSegmentChar_of_mem_encode hc
  · rw [Compact.part, Ne, Base64Url.encode_eq_nil, Json.print]
    exact List.cons_ne_nil _ _
  · rw [Base64Url.encode_eq_nil]
    exact signature_eq_nil hsignature

namespace Segments
variable {token first second third : List Char}

theorem opening_chars (h : Segments token first second third) :
    ∀ c ∈ "eyJ".toList ++ first, isSegmentChar c = true := by
  have hopening : ∀ x ∈ "eyJ".toList, isSegmentChar x = true := List.all_eq_true.1 (by decide)
  intro c hc
  rcases List.mem_append.1 hc with hc | hc
  · exact hopening c hc
  · exact h.first_chars c hc

theorem segmentChar_of_mem (h : Segments token first second third) {c : Char} (hc : c ∈ token) :
    isSegmentChar c = true ∨ c = '.' := by
  rw [h.text] at hc
  rcases List.mem_append.1 hc with hc | hc
  · rcases List.mem_append.1 hc with hc | hc
    · exact .inl (h.opening_chars c hc)
    · rcases List.mem_cons.1 hc with rfl | hc
      · exact .inr rfl
      · exact .inl (h.second_chars c hc)
  · rcases List.mem_cons.1 hc with rfl | hc
    · exact .inr rfl
    · exact .inl (h.third_chars c hc)

theorem not_mem (h : Segments token first second third) {c : Char} (hc : isSegmentChar c = false)
    (hdot : c ≠ '.') : c ∉ token := by
  intro hmem
  rcases h.segmentChar_of_mem hmem with hsegment | rfl
  · rw [hc] at hsegment
    cases hsegment
  · exact hdot rfl

theorem isBlank_of_mem (h : Segments token first second third) {c : Char} (hc : c ∈ token) :
    isBlank c = false := by
  rcases h.segmentChar_of_mem hc with hsegment | rfl
  · exact isBlank_of_segmentChar hsegment
  · decide

theorem count_dot (h : Segments token first second third) : token.count '.' = 2 := by
  have hnone {l : List Char} (hl : ∀ c ∈ l, isSegmentChar c = true) : l.count '.' = 0 := by
    apply List.count_eq_zero_of_not_mem
    intro hmem
    exact absurd (hl '.' hmem) (by decide)
  have hopening := hnone h.opening_chars
  rw [h.text, List.count_append, List.count_append, hopening, List.count_cons_self,
    List.count_cons_self, hnone h.second_chars, hnone h.third_chars]

/-! ### A token that is seen -/

/-- A token with a third segment that is seen in a masked text stood behind a word character. The
masking of a bearer credential behind it may have changed the letter case of its end. -/
theorem exists_of_infix (h : Segments token first second third) (hthird : third ≠ [])
    {cs : List Char} (hseen : token <:+: redactChars cs) :
    ∃ pre w spelled post, cs = pre ++ w :: spelled ++ post ∧ isWord w = true ∧
      spelled.map Char.toLower = token.map Char.toLower := by
  have hmask : ∀ x ∈ " ***".toList, x ∉ token ∧ isWord x = false := by
    intro x hx
    have hcases : x = ' ' ∨ x = '*' := by simpa using hx
    rcases hcases with rfl | rfl
    · exact ⟨h.not_mem (by decide) (by decide), by decide⟩
    · exact ⟨h.not_mem (by decide) (by decide), by decide⟩
  have hne : token ≠ [] := by
    rw [h.text]
    simp
  have hspells : tokenPattern.Spells id [] := fun _ _ _ _ => List.nil_prefix
  have hstars : ∀ x ∈ "**".toList, x ∉ token := fun x hx => (hmask x (by simp_all)).1
  obtain ⟨pre, post, hcs, hpost, hnone⟩ :=
    Pattern.infix_of_replaceFrom hspells hne (hmask '*' (by decide)).1 hstars hseen
  rw [List.map_id, List.map_id] at hpost
  obtain ⟨rest, rfl⟩ := hpost
  -- the token pattern matches the token itself, unless it stands behind a word character
  have hbefore : Pattern.wordBefore false pre = true := by
    by_contra hfree
    rw [Bool.not_eq_true] at hfree
    rw [hfree, h.text] at hnone
    exact tokenPattern_ne_none rest h.first_chars h.second_chars h.third_chars h.first_ne
      h.second_ne hthird (hnone rfl)
  obtain ⟨pre, w, rfl, hw⟩ := Pattern.exists_of_wordBefore hbefore
  have hkept : w :: token <:+: bearerPattern.replace "Bearer ***".toList cs := by
    rw [hcs]
    exact ⟨pre, rest, by simp⟩
  have havoids : ∀ x ∈ " ***".toList, x ∉ w :: token := by
    intro x hx hmem
    obtain ⟨htoken, hword⟩ := hmask x hx
    rcases List.mem_cons.1 hmem with rfl | hmem
    · rw [hword] at hw
      cases hw
    · exact htoken hmem
  obtain ⟨pre', post', rfl, hspelled, -⟩ := Pattern.infix_of_replaceFrom bearerPattern_spells
    (List.cons_ne_nil w token) (havoids ' ' (by decide))
    (fun x hx => havoids x (List.mem_cons_of_mem ' ' hx)) hkept
  obtain ⟨l, ⟨post'', rfl⟩, hl⟩ := List.prefix_map_iff.1 hspelled
  obtain ⟨w', spelled, rfl, hw', hcase⟩ := List.map_eq_cons_iff.1 hl.symm
  refine ⟨pre', w', spelled, post'', by simp, ?_, hcase⟩
  rw [← isWord_toLower, hw', isWord_toLower]
  exact hw

/-! ### A token that is not masked -/

/-- A match that begins at a token or within it begins in the first part, and needs the third. -/
theorem exists_of_match (h : Segments token first second third) {pre post : List Char}
    (htoken : token = pre ++ post) {inWord : Bool} {n : Nat}
    (hmatch : tokenPattern inWord post = some n) :
    third ≠ [] ∧ ∃ k, "eyJ".toList ++ first = pre ++ ("eyJ".toList ++ k) := by
  obtain ⟨-, a, b, c, rest, hpost, -, -, hc, -⟩ := exists_of_tokenPattern hmatch
  have hdots : 2 + (c ++ rest).count '.' ≤ post.count '.' := by
    rw [hpost]
    simp only [List.count_append, List.count_cons_self]
    omega
  have hall : pre.count '.' + post.count '.' = 2 := by
    rw [← List.count_append, ← htoken, h.count_dot]
  have hparts := htoken.symm.trans h.text
  rw [List.append_assoc ("eyJ".toList ++ first)] at hparts
  rcases List.append_eq_append_iff.1 hparts with ⟨l, hfirst, hl⟩ | ⟨l, hpre, hl⟩
  · constructor
    · rintro rfl
      have hlast : '.' ∈ c ++ rest := by
        rcases List.eq_nil_or_concat' (c ++ rest) with hnil | ⟨q, z, hq⟩
        · exact absurd (List.append_eq_nil_iff.1 hnil).1 hc
        · have hends : ("eyJ".toList ++ a ++ '.' :: b ++ '.' :: q) ++ [z] =
              (l ++ '.' :: second) ++ ['.'] := by
            calc
              _ = "eyJ".toList ++ a ++ '.' :: b ++ '.' :: (c ++ rest) := by simp [hq]
              _ = post := by simp [hpost]
              _ = _ := by simp [hl]
          have hz := (List.append_inj' hends rfl).2
          rw [hq, List.mem_append]
          exact .inr (List.mem_singleton.2 (List.singleton_inj.1 hz).symm)
      have := List.count_pos_iff.2 hlast
      omega
    · have hstart : "eyJ".toList <+: l ++ '.' :: (second ++ '.' :: third) := by
        rw [List.cons_append] at hl
        rw [← hl, hpost]
        simp only [List.append_assoc]
        exact List.prefix_append _ _
      obtain ⟨k, rfl⟩ := prefix_of_append_cons (by decide) hstart
      exact ⟨k, hfirst⟩
  -- a match that begins behind the first dot has no two dots left
  · cases l with
    | nil =>
      rw [hpost] at hl
      cases hl
    | cons x l =>
      obtain ⟨rfl, -⟩ := List.cons.inj hl
      have hdot : 1 ≤ pre.count '.' := by
        rw [hpre]
        simp only [List.count_append, List.count_cons_self]
        omega
      omega

/-- Behind a word character no match begins, at the token or within it. -/
theorem not_occursFrom_behind (h : Segments token first second third) {w : Char}
    (hw : isWord w = true) (inWord : Bool) :
    tokenPattern.occursFrom inWord (w :: token) = false := by
  by_contra hoccurs
  rw [Bool.not_eq_false] at hoccurs
  obtain ⟨pre, post, n, hcut, hmatch⟩ := Pattern.exists_of_occursFrom hoccurs
  obtain ⟨hfree, a, b, c, rest, hpost, -⟩ := exists_of_tokenPattern hmatch
  cases pre with
  | nil =>
    have htext := h.text
    rw [List.nil_append] at hcut
    rw [← hcut] at hpost
    rw [(List.cons.inj hpost).2] at htext
    cases htext
  | cons x pre =>
    obtain ⟨rfl, htoken⟩ := List.cons.inj hcut
    obtain ⟨-, k, hfirst⟩ := h.exists_of_match htoken hmatch
    rcases List.eq_nil_or_concat' pre with rfl | ⟨q, z, rfl⟩
    · exact absurd hw (by simp [show isWord w = false from hfree])
    · have hz : isWord z = false := by
        rwa [← List.cons_append, Pattern.wordBefore_append] at hfree
      have hchar : isSegmentChar z = true := by
        apply h.opening_chars
        rw [hfirst]
        simp
      rcases isWord_of_segmentChar hchar with hword | rfl
      · rw [hz] at hword
        cases hword
      · apply h.alone
        rw [hfirst]
        exact ⟨q, k, by simp⟩

/-- No match begins at a token with an empty third segment or within it. -/
theorem not_occursFrom (h : Segments token first second []) (inWord : Bool) :
    tokenPattern.occursFrom inWord token = false := by
  by_contra hoccurs
  rw [Bool.not_eq_false] at hoccurs
  obtain ⟨pre, post, n, htoken, hmatch⟩ := Pattern.exists_of_occursFrom hoccurs
  exact (h.exists_of_match htoken hmatch).1 rfl

end Segments

/-! ### Messages and records -/

/-- The token can be read in the message. -/
def Shows (message token : String) : Prop := token.toList <:+: message.toList

/-- The token, in some letter case, stands directly behind a word character of the message. -/
def Exposed (message token : String) : Prop :=
  ∃ pre w spelled post, message.toList = pre ++ w :: spelled ++ post ∧ isWord w = true ∧
    spelled.map Char.toLower = token.toList.map Char.toLower

theorem toList_redact (message : String) : (redact message).toList = redactChars message.toList :=
  String.toList_ofList

/-- A record that can be rendered is masked, and shows its masked text then. -/
theorem Record.exists_redact {r : Record} {text : String} (h : r.render = .ok text) :
    ∃ r', r.redact = .ok r' ∧ r'.render = .ok (Log.redact text) := by
  obtain ⟨r', hr'⟩ : ∃ r', r.redact = .ok r' := by
    by_cases hsame : Log.redact text = text
    · exact ⟨r, bind_eq_ok.2 ⟨text, h, if_pos hsame⟩⟩
    · exact ⟨⟨Log.redact text, .none⟩, bind_eq_ok.2 ⟨text, h, if_neg hsame⟩⟩
  exact ⟨r', hr', render_redact h hr'⟩

section
variable [Platform]

section
variable {s : Signer} {c : Claims} {t message : String} {pre post : List Char}

theorem exposed_of_shows (h : s.sign c = .ok t)
    (hkeyed : Algorithm.ofName? s.algorithm ≠ some .unsigned) (hseen : Shows (redact message) t) :
    Exposed message t := by
  obtain ⟨first, second, third, hsegments, hunsigned⟩ := exists_segments h
  rw [Shows, toList_redact] at hseen
  exact hsegments.exists_of_infix (fun hthird => hkeyed (hunsigned.1 hthird)) hseen

theorem shows_behind (h : s.sign c = .ok t) {w : Char} (hw : isWord w = true)
    (hpre : Pattern.Ended Apart pre) (hpost : Pattern.Begun Apart post)
    (hmessage : message.toList = pre ++ w :: t.toList ++ post) : Shows (redact message) t := by
  obtain ⟨first, second, third, hsegments, -⟩ := exists_segments h
  have hblank : ∀ x ∈ w :: t.toList, isBlank x = false := by
    intro x hx
    rcases List.mem_cons.1 hx with rfl | hx
    · by_contra hblank
      rw [Bool.not_eq_false] at hblank
      rw [isWord_of_blank hblank] at hw
      cases hw
    · exact hsegments.isBlank_of_mem hx
  rw [Shows, toList_redact, hmessage]
  exact (List.suffix_cons w _).isInfix.trans
    (infix_redactChars hpre hpost hblank (hsegments.not_occursFrom_behind hw))

theorem shows_unsigned (h : s.sign c = .ok t)
    (hunsigned : Algorithm.ofName? s.algorithm = some .unsigned) (hpre : Pattern.Ended Apart pre)
    (hpost : Pattern.Begun Apart post) (hmessage : message.toList = pre ++ t.toList ++ post) :
    Shows (redact message) t := by
  obtain ⟨first, second, third, hsegments, hempty⟩ := exists_segments h
  obtain rfl := hempty.2 hunsigned
  rw [Shows, toList_redact, hmessage]
  exact infix_redactChars hpre hpost (fun x hx => hsegments.isBlank_of_mem hx)
    hsegments.not_occursFrom

end

/-- Which tokens are seen in a masked message. One that is signed with a key is seen only if the
message has it directly behind a word character. There it is seen, in a message that sets off the
two from what stands around them. A token of a signer without a key is seen wherever it is set off.
A record that can be rendered shows its masked text after it was filtered. -/
theorem redact_signed {s : Signer} {c : Claims} {t : String} (h : s.sign c = .ok t) :
    (Algorithm.ofName? s.algorithm ≠ some .unsigned →
      ∀ message, Shows (redact message) t → Exposed message t) ∧
    (∀ message pre w post, message.toList = pre ++ w :: t.toList ++ post →
      Pattern.Ended Apart pre → Pattern.Begun Apart post → isWord w = true →
        Shows (redact message) t) ∧
    (Algorithm.ofName? s.algorithm = some .unsigned →
      ∀ message pre post, message.toList = pre ++ t.toList ++ post →
        Pattern.Ended Apart pre → Pattern.Begun Apart post → Shows (redact message) t) ∧
    ∀ (r : Record) text, r.render = .ok text →
      ∃ r', r.redact = .ok r' ∧ r'.render = .ok (redact text) := by
  refine ⟨?_, ?_, ?_, fun r text htext => Record.exists_redact htext⟩
  · intro hkeyed message hseen
    exact exposed_of_shows h hkeyed hseen
  · intro message pre w post hmessage hpre hpost hw
    exact shows_behind h hw hpre hpost hmessage
  · intro hunsigned message pre post hmessage hpre hpost
    exact shows_unsigned h hunsigned hpre hpost hmessage

end

section
attribute [local instance] Platform.standard

/-- A token of the sample signer is masked, but not behind a letter. -/
theorem redact_signed_sample : ∃ t, Signer.sample.sign
      ⟨"ann", "7", .sessionAccess, "gatehouse", ⟨0, some 0⟩, none⟩ = .ok t ∧
    ¬ Shows (redact t) t ∧ Shows (redact ("x" ++ t)) t := by
  obtain ⟨t, ht, -⟩ := Signer.exists_sign_sample
  obtain ⟨hmasked, hseen, -⟩ := redact_signed ht
  refine ⟨t, ht, ?_, hseen ("x" ++ t) [] 'x' [] ?_ (.inl rfl) (.inl rfl) (by decide)⟩
  · intro hshows
    obtain ⟨pre, w, spelled, post, htext, -, hcase⟩ := hmasked (by decide) t hshows
    have hlength := congrArg List.length htext
    have hspelled := congrArg List.length hcase
    simp only [List.length_append, List.length_cons, List.length_map] at hlength hspelled
    omega
  · rw [String.toList_append, List.append_nil]
    rfl

/-- A letter before a token of the sample signer keeps it from being masked. -/
theorem shows_behind_letter : ∃ t, Signer.sample.sign
      ⟨"ann", "7", .sessionAccess, "gatehouse", ⟨0, some 0⟩, none⟩ = .ok t ∧
    Shows (redact ("x" ++ t)) t := by
  obtain ⟨t, ht, -⟩ := Signer.exists_sign_sample
  have hmessage : ("x" ++ t).toList = [] ++ 'x' :: t.toList ++ [] := by
    rw [String.toList_append, List.append_nil]
    rfl
  exact ⟨t, ht, shows_behind ht (by decide) (.inl rfl) (.inl rfl) hmessage⟩

end

end Gatehouse.Log
