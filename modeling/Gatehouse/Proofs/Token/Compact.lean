import Gatehouse.Proofs.Json.RoundTrip
import Gatehouse.Proofs.Text.Base64Url
import Gatehouse.Token.Compact

/-!
A token taken apart. `Compact.read_eq_ok` tells what a text that is read consists of, and
`Compact.read_write` that a written token is read back.
-/
namespace Gatehouse
open Text

namespace Text

theorem cutFirst_append {sep : Char} {a b : List Char} (h : sep ∉ a) :
    cutFirst sep (a ++ sep :: b) = some (a, b) := by
  induction a with
  | nil => simp [cutFirst]
  | cons c r ih =>
    simp only [List.mem_cons, not_or] at h
    rw [List.cons_append, cutFirst, if_neg (Ne.symm h.1), ih h.2]
    rfl

theorem cutLast_of_not_mem {sep : Char} {cs : List Char} (h : sep ∉ cs) :
    cutLast sep cs = none := by
  induction cs with
  | nil => rfl
  | cons c r ih =>
    simp only [List.mem_cons, not_or] at h
    simp [cutLast, ih h.2, Ne.symm h.1]

theorem cutLast_append {sep : Char} {a b : List Char} (h : sep ∉ b) :
    cutLast sep (a ++ sep :: b) = some (a, b) := by
  induction a with
  | nil => simp [cutLast, cutLast_of_not_mem h]
  | cons c r ih => simp [cutLast, ih]

end Text

namespace Compact
variable [Platform]

/-- A part of a token decodes to a JSON object. -/
def Decodes (cs : List Char) (ms : Members) : Prop :=
  ∃ bs text, Platform.readPart? cs = some bs ∧ decodeDetected bs = some text ∧
    Json.parse text = .ok (.object ms)

theorem segment_eq_ok {cs : List Char} {bs : List UInt8} :
    segment cs = .ok bs ↔ Platform.readPart? cs = some bs := by
  unfold segment
  split
  · next bs' h => simp [h]
  · next h => simp [h]

theorem segment_encode (bs : List UInt8) : segment (Base64Url.encode bs) = .ok bs :=
  segment_eq_ok.2 (Platform.readPart?_encode bs)

theorem object_eq_ok {bs : List UInt8} {ms : Members} :
    object bs = .ok ms ↔
      ∃ text, decodeDetected bs = some text ∧ Json.parse text = .ok (.object ms) := by
  unfold object
  split
  · next h => simp [h]
  · next cs h =>
    cases hp : Json.parse cs with
    | error e => cases e <;> simp [h, hp]
    | ok v => cases v <;> simp [h, hp]

/-- A token that is read has a header before its first dot and a signature behind its last. -/
theorem read_eq_ok {cs : List Char} {c : Compact} (h : read cs = .ok c) :
    ∃ headerPart payloadPart signaturePart,
      cs = c.signed ++ '.' :: signaturePart ∧ '.' ∉ signaturePart ∧
      c.signed = headerPart ++ '.' :: payloadPart ∧ '.' ∉ headerPart ∧
      Decodes headerPart c.header ∧ Platform.readPart? payloadPart = some c.payload ∧
      Platform.readPart? signaturePart = some c.signature := by
  unfold read at h
  split at h
  · cases h
  · next signed signaturePart hlast =>
    split at h
    · cases h
    · next headerPart payloadPart hfirst =>
      obtain ⟨headerBytes, hhb, h⟩ := bind_eq_ok.1 h
      obtain ⟨header, hh, h⟩ := bind_eq_ok.1 h
      split at h
      · cases h
      · obtain ⟨payload, hp, h⟩ := bind_eq_ok.1 h
        obtain ⟨signature, hs, h⟩ := bind_eq_ok.1 h
        split at h
        · obtain rfl := Except.ok.inj h
          obtain ⟨hcs, hsig⟩ := eq_append_of_cutLast hlast
          obtain ⟨hsigned, hhead⟩ := eq_append_of_cutFirst hfirst
          obtain ⟨text, ht, hparse⟩ := object_eq_ok.1 hh
          exact ⟨headerPart, payloadPart, signaturePart, hcs, hsig, hsigned, hhead,
            ⟨headerBytes, text, segment_eq_ok.1 hhb, ht, hparse⟩, segment_eq_ok.1 hp,
            segment_eq_ok.1 hs⟩
        · cases h

/-! ### Written tokens -/

omit [Platform] in
theorem dot_not_mem_part (ms : Members) : '.' ∉ part ms := Base64Url.dot_not_mem_encode _

/-- The text of a regular object is read back from its bytes. -/
theorem object_print {ms : Members} (h : Json.Regular Platform.depthLimit (.object ms)) :
    object (Utf8.encode (Json.print (.object ms))) = .ok ms := by
  have hascii := decodeDetected_encode fun c hc => Json.isAscii_of_mem_print h hc
  exact object_eq_ok.2 ⟨_, hascii, Json.parse_print h⟩

/-- Whatever stands behind the dot of a signed text is read as its signature, if the header is one
that tokens may have. -/
theorem read_signed {header : Members} (payload : Members) {signaturePart : List Char}
    (hpart : '.' ∉ signaturePart) (hh : Json.Regular Platform.depthLimit (.object header))
    (hd : isDetached header = false) (hk : keyIdOk header = true) (hc : criticalOk header = true) :
    read (part header ++ '.' :: part payload ++ '.' :: signaturePart) =
      (fun signature => ⟨header, part header ++ '.' :: part payload,
        Utf8.encode (Json.print (.object payload)), signature⟩) <$> segment signaturePart := by
  unfold read
  rw [cutLast_append hpart]
  simp only [cutFirst_append (dot_not_mem_part header)]
  simp only [part, segment_encode, object_print hh, hd, hk, hc, bind, Except.bind, Bool.false_and,
    Bool.and_self, Bool.false_eq_true, if_false, if_true]
  cases segment signaturePart <;> rfl

/-- A written token is read back, if its header is one that tokens may have. -/
theorem read_write {header : Members} (payload : Members) (signature : List UInt8)
    (hh : Json.Regular Platform.depthLimit (.object header)) (hd : isDetached header = false)
    (hk : keyIdOk header = true) (hc : criticalOk header = true) :
    read (write (part header ++ '.' :: part payload) signature).toList =
      .ok ⟨header, part header ++ '.' :: part payload,
        Utf8.encode (Json.print (.object payload)), signature⟩ := by
  rw [write, String.toList_ofList,
    read_signed payload (Base64Url.dot_not_mem_encode signature) hh hd hk hc, segment_encode]
  rfl

end Compact

end Gatehouse
