import Gatehouse.Text.Encoding
import Mathlib.Tactic.Common

/-!
ASCII texts have one byte for each character, and bytes of ASCII without a zero are detected
as UTF-8.
-/
namespace Gatehouse.Text

/-- A character of ASCII other than the zero. -/
def IsAscii (c : Char) : Prop := 0 < c.toNat ∧ c.toNat < 0x80

theorem toNat_ofNat_of_lt {n : Nat} (h : n < 0x80) : (Char.ofNat n).toNat = n :=
  congrArg Char.toNat (dif_pos (show n.isValidChar from .inl (by omega)))

theorem bounds_of_isAlphanum {c : Char} (h : c.isAlphanum = true) :
    48 ≤ c.toNat ∧ c.toNat ≤ 122 := by
  delta Char.isAlphanum Char.isAlpha Char.isUpper Char.isLower Char.isDigit at h
  simp only [Bool.or_eq_true, Bool.and_eq_true, decide_eq_true_eq] at h
  rcases h with (h | h) | h
  · have : 65 ≤ c.toNat ∧ c.toNat ≤ 90 := h
    omega
  · have : 97 ≤ c.toNat ∧ c.toNat ≤ 122 := h
    omega
  · have : 48 ≤ c.toNat ∧ c.toNat ≤ 57 := h
    omega

theorem toNat_toUInt8 {c : Char} (h : IsAscii c) : c.toNat.toUInt8.toNat = c.toNat := by
  have hc := h.2
  simp
  omega

namespace Utf8

theorem encodeChar_of_isAscii {c : Char} (h : IsAscii c) : encodeChar c = [c.toNat.toUInt8] := by
  simp [encodeChar, h.2]

theorem encode_of_isAscii {cs : List Char} (h : ∀ c ∈ cs, IsAscii c) :
    encode cs = cs.map fun c => c.toNat.toUInt8 := by
  induction cs with
  | nil => rfl
  | cons c r ih =>
    have hr := ih fun d hd => h d (List.mem_cons_of_mem c hd)
    simp only [encode, List.flatMap_cons, encodeChar_of_isAscii (h c (by simp))] at hr ⊢
    rw [hr]
    rfl

theorem decode_of_isAscii {cs : List Char} (h : ∀ c ∈ cs, IsAscii c) :
    decode (cs.map fun c => c.toNat.toUInt8) = some cs := by
  induction cs with
  | nil => rfl
  | cons c r ih =>
    have hc := h c (by simp)
    have hr := ih fun d hd => h d (List.mem_cons_of_mem c hd)
    rw [List.map_cons, decode.eq_def]
    simp only [toNat_toUInt8 hc, if_pos hc.2, hr]
    simp

end Utf8

theorem decodeUnmarked_eq_decode {bs : List UInt8} (h : ∀ b ∈ bs, b ≠ 0) :
    decodeUnmarked bs = Utf8.decode bs := by
  unfold decodeUnmarked
  split
  · rw [if_neg (h _ (by simp)), if_neg (h _ (by simp))]
  · rw [if_neg (h _ (by simp)), if_neg (h _ (by simp))]
  · rfl

/-- No mark starts with the byte of an ASCII character, the zero apart. -/
theorem exists_cons_of_mem_marks {p : List UInt8 × (List UInt8 → Option (List Char))}
    (hp : p ∈ marks) : ∃ b r, p.1 = b :: r ∧ (b = 0 ∨ 0x80 ≤ b.toNat) := by
  simp only [marks, List.mem_cons, List.not_mem_nil, or_false] at hp
  rcases hp with rfl | rfl | rfl | rfl | rfl
  · exact ⟨_, _, rfl, .inr (by decide)⟩
  · exact ⟨_, _, rfl, .inl rfl⟩
  · exact ⟨_, _, rfl, .inr (by decide)⟩
  · exact ⟨_, _, rfl, .inr (by decide)⟩
  · exact ⟨_, _, rfl, .inr (by decide)⟩

theorem decodeDetected_eq_decode {bs : List UInt8}
    (h : ∀ b ∈ bs, 0 < b.toNat ∧ b.toNat < 0x80) : decodeDetected bs = Utf8.decode bs := by
  have hz : ∀ b ∈ bs, b ≠ 0 := by
    rintro b hb rfl
    have h0 := (h 0 hb).1
    rw [UInt8.toNat_zero] at h0
    exact absurd h0 (Nat.lt_irrefl 0)
  have hnone : marks.find? (·.1.isPrefixOf bs) = none := by
    rw [List.find?_eq_none]
    intro p hp hpre
    obtain ⟨b, r, hb, hlow⟩ := exists_cons_of_mem_marks hp
    rw [List.isPrefixOf_iff_prefix, hb] at hpre
    have hmem : b ∈ bs := hpre.subset (List.mem_cons_self ..)
    rcases hlow with hlow | hlow
    · exact hz b hmem hlow
    · have := (h b hmem).2
      omega
  rw [decodeDetected, hnone]
  exact decodeUnmarked_eq_decode hz

theorem decodeDetected_encode {cs : List Char} (h : ∀ c ∈ cs, IsAscii c) :
    decodeDetected (Utf8.encode cs) = some cs := by
  rw [Utf8.encode_of_isAscii h, decodeDetected_eq_decode, Utf8.decode_of_isAscii h]
  intro b hb
  obtain ⟨c, hc, rfl⟩ := List.mem_map.1 hb
  rw [toNat_toUInt8 (h c hc)]
  exact h c hc

end Gatehouse.Text
