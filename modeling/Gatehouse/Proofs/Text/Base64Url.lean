import Gatehouse.Text.Base64Url
import Mathlib.Tactic.SplitIfs

/-!
What decodes from the URL-safe base-64 alphabet. A text that decodes is the text of the bytes that
it gives, perhaps with its padding.
-/
namespace Gatehouse.Text.Base64Url

/-- A character with a value is the digit of that value. -/
theorem value?_eq_some {c : Char} {n : Nat} (h : value? c = some n) : n < 64 ∧ c = digit n := by
  have hchar {m : Nat} (hm : m = c.toNat) : c = Char.ofNat m := by rw [hm, Char.ofNat_toNat]
  unfold value? at h
  split_ifs at h with hupper hlower hten hminus hlow
  · have hb : 65 ≤ c.toNat ∧ c.toNat ≤ 90 := hupper
    obtain rfl := Option.some.inj h
    rw [digit, if_pos (by omega)]
    exact ⟨by omega, hchar (by omega)⟩
  · have hb : 97 ≤ c.toNat ∧ c.toNat ≤ 122 := hlower
    obtain rfl := Option.some.inj h
    rw [digit, if_neg (by omega), if_pos (by omega)]
    exact ⟨by omega, hchar (by omega)⟩
  · have hb : 48 ≤ c.toNat ∧ c.toNat ≤ 57 := hten
    obtain rfl := Option.some.inj h
    rw [digit, if_neg (by omega), if_neg (by omega), if_pos (by omega)]
    exact ⟨by omega, hchar (by omega)⟩
  · obtain rfl := Option.some.inj h
    exact ⟨by decide, hminus⟩
  · obtain rfl := Option.some.inj h
    exact ⟨by decide, hlow⟩

/-- A byte that is put together from two parts. -/
theorem toNat_join {n : Nat} (h : n < 256) : n.toUInt8.toNat = n := UInt8.toNat_ofNat_of_lt h

/-- What decodes is the text of the bytes that it decodes to. -/
theorem eq_encode_of_decode? {cs : List Char} {bs : List UInt8} (h : decode? cs = some bs) :
    cs = encode bs := by
  fun_induction decode? cs generalizing bs with
  | case1 =>
    obtain rfl := Option.some.inj h
    rfl
  | case2 => cases h
  | case3 w x =>
    simp only [Option.bind_eq_bind, Option.bind_eq_some_iff] at h
    obtain ⟨m, hm, n, hn, h⟩ := h
    obtain ⟨hm, rfl⟩ := value?_eq_some hm
    obtain ⟨hn, rfl⟩ := value?_eq_some hn
    split_ifs at h with hunused
    obtain rfl := Option.some.inj h
    have hsecond : (m * 4 + n / 16) % 4 * 16 = n := by omega
    rw [encode, toNat_join (by omega), show (m * 4 + n / 16) / 4 = m by omega, hsecond]
  | case4 w x y =>
    simp only [Option.bind_eq_bind, Option.bind_eq_some_iff] at h
    obtain ⟨m, hm, n, hn, k, hk, h⟩ := h
    obtain ⟨hm, rfl⟩ := value?_eq_some hm
    obtain ⟨hn, rfl⟩ := value?_eq_some hn
    obtain ⟨hk, rfl⟩ := value?_eq_some hk
    split_ifs at h with hunused
    obtain rfl := Option.some.inj h
    have hsecond : (m * 4 + n / 16) % 4 * 16 + (n % 16 * 16 + k / 4) / 16 = n := by omega
    have hthird : (n % 16 * 16 + k / 4) % 16 * 4 = k := by omega
    rw [encode, toNat_join (by omega), toNat_join (by omega),
      show (m * 4 + n / 16) / 4 = m by omega, hsecond, hthird]
  | case5 w x y z r ih =>
    simp only [Option.bind_eq_bind, Option.bind_eq_some_iff] at h
    obtain ⟨m, hm, n, hn, k, hk, l, hl, bs', hbs, h⟩ := h
    obtain ⟨hm, rfl⟩ := value?_eq_some hm
    obtain ⟨hn, rfl⟩ := value?_eq_some hn
    obtain ⟨hk, rfl⟩ := value?_eq_some hk
    obtain ⟨hl, rfl⟩ := value?_eq_some hl
    obtain rfl := Option.some.inj h
    have hsecond : (m * 4 + n / 16) % 4 * 16 + (n % 16 * 16 + k / 4) / 16 = n := by omega
    have hthird : (n % 16 * 16 + k / 4) % 16 * 4 + (k % 4 * 64 + l) / 64 = k := by omega
    rw [encode, toNat_join (by omega), toNat_join (by omega), toNat_join (by omega),
      show (m * 4 + n / 16) / 4 = m by omega, hsecond, hthird,
      show (k % 4 * 64 + l) % 64 = l by omega, ← ih hbs]

theorem length_encode (bs : List UInt8) : (encode bs).length = (4 * bs.length + 2) / 3 := by
  fun_induction encode bs with
  | case1 => rfl
  | case2 a => simp
  | case3 a b => simp
  | case4 a b c r ih =>
    simp only [List.length_cons, ih]
    omega

theorem encode_eq_nil {bs : List UInt8} : encode bs = [] ↔ bs = [] := by
  rw [← List.length_eq_zero_iff, ← List.length_eq_zero_iff, length_encode]
  omega

/-- The signs that complete the text of so many bytes to a multiple of four characters. -/
def padding (size : Nat) : List Char := List.replicate ((3 - size % 3) % 3) '='

/-- Completed text decodes like the text itself. -/
theorem decodePadded?_padding (bs : List UInt8) :
    decodePadded? (encode bs ++ padding bs.length) = some bs := by
  have hlength := length_encode bs
  have hdecode := decode?_encode bs
  obtain hsize | hsize | hsize : bs.length % 3 = 0 ∨ bs.length % 3 = 1 ∨ bs.length % 3 = 2 := by
    omega
  · have hnone : padding bs.length = [] := by rw [padding, hsize]; rfl
    rw [hnone, List.append_nil]
    exact decodePadded?_encode bs
  · have htwo : padding bs.length = ['=', '='] := by rw [padding, hsize]; rfl
    rw [htwo, decodePadded?, if_pos (by simp; omega)]
    simp [hdecode]
  · have hone : padding bs.length = ['='] := by rw [padding, hsize]; rfl
    have hlast (r : List Char) : (encode bs).reverse ≠ '=' :: r := by
      intro hr
      have hmem : '=' ∈ (encode bs).reverse := by simp [hr]
      obtain ⟨n, hn, he⟩ := exists_digit_of_mem_encode (List.mem_reverse.1 hmem)
      exact (digit_ne hn).2 he.symm
    rw [hone, decodePadded?, if_pos (by simp; omega)]
    simp [hdecode]

/-- Bytes are decoded from their own text, and from that text with its padding, and from no other.
-/
theorem decodePadded?_eq_some {cs : List Char} {bs : List UInt8} :
    decodePadded? cs = some bs ↔ cs = encode bs ∨ cs = encode bs ++ padding bs.length := by
  have hlength := length_encode bs
  constructor
  · intro h
    unfold decodePadded? at h
    split at h
    · next hfour =>
      rw [← List.length_reverse] at hfour
      split at h
      · next r hr =>
        have hbody := eq_encode_of_decode? h
        rw [hr, ← List.length_reverse, List.reverse_cons, List.reverse_cons, hbody] at hfour
        simp only [List.length_append, List.length_singleton] at hfour
        have hsize : bs.length % 3 = 1 := by omega
        rw [padding, hsize, ← List.reverse_reverse cs, hr]
        exact .inr (by simp [hbody])
      · next r _ hr =>
        have hbody := eq_encode_of_decode? h
        rw [hr, ← List.length_reverse, List.reverse_cons, hbody] at hfour
        simp only [List.length_append, List.length_singleton] at hfour
        have hsize : bs.length % 3 = 2 := by omega
        rw [padding, hsize, ← List.reverse_reverse cs, hr]
        exact .inr (by simp [hbody])
      · exact .inl (eq_encode_of_decode? h)
    · exact .inl (eq_encode_of_decode? h)
  · rintro (rfl | rfl)
    · exact decodePadded?_encode bs
    · exact decodePadded?_padding bs

end Gatehouse.Text.Base64Url
