/-!
Bytes as text in the URL-safe base-64 alphabet. `encode` writes no padding. `decode?` accepts
exactly one text for every byte string: the alphabet only, unused bits zero, and no padding;
`decodePadded?` also accepts a text that `=` signs complete to a multiple of four. Bytes are read
back from their text, which holds no dot and no sign of padding.
-/
namespace Gatehouse.Text.Base64Url

/-- The sixty-four digits. -/
def digit (n : Nat) : Char :=
  if n < 26 then Char.ofNat (0x41 + n)
  else if n < 52 then Char.ofNat (0x61 + (n - 26))
  else if n < 62 then Char.ofNat (0x30 + (n - 52))
  else if n = 62 then '-' else '_'

def value? (c : Char) : Option Nat :=
  if 'A' ≤ c ∧ c ≤ 'Z' then some (c.toNat - 0x41)
  else if 'a' ≤ c ∧ c ≤ 'z' then some (c.toNat - 0x61 + 26)
  else if '0' ≤ c ∧ c ≤ '9' then some (c.toNat - 0x30 + 52)
  else if c = '-' then some 62
  else if c = '_' then some 63
  else none

/-- Three bytes as four digits; one byte takes two digits and two bytes take three. -/
def encode : List UInt8 → List Char
  | [] => []
  | [a] => [digit (a.toNat / 4), digit (a.toNat % 4 * 16)]
  | [a, b] =>
    [digit (a.toNat / 4), digit (a.toNat % 4 * 16 + b.toNat / 16), digit (b.toNat % 16 * 4)]
  | a :: b :: c :: r =>
    digit (a.toNat / 4) :: digit (a.toNat % 4 * 16 + b.toNat / 16) ::
      digit (b.toNat % 16 * 4 + c.toNat / 64) :: digit (c.toNat % 64) :: encode r

/-- Four digits as three bytes; the unused bits of an incomplete last group must be zero. -/
def decode? : List Char → Option (List UInt8)
  | [] => some []
  | [_] => none
  | [w, x] => do
    let w ← value? w
    let x ← value? x
    if x % 16 = 0 then some [(w * 4 + x / 16).toUInt8] else none
  | [w, x, y] => do
    let w ← value? w
    let x ← value? x
    let y ← value? y
    if y % 4 = 0 then some [(w * 4 + x / 16).toUInt8, (x % 16 * 16 + y / 4).toUInt8] else none
  | w :: x :: y :: z :: r => do
    let w ← value? w
    let x ← value? x
    let y ← value? y
    let z ← value? z
    let bs ← decode? r
    some ((w * 4 + x / 16).toUInt8 :: (x % 16 * 16 + y / 4).toUInt8 ::
      (y % 4 * 64 + z).toUInt8 :: bs)

/-- Also accepts one or two `=` signs that complete the length to a multiple of four. -/
def decodePadded? (cs : List Char) : Option (List UInt8) :=
  if cs.length % 4 = 0 then
    match cs.reverse with
    | '=' :: '=' :: r => decode? r.reverse
    | '=' :: r => decode? r.reverse
    | _ => decode? cs
  else decode? cs

theorem value?_digit {n : Nat} (h : n < 64) : value? (digit n) = some n := by
  have hall : ∀ n < 64, value? (digit n) = some n := by decide
  exact hall n h

theorem digit_ne {n : Nat} (h : n < 64) : digit n ≠ '.' ∧ digit n ≠ '=' := by
  have hall : ∀ n < 64, digit n ≠ '.' ∧ digit n ≠ '=' := by decide
  exact hall n h

/-- A byte from its upper and its lower part. -/
theorem toUInt8_join {a : UInt8} {n : Nat} (h : n = a.toNat) : n.toUInt8 = a := by
  subst h
  simp

theorem decode?_encode (bs : List UInt8) : decode? (encode bs) = some bs := by
  fun_induction encode bs with
  | case1 => rfl
  | case2 a =>
    have ha := a.toNat_lt
    rw [decode?, value?_digit (by omega), value?_digit (by omega)]
    simp only [Option.bind_eq_bind, Option.bind_some]
    rw [if_pos (by omega), toUInt8_join (a := a) (by omega)]
  | case3 a b =>
    have ha := a.toNat_lt
    have hb := b.toNat_lt
    rw [decode?, value?_digit (by omega), value?_digit (by omega), value?_digit (by omega)]
    simp only [Option.bind_eq_bind, Option.bind_some]
    rw [if_pos (by omega), toUInt8_join (a := a) (by omega), toUInt8_join (a := b) (by omega)]
  | case4 a b c r ih =>
    have ha := a.toNat_lt
    have hb := b.toNat_lt
    have hc := c.toNat_lt
    rw [decode?, value?_digit (by omega), value?_digit (by omega), value?_digit (by omega),
      value?_digit (by omega), ih]
    simp only [Option.bind_eq_bind, Option.bind_some]
    rw [toUInt8_join (a := a) (by omega), toUInt8_join (a := b) (by omega),
      toUInt8_join (a := c) (by omega)]

/-- The text of bytes consists of digits of the alphabet. -/
theorem exists_digit_of_mem_encode {bs : List UInt8} {x : Char} (h : x ∈ encode bs) :
    ∃ n < 64, x = digit n := by
  fun_induction encode bs with
  | case1 => simp at h
  | case2 a =>
    have ha := a.toNat_lt
    simp only [List.mem_cons, List.not_mem_nil, or_false] at h
    rcases h with rfl | rfl <;> exact ⟨_, by omega, rfl⟩
  | case3 a b =>
    have ha := a.toNat_lt
    have hb := b.toNat_lt
    simp only [List.mem_cons, List.not_mem_nil, or_false] at h
    rcases h with rfl | rfl | rfl <;> exact ⟨_, by omega, rfl⟩
  | case4 a b c r ih =>
    have ha := a.toNat_lt
    have hb := b.toNat_lt
    have hc := c.toNat_lt
    simp only [List.mem_cons] at h
    rcases h with rfl | rfl | rfl | rfl | h
    · exact ⟨_, by omega, rfl⟩
    · exact ⟨_, by omega, rfl⟩
    · exact ⟨_, by omega, rfl⟩
    · exact ⟨_, by omega, rfl⟩
    · exact ih h

theorem dot_not_mem_encode (bs : List UInt8) : '.' ∉ encode bs := by
  intro h
  obtain ⟨n, hn, he⟩ := exists_digit_of_mem_encode h
  exact (digit_ne hn).1 he.symm

theorem decodePadded?_encode (bs : List UInt8) : decodePadded? (encode bs) = some bs := by
  have hpad : '=' ∉ (encode bs).reverse := by
    intro h
    obtain ⟨n, hn, he⟩ := exists_digit_of_mem_encode (List.mem_reverse.1 h)
    exact (digit_ne hn).2 he.symm
  unfold decodePadded?
  split
  · split
    · simp_all
    · simp_all
    · exact decode?_encode bs
  · exact decode?_encode bs

end Gatehouse.Text.Base64Url
