import Gatehouse.Text.PercentEncoding
import Mathlib.Tactic.Common

/-!
A text is what its percent-encoded form reads as exactly if it holds no escape. What stands for
itself is read back, and an escape is three characters and gives one at most: the bytes that a
character takes up with its first one continue it, and only an escape gives such a byte where no
character is open.
-/
namespace Gatehouse.Text

namespace Utf8

/-- A byte that continues a character. -/
def Continues (b : UInt8) : Prop := 0x80 ≤ b.toNat ∧ b.toNat < 0xc0

theorem continues_of_tail? {b : UInt8} {x : Nat} (h : tail? b = some x) : Continues b := by
  unfold tail? at h
  split at h
  · assumption
  · cases h

/-- What may stand behind a leading byte: no overlong form, no surrogate and nothing behind the last
character. -/
theorem secondBounds_iff {lead b : Nat} :
    ¬ (b < (secondBounds lead).1 ∨ (secondBounds lead).2 ≤ b) ↔
      0x80 ≤ b ∧ b < 0xc0 ∧ (lead = 0xe0 → 0xa0 ≤ b) ∧ (lead = 0xed → b < 0xa0) ∧
        (lead = 0xf0 → 0x90 ≤ b) ∧ (lead = 0xf4 → b < 0x90) := by
  unfold secondBounds
  dsimp only
  split_ifs <;> omega

theorem continues_of_second {lead : Nat} {b : UInt8}
    (h : ¬ (b.toNat < (secondBounds lead).1 ∨ (secondBounds lead).2 ≤ b.toNat)) : Continues b := by
  obtain ⟨hlow, hhigh, -⟩ := secondBounds_iff.1 h
  exact ⟨hlow, hhigh⟩

theorem exists_of_bind_tail? {r : List UInt8} {x : Nat} (h : r.head?.bind tail? = some x) :
    ∃ b rest, r = b :: rest ∧ Continues b := by
  obtain ⟨b, hb, htail⟩ := Option.bind_eq_some_iff.1 h
  obtain ⟨rest, rfl⟩ := List.head?_eq_some_iff.1 hb
  exact ⟨b, rest, rfl, continues_of_tail? htail⟩

/-- What a character takes up behind its first byte continues it. -/
theorem continues_of_mem_take {a : UInt8} {r : List UInt8} :
    ∀ b ∈ r.take ((takeChar a r).2 - 1), Continues b := by
  unfold takeChar
  dsimp only
  split
  · simp
  split
  · simp
  cases r with
  | nil => simp
  | cons d r =>
    dsimp only
    split
    · simp
    next hsecond =>
    have hd := continues_of_second hsecond
    split
    · simpa using hd
    split
    · simpa using hd
    next hthird =>
    obtain ⟨e, r, rfl, he⟩ := exists_of_bind_tail? hthird
    split
    · simpa using ⟨hd, he⟩
    split
    · simpa using ⟨hd, he⟩
    next hfourth =>
    obtain ⟨f, r, rfl, hf⟩ := exists_of_bind_tail? hfourth
    simpa using ⟨hd, he, hf⟩

theorem toNat_toUInt8_of_lt {n : Nat} (h : n < 256) : n.toUInt8.toNat = n :=
  Nat.mod_eq_of_lt h

theorem tail?_toUInt8 {n : Nat} (h : n < 64) : tail? (0x80 + n).toUInt8 = some n := by
  unfold tail?
  rw [toNat_toUInt8_of_lt (by omega), if_pos (by omega), Nat.add_sub_cancel_left]

theorem takeChar_encodeChar (c : Char) (rest : List UInt8) :
    ∃ a r, encodeChar c = a :: r ∧ takeChar a (r ++ rest) = (some c, r.length + 1) := by
  have hvalid : c.toNat < 0xd800 ∨ 0xdfff < c.toNat ∧ c.toNat < 0x110000 := c.valid
  have hc : Char.ofNat c.toNat = c := Char.ofNat_toNat c
  unfold encodeChar
  generalize c.toNat = n at hvalid hc ⊢
  -- One case for each number of bytes.
  dsimp only
  split_ifs with hone htwo hthree
  · refine ⟨_, _, rfl, ?_⟩
    unfold takeChar
    rw [toNat_toUInt8_of_lt (by omega), if_pos hone, hc]
    rfl
  · have hn : (0xc0 + n / 64 - 0xc0) * 64 + (0x80 + n % 64 - 0x80) = n := by omega
    have hsecond : ¬ (0x80 + n % 64 < (secondBounds (0xc0 + n / 64)).1 ∨
        (secondBounds (0xc0 + n / 64)).2 ≤ 0x80 + n % 64) :=
      secondBounds_iff.2 (by omega)
    refine ⟨_, _, rfl, ?_⟩
    unfold takeChar
    dsimp only [List.cons_append]
    rw [toNat_toUInt8_of_lt (by omega), toNat_toUInt8_of_lt (by omega), if_neg (by omega),
      if_neg (by omega), if_neg hsecond, if_pos (by omega), hn, hc]
    rfl
  · have hn : (0xe0 + n / 4096 - 0xe0) * 4096 + (0x80 + n / 64 % 64 - 0x80) * 64 + n % 64 = n := by
      omega
    have hsecond : ¬ (0x80 + n / 64 % 64 < (secondBounds (0xe0 + n / 4096)).1 ∨
        (secondBounds (0xe0 + n / 4096)).2 ≤ 0x80 + n / 64 % 64) :=
      secondBounds_iff.2 (by omega)
    refine ⟨_, _, rfl, ?_⟩
    unfold takeChar
    dsimp only [List.cons_append, List.head?_cons, Option.bind_some]
    rw [toNat_toUInt8_of_lt (by omega), toNat_toUInt8_of_lt (by omega), if_neg (by omega),
      if_neg (by omega), if_neg hsecond, if_neg (by omega), tail?_toUInt8 (by omega)]
    dsimp only
    rw [if_pos (by omega), hn, hc]
    rfl
  · have hn : (0xf0 + n / 262144 - 0xf0) * 262144 + (0x80 + n / 4096 % 64 - 0x80) * 4096 +
        n / 64 % 64 * 64 + n % 64 = n := by omega
    have hsecond : ¬ (0x80 + n / 4096 % 64 < (secondBounds (0xf0 + n / 262144)).1 ∨
        (secondBounds (0xf0 + n / 262144)).2 ≤ 0x80 + n / 4096 % 64) :=
      secondBounds_iff.2 (by omega)
    refine ⟨_, _, rfl, ?_⟩
    unfold takeChar
    dsimp only [List.cons_append, List.head?_cons, List.tail_cons, Option.bind_some]
    rw [toNat_toUInt8_of_lt (by omega), toNat_toUInt8_of_lt (by omega), if_neg (by omega),
      if_neg (by omega), if_neg hsecond, if_neg (by omega), tail?_toUInt8 (by omega)]
    dsimp only
    rw [if_neg (by omega), tail?_toUInt8 (by omega)]
    dsimp only
    rw [hn, hc]
    rfl

theorem decodeLossyFrom_append (r rest : List UInt8) :
    decodeLossyFrom r.length (r ++ rest) = decodeLossyFrom 0 rest := by
  induction r with
  | nil => rfl
  | cons b r ih => exact ih

/-- An encoded character is read back. -/
theorem decodeLossyFrom_encodeChar (c : Char) (rest : List UInt8) :
    decodeLossyFrom 0 (encodeChar c ++ rest) = c :: decodeLossyFrom 0 rest := by
  obtain ⟨a, r, hbytes, htake⟩ := takeChar_encodeChar c rest
  rw [hbytes, List.cons_append, decodeLossyFrom, htake, Nat.add_sub_cancel,
    decodeLossyFrom_append]
  rfl

/-- No encoded character begins with a byte that continues one. -/
theorem not_continues_encodeChar {c : Char} {a : UInt8} {r : List UInt8}
    (h : encodeChar c = a :: r) : ¬ Continues a := by
  have hc : c.toNat < 0x110000 := by
    have := c.valid
    simp only [UInt32.isValidChar, Nat.isValidChar] at this
    have h' : c.toNat = c.val.toNat := rfl
    omega
  unfold encodeChar at h
  unfold Continues
  dsimp only at h
  split_ifs at h <;> obtain ⟨rfl, -⟩ := List.cons.inj h <;>
    rw [toNat_toUInt8_of_lt (by omega)] <;> omega

end Utf8

namespace Percent
variable {c : Char} {r cs : List Char}

/-- A percent sign with two hexadecimal digits behind it. -/
def IsEscape (cs : List Char) : Prop :=
  ∃ a b, cs = ['%', a, b] ∧ (hexValue? a).isSome = true ∧ (hexValue? b).isSome = true

def HoldsEscape (cs : List Char) : Prop := ∃ pre m post, cs = pre ++ m ++ post ∧ IsEscape m

theorem holdsEscape_cons (h : HoldsEscape (c :: r)) :
    (∃ m post, c :: r = m ++ post ∧ IsEscape m) ∨ HoldsEscape r := by
  obtain ⟨pre, m, post, hcut, hm⟩ := h
  cases pre with
  | nil => exact .inl ⟨m, post, hcut, hm⟩
  | cons d pre => exact .inr ⟨pre, m, post, (List.cons.inj hcut).2, hm⟩

theorem HoldsEscape.cons (h : HoldsEscape r) : HoldsEscape (c :: r) := by
  obtain ⟨pre, m, post, rfl, hm⟩ := h
  exact ⟨c :: pre, m, post, rfl, hm⟩

theorem not_holdsEscape_of_not_mem (h : '%' ∉ cs) : ¬ HoldsEscape cs := by
  rintro ⟨pre, m, post, rfl, a, b, rfl, -⟩
  simp at h

/-- An escape stands for one byte. -/
theorem bytes_escape {m : List Char} (h : IsEscape m) (post : List Char) :
    ∃ b, bytes (m ++ post) = b :: bytes post := by
  obtain ⟨a, b, rfl, ha, hb⟩ := h
  obtain ⟨x, hx⟩ := Option.isSome_iff_exists.1 ha
  obtain ⟨y, hy⟩ := Option.isSome_iff_exists.1 hb
  exact ⟨(x * 16 + y).toUInt8, by simp [bytes, hx, hy]⟩

/-- Where no escape stands, a character stands for itself. -/
theorem bytes_cons (h : ∀ m post, c :: r = m ++ post → ¬ IsEscape m) :
    bytes (c :: r) = Utf8.encodeChar c ++ bytes r := by
  rw [bytes.eq_def]
  split
  · next a b post hcut =>
    obtain ⟨rfl, rfl⟩ := List.cons.inj hcut
    split
    · next hx hy => exact absurd ⟨a, b, rfl, by simp [hx], by simp [hy]⟩ (h ['%', a, b] post rfl)
    · rfl
  · next hcut =>
    obtain ⟨rfl, rfl⟩ := List.cons.inj hcut
    rfl
  · next hcut => cases hcut

theorem decode_eq_self (h : ¬ HoldsEscape cs) : decode cs = cs := by
  unfold decode Utf8.decodeLossy
  induction cs with
  | nil => rfl
  | cons c r ih =>
    have hnone (m post : List Char) (hcut : c :: r = m ++ post) : ¬ IsEscape m :=
      fun hm => h ⟨[], m, post, hcut, hm⟩
    rw [bytes_cons hnone, Utf8.decodeLossyFrom_encodeChar, ih fun hr => h hr.cons]

/-- Reading never makes a text longer, and shorter wherever it holds an escape. The bytes that are
skipped belong to escapes. -/
theorem length_decodeLossyFrom (cs : List Char) (skip : Nat)
    (hskip : ∀ b ∈ (bytes cs).take skip, Utf8.Continues b) :
    (Utf8.decodeLossyFrom skip (bytes cs)).length ≤ cs.length ∧
      (HoldsEscape cs → (Utf8.decodeLossyFrom skip (bytes cs)).length < cs.length) := by
  induction hlength : cs.length using Nat.strongRecOn generalizing cs skip with
  | ind n ih =>
    subst hlength
    by_cases hfirst : ∃ m post, cs = m ++ post ∧ IsEscape m
    · obtain ⟨m, post, rfl, hm⟩ := hfirst
      obtain ⟨b, hbytes⟩ := bytes_escape hm post
      have hthree : m.length = 3 := by
        obtain ⟨x, y, rfl, -⟩ := hm
        rfl
      have hshort : post.length < (m ++ post).length := by
        rw [List.length_append]
        omega
      rw [hbytes] at hskip ⊢
      rw [List.length_append, hthree]
      cases skip with
      | succ skip =>
        have hrest := (ih _ hshort post skip
          (fun b hb => hskip b (List.mem_cons_of_mem _ hb)) rfl).1
        rw [Utf8.decodeLossyFrom]
        exact ⟨by omega, fun _ => by omega⟩
      | zero =>
        have hrest := (ih _ hshort post ((Utf8.takeChar b (bytes post)).2 - 1)
          Utf8.continues_of_mem_take rfl).1
        rw [Utf8.decodeLossyFrom, List.length_cons]
        exact ⟨by omega, fun _ => by omega⟩
    · cases cs with
      | nil =>
        refine ⟨Nat.le_refl 0, ?_⟩
        rintro ⟨pre, m, post, hcut, a, b, rfl, -⟩
        simp at hcut
      | cons c r =>
        have hnone (m post : List Char) (hcut : c :: r = m ++ post) : ¬ IsEscape m :=
          fun hm => hfirst ⟨m, post, hcut, hm⟩
        rw [bytes_cons hnone] at hskip ⊢
        cases skip with
        | succ skip =>
          obtain ⟨a, bs, hbytes, -⟩ := Utf8.takeChar_encodeChar c []
          rw [hbytes] at hskip
          exact absurd (hskip a List.mem_cons_self) (Utf8.not_continues_encodeChar hbytes)
        | zero =>
          have hrest := ih _ (Nat.lt_succ_self r.length) r 0 (by simp) rfl
          rw [Utf8.decodeLossyFrom_encodeChar, List.length_cons, List.length_cons]
          refine ⟨Nat.succ_le_succ hrest.1, fun h => Nat.succ_lt_succ (hrest.2 ?_)⟩
          exact (holdsEscape_cons h).resolve_left hfirst

theorem length_decode_le (cs : List Char) : (decode cs).length ≤ cs.length :=
  (length_decodeLossyFrom cs 0 (by simp)).1

theorem decode_eq_self_iff : decode cs = cs ↔ ¬ HoldsEscape cs := by
  refine ⟨fun hsame h => ?_, decode_eq_self⟩
  have hlt := (length_decodeLossyFrom cs 0 (by simp)).2 h
  have hlength := congrArg List.length hsame
  unfold decode Utf8.decodeLossy at hlength
  omega

end Percent

end Gatehouse.Text
