import Gatehouse.Number.Binary64
import Mathlib.Algebra.Order.Ring.Int
import Mathlib.Tactic.Common

/-!
The whole part of a double-precision quotient. Rounding may carry a quotient to the next whole
number but not past it: the whole part of the rounded quotient is that of the exact one, or one
more if what is missing to the next whole number is at most half a unit in the last place.
-/
namespace Gatehouse.Number

variable {num den k : Nat}

/-- A half goes to the even neighbour, so an even number is reached from half a unit below it. -/
theorem le_roundDiv_iff {p : Nat} (hd : 0 < den) (hp : 2 ∣ p) :
    p ≤ roundDiv num den ↔ 2 * (den * p - num) ≤ den := by
  have hmod := Nat.mod_lt num hd
  have hdiv := Nat.div_add_mod num den
  have hlow := div_le_roundDiv num den
  have hhigh := roundDiv_le num den
  obtain hle | heq | hlt : p ≤ num / den ∨ p = num / den + 1 ∨ num / den + 2 ≤ p := by omega
  · have hmul := Nat.mul_le_mul_left den hle
    omega
  · have hmul : den * p = den * (num / den) + den := by rw [heq, Nat.mul_succ]
    unfold roundDiv
    dsimp only
    split_ifs <;> omega
  · have hmul := Nat.mul_le_mul_left den hlt
    rw [Nat.mul_add] at hmul
    omega

/-- A quotient in units of `2 ^ -k` has the same whole part. -/
theorem scaled_div_two_pow (num den k : Nat) : num * 2 ^ k / den / 2 ^ k = num / den := by
  rw [Nat.div_div_eq_div_mul, Nat.mul_div_mul_right _ _ (Nat.two_pow_pos k)]

/-- In units of `2 ^ -k`, a quotient is rounded to the next whole number if it misses at most half a
unit of it, and otherwise to a number before. -/
theorem roundDiv_scaled_div (hd : 0 < den) (hk : 0 < k) :
    roundDiv (num * 2 ^ k) den / 2 ^ k =
      num / den + if (den - num % den) * 2 ^ (k + 1) ≤ den then 1 else 0 := by
  have hpow := Nat.two_pow_pos k
  have hwhole := scaled_div_two_pow num den k
  have hlow := Nat.div_le_div_right (c := 2 ^ k) (div_le_roundDiv (num * 2 ^ k) den)
  have hnext : roundDiv (num * 2 ^ k) den ≤ (num / den + 1) * 2 ^ k := by
    have hlt := Nat.lt_mul_of_div_lt (hwhole.trans_lt (Nat.lt_succ_self _)) hpow
    exact (roundDiv_le _ _).trans (Nat.mul_comm .. ▸ hlt)
  have hgap : den * ((num / den + 1) * 2 ^ k) - num * 2 ^ k = (den - num % den) * 2 ^ k := by
    have hdiv := Nat.div_add_mod num den
    have hmod := Nat.mod_lt num hd
    rw [← Nat.mul_assoc, ← Nat.sub_mul, Nat.mul_succ]
    congr 1
    omega
  have hreach : (num / den + 1) * 2 ^ k ≤ roundDiv (num * 2 ^ k) den ↔ _ :=
    le_roundDiv_iff hd (Dvd.dvd.mul_left (dvd_pow_self 2 hk.ne') (num / den + 1))
  rw [hgap, Nat.mul_comm 2, Nat.mul_assoc, ← Nat.pow_succ] at hreach
  split_ifs with hmiss
  · rw [Nat.le_antisymm hnext (hreach.2 hmiss), Nat.mul_div_cancel _ hpow]
  · have hlt : roundDiv (num * 2 ^ k) den / 2 ^ k < num / den + 1 :=
      (Nat.div_lt_iff_lt_mul hpow).2 (Nat.lt_of_not_le (hmiss ∘ hreach.1))
    omega

namespace Binary64

/-- The number nearest to `num / den` is the next whole number: what is missing to it is at most
half the distance between numbers of that size. -/
def RoundsUp (num den : Nat) : Prop :=
  (den - num % den) * 2 ^ 53 ≤ den * 2 ^ Nat.log2 (num / den)

instance (num den : Nat) : Decidable (RoundsUp num den) :=
  inferInstanceAs (Decidable (_ ≤ _))

/-- Among quotients below `2 ^ (b + 1)`, only what is missing little is rounded up. -/
theorem RoundsUp.missing_le {b : Nat} (h : RoundsUp num den) (hq : num / den < 2 ^ (b + 1)) :
    (den - num % den) * 2 ^ 53 ≤ den * 2 ^ b := by
  have hlog : Nat.log2 (num / den) ≤ b := by
    obtain hzero | hpos := Nat.eq_zero_or_pos (num / den)
    · rw [hzero, Nat.log2_zero]
      exact Nat.zero_le b
    · exact Nat.le_of_lt_succ ((Nat.log2_lt hpos.ne').2 hq)
  exact h.trans (Nat.mul_le_mul_left den (Nat.pow_le_pow_right (by decide) hlog))

theorem truncate?_finite (negative : Bool) (m : Nat) (hk : 0 < k) :
    (Binary64.finite negative m (-(k : Int))).truncate? =
      some (if negative then -((m / 2 ^ k : Nat) : Int) else (m / 2 ^ k : Nat)) := by
  have hneg : ¬ (0 : Int) ≤ -(k : Int) := by omega
  simp only [truncate?, ratio?, if_neg hneg, Int.neg_neg, Int.toNat_natCast, Option.map_some,
    Nat.one_shiftLeft]
  cases negative
  · simp only [Bool.false_eq_true, if_false, Int.ofNat_tdiv]
  · simp only [if_true, Int.neg_tdiv, Int.ofNat_tdiv]

/-- A number at an exponent well below zero keeps its whole part, also when the mantissa is full. -/
theorem truncate?_normalize (negative : Bool) (m : Nat) (hk : 1 < k) :
    (normalize negative m (-(k : Int))).truncate? =
      some (if negative then -((m / 2 ^ k : Nat) : Int) else (m / 2 ^ k : Nat)) := by
  unfold normalize
  by_cases h : m = mantissaBound
  · obtain ⟨k, rfl⟩ := Nat.exists_eq_add_one.2 (Nat.zero_lt_of_lt hk)
    have hhalf : m / 2 ^ (k + 1) = mantissaBound / 2 / 2 ^ k := by
      rw [h, Nat.div_div_eq_div_mul, Nat.pow_succ']
    have he : -((k + 1 : Nat) : Int) + 1 = -(k : Int) := by omega
    simp only [if_pos h, he]
    rw [if_neg (by unfold maxExponent; omega), hhalf]
    exact truncate?_finite negative _ (by omega)
  · simp only [if_neg h]
    rw [if_neg (by unfold maxExponent; omega)]
    exact truncate?_finite negative m (by omega)

theorem scaled_eq_roundDiv (hk : 0 < k) :
    scaled num den (-(k : Int)) = roundDiv (num * 2 ^ k) den := by
  have hneg : ¬ (0 : Int) ≤ -(k : Int) := by omega
  rw [scaled, if_neg hneg, Int.neg_neg, Int.toNat_natCast, Nat.shiftLeft_eq]

/-- The first guess of the unit leaves a quotient 53 or 54 binary digits. -/
theorem bounds_of_guess {j : Nat} (hn : 0 < num) (hd : 0 < den)
    (hj : j + Nat.log2 num = 53 + Nat.log2 den) :
    2 ^ 52 * den ≤ num * 2 ^ j ∧ num * 2 ^ j < 2 ^ 54 * den := by
  have hden := Nat.log2_self_le hd.ne'
  have hden' := Nat.lt_log2_self (n := den)
  have hnum := Nat.log2_self_le hn.ne'
  have hnum' := Nat.lt_log2_self (n := num)
  constructor
  · calc 2 ^ 52 * den ≤ 2 ^ 52 * 2 ^ (Nat.log2 den + 1) := Nat.mul_le_mul_left _ hden'.le
      _ = 2 ^ Nat.log2 num * 2 ^ j := by rw [← Nat.pow_add, ← Nat.pow_add]; congr 1; omega
      _ ≤ num * 2 ^ j := Nat.mul_le_mul_right _ hnum
  · calc num * 2 ^ j < 2 ^ (Nat.log2 num + 1) * 2 ^ j :=
          Nat.mul_lt_mul_of_pos_right hnum' (Nat.two_pow_pos j)
      _ = 2 ^ 54 * 2 ^ Nat.log2 den := by rw [← Nat.pow_add, ← Nat.pow_add]; congr 1; omega
      _ ≤ 2 ^ 54 * den := Nat.mul_le_mul_left _ hden

/-- A quotient is rounded in the unit that leaves it 53 binary digits. -/
theorem ofRatio_eq_normalize (negative : Bool) (hn : 0 < num) (hd : 0 < den) (hd' : den < 2 ^ 53)
    (hq : num / den < 2 ^ 48) : ∃ k : Nat, 1 < k ∧
      2 ^ 52 ≤ num * 2 ^ k / den ∧ num * 2 ^ k / den < 2 ^ 53 ∧
      ofRatio negative num den =
        normalize negative (roundDiv (num * 2 ^ k) den) (-(k : Int)) := by
  have hsmall : Nat.log2 den < 53 := (Nat.log2_lt hd.ne').2 hd'
  have hsize : Nat.log2 num < 49 + Nat.log2 den := by
    rw [Nat.log2_lt hn.ne']
    calc num < 2 ^ 48 * den := Nat.lt_mul_of_div_lt hq hd
      _ ≤ 2 ^ 48 * 2 ^ (Nat.log2 den + 1) := Nat.mul_le_mul_left _ Nat.lt_log2_self.le
      _ = 2 ^ (49 + Nat.log2 den) := by rw [← Nat.pow_add]; congr 1; omega
  obtain ⟨j, hj⟩ : ∃ j, j + Nat.log2 num = 53 + Nat.log2 den := ⟨_, Nat.sub_add_cancel (by omega)⟩
  obtain ⟨hlow, hhigh⟩ := bounds_of_guess hn hd hj
  have hguess : max minExponent ((Nat.log2 num : Int) - Nat.log2 den - 53) = -(j : Int) := by
    unfold minExponent
    omega
  have hneg : ¬ (0 : Int) ≤ -(j : Int) := by omega
  rw [ofRatio, if_neg hn.ne']
  simp only [hguess, if_neg hneg, Int.neg_neg, Int.toNat_natCast, Nat.shiftLeft_eq]
  by_cases hfull : mantissaBound ≤ num * 2 ^ j / den
  · obtain ⟨k, rfl⟩ := Nat.exists_eq_add_one.2 (show 0 < j by omega)
    have he : -((k + 1 : Nat) : Int) + 1 = -(k : Int) := by omega
    have hfull' := (Nat.le_div_iff_mul_le hd).1 hfull
    rw [mantissaBound] at hfull'
    rw [Nat.pow_succ, ← Nat.mul_assoc] at hfull' hhigh
    refine ⟨k, by omega, (Nat.le_div_iff_mul_le hd).2 (by omega),
      (Nat.div_lt_iff_lt_mul hd).2 (by omega), ?_⟩
    rw [if_pos hfull, he, scaled_eq_roundDiv (by omega)]
  · refine ⟨j, by omega, (Nat.le_div_iff_mul_le hd).2 hlow, Nat.lt_of_not_le hfull, ?_⟩
    rw [if_neg hfull, scaled_eq_roundDiv (by omega)]

/-- A quotient of 53 binary digits in units of `2 ^ -k` has the others before the point. -/
theorem add_log2_eq (hpos : 0 < num / den) (hlow : 2 ^ 52 ≤ num * 2 ^ k / den)
    (hhigh : num * 2 ^ k / den < 2 ^ 53) : k + Nat.log2 (num / den) = 52 := by
  have hpow := Nat.two_pow_pos k
  have hwhole := scaled_div_two_pow num den k
  have hk : k < 53 := by
    have hle : 2 ^ k ≤ num * 2 ^ k / den := (Nat.div_pos_iff.1 (hwhole ▸ hpos)).2
    exact (Nat.pow_lt_pow_iff_right (by decide)).1 (hle.trans_lt hhigh)
  obtain ⟨j, hj⟩ : ∃ j, j + k = 52 := ⟨_, Nat.sub_add_cancel (by omega)⟩
  have hge : 2 ^ j ≤ num / den := by
    rw [← hj, Nat.pow_add] at hlow
    rwa [← hwhole, Nat.le_div_iff_mul_le hpow]
  have hlt : num / den < 2 ^ (j + 1) := by
    rw [show 53 = j + 1 + k by omega, Nat.pow_add] at hhigh
    rwa [← hwhole, Nat.div_lt_iff_lt_mul hpow]
  have hle := (Nat.le_log2 hpos.ne').2 hge
  have hlog := (Nat.log2_lt hpos.ne').2 hlt
  omega

/-- In the unit that gives a quotient 53 binary digits, half a unit is what `RoundsUp` says. -/
theorem roundsUp_iff (hd : 0 < den) (hd' : den < 2 ^ 53) (hlow : 2 ^ 52 ≤ num * 2 ^ k / den)
    (hhigh : num * 2 ^ k / den < 2 ^ 53) :
    RoundsUp num den ↔ (den - num % den) * 2 ^ (k + 1) ≤ den := by
  have hpow := Nat.two_pow_pos k
  have hwhole := scaled_div_two_pow num den k
  have hmiss : 0 < den - num % den := Nat.sub_pos_of_lt (Nat.mod_lt num hd)
  unfold RoundsUp
  obtain hzero | hpos := Nat.eq_zero_or_pos (num / den)
  -- below one, both sides ask for more than the denominator has
  · have hk : 2 ^ 52 < 2 ^ k := by
      have hlt := (Nat.div_eq_zero_iff_lt hpow).1 (hwhole.trans hzero)
      omega
    have hfar : den < (den - num % den) * 2 ^ 53 := hd'.trans_le (Nat.le_mul_of_pos_left _ hmiss)
    have hfar' : (den - num % den) * 2 ^ 53 ≤ (den - num % den) * 2 ^ (k + 1) :=
      Nat.mul_le_mul_left _ (by rw [Nat.pow_succ]; omega)
    rw [hzero, Nat.log2_zero]
    omega
  · have hlog := add_log2_eq hpos hlow hhigh
    have hsplit : 2 ^ 53 = 2 ^ (k + 1) * 2 ^ Nat.log2 (num / den) := by
      rw [← Nat.pow_add]
      congr 1
      omega
    rw [hsplit, ← Nat.mul_assoc, Nat.mul_le_mul_right_iff (Nat.two_pow_pos _)]

/-- The whole part of a rounded quotient. -/
theorem truncate?_ofRatio (negative : Bool) (hd : 0 < den) (hd' : den < 2 ^ 53)
    (hq : num / den < 2 ^ 48) :
    (ofRatio negative num den).truncate? =
      let whole := num / den + if RoundsUp num den then 1 else 0
      some (if negative then -(whole : Int) else whole) := by
  obtain rfl | hn := Nat.eq_zero_or_pos num
  · have hup : ¬ RoundsUp 0 den := by
      simp only [RoundsUp, Nat.zero_mod, Nat.zero_div, Nat.log2_zero]
      omega
    have hzero (k : Nat) (hk : 0 < k) := truncate?_finite negative 0 hk
    simp only [Nat.zero_div] at hzero
    rw [if_neg hup, Nat.zero_div, ofRatio, if_pos rfl]
    exact hzero 1074 (by decide)
  · obtain ⟨k, hk, hlow, hhigh, heq⟩ := ofRatio_eq_normalize negative hn hd hd' hq
    rw [heq, truncate?_normalize negative _ hk, roundDiv_scaled_div hd (by omega)]
    simp only [roundsUp_iff hd hd' hlow hhigh]

end Binary64

end Gatehouse.Number
