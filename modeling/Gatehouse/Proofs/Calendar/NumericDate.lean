import Gatehouse.Calendar.DateTime
import Gatehouse.Proofs.Number.Truncation

/-!
Whole seconds are counted exactly: the double-precision quotient of their microseconds is the
count itself, so a date-time of whole seconds is read back from its count.
-/
namespace Gatehouse.Number.Binary64

theorem not_roundsUp_of_dvd {num den : Nat} (hd : 0 < den) (hdvd : den ∣ num)
    (hq : num / den < 2 ^ 48) : ¬ RoundsUp num den := by
  intro hup
  have hmissing := hup.missing_le hq
  rw [Nat.mod_eq_zero_of_dvd hdvd, Nat.sub_zero, Nat.mul_le_mul_left_iff hd] at hmissing
  exact absurd hmissing (by decide)

/-- A whole quotient below `2 ^ 48` is rounded to itself. -/
theorem truncate?_ofQuotient {n : Int} {den : Nat} (hd : 0 < den) (hd' : den < 2 ^ 53)
    (hn : n.natAbs < 2 ^ 48) : (ofQuotient (n * den) den).truncate? = some n := by
  have habs : (n * (den : Int)).natAbs = n.natAbs * den := by
    rw [Int.natAbs_mul, Int.natAbs_natCast]
  have hwhole : n.natAbs * den / den = n.natAbs := Nat.mul_div_cancel _ hd
  have hsign : n * (den : Int) < 0 ↔ n < 0 := by
    constructor
    · intro h
      by_contra hn
      have := Int.mul_nonneg (Int.not_lt.1 hn) (Int.natCast_nonneg den)
      omega
    · intro h
      exact Int.mul_neg_of_neg_of_pos h (by omega)
  rw [ofQuotient, habs, truncate?_ofRatio _ hd hd' (by rwa [hwhole]),
    if_neg (not_roundsUp_of_dvd hd (Nat.dvd_mul_left ..) (by rwa [hwhole])), hwhole]
  simp only [hsign, decide_eq_true_eq, Option.some.injEq]
  split <;> omega

end Gatehouse.Number.Binary64

namespace Gatehouse.DateTime
open Number

/-- A date-time of UTC without a fraction of a second, in years 1 to 9999. -/
def WholeSecond (d : DateTime) : Prop :=
  ∃ n : Int, d = ⟨n * second, some 0⟩ ∧ inRange (n * second) = true

theorem inRange_iff {r : Int} : inRange r = true ↔ minReading ≤ r ∧ r ≤ maxReading := by
  simp [inRange]

theorem wholeSecond_truncateToSeconds {d u : DateTime} (h : d.truncateToSeconds = .ok u) :
    u.WholeSecond := by
  unfold truncateToSeconds toUtc ofReading at h
  split at h
  · next hr =>
    obtain rfl := Except.ok.inj h
    refine ⟨d.instant / second, rfl, ?_⟩
    rw [inRange_iff] at hr ⊢
    unfold minReading maxReading second at hr ⊢
    omega
  · cases h

theorem exists_truncateToSeconds {d : DateTime} (h : inRange d.instant = true) :
    ∃ u, d.truncateToSeconds = .ok u := by
  simp only [truncateToSeconds, toUtc, ofReading, h, if_true, bind, Except.bind]
  exact ⟨_, rfl⟩

theorem wholeSecond_ofNumericDate {n : Int} {d : DateTime} (h : ofNumericDate n = .ok d) :
    d.WholeSecond := by
  unfold ofNumericDate at h
  split_ifs at h with h1 h2 h3
  obtain rfl := Except.ok.inj h
  exact ⟨n, rfl, h3⟩

/-- Whole seconds are counted exactly, and read back from the count. -/
theorem WholeSecond.toNumericDate {d : DateTime} (h : d.WholeSecond) :
    ∃ n : Int, d.toNumericDate = .ok n ∧ ofNumericDate n = .ok d ∧ n.natAbs < 10 ^ 12 := by
  obtain ⟨n, rfl, hr⟩ := h
  have hb := inRange_iff.1 hr
  unfold minReading maxReading second at hb
  have hq : (Binary64.ofQuotient (n * second) 1000000).truncate? = some n :=
    Binary64.truncate?_ofQuotient (by decide) (by decide) (by omega)
  refine ⟨n, ?_, ?_, by omega⟩
  · have hu : toUtc ⟨n * second, some 0⟩ = .ok ⟨n * second, some 0⟩ := by
      simp [toUtc, instant, ofReading, hr]
    simp only [DateTime.toNumericDate, hu, bind, Except.bind, hq, Option.getD_some]
  · unfold ofNumericDate firstSystemSecond lastSystemSecond
    rw [if_neg (by omega), if_neg (by omega), if_pos hr]

end Gatehouse.DateTime
