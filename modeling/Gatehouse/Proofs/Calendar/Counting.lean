import Gatehouse.Proofs.Calendar.Instant

/-!
Counting seconds, and dropping the fraction of a second. The count takes the whole part of a
double-precision quotient: the fraction is dropped toward the epoch, and after the quotient is
rounded. So the count is the second that a point in time lies in, or the next one; `CountedInPlace`
tells which, and `numericDate_agrees_iff` says that a point in time is read back from its count as
it is with its fraction dropped exactly when it is the former.
-/
namespace Gatehouse.DateTime
open Number Binary64
variable {d : DateTime} {n : Int}

/-- The count of a point in time is the second that it lies in: there is no fraction to drop, or it
lies after the epoch and is not rounded to the next second, or it lies before the epoch and is
rounded to the second before. -/
def CountedInPlace (d : DateTime) : Prop :=
  second ∣ d.instant ∨ (0 ≤ d.instant ∧ ¬ RoundsUp d.instant.natAbs 1000000) ∨
    (d.instant < 0 ∧ RoundsUp d.instant.natAbs 1000000)

instance (d : DateTime) : Decidable d.CountedInPlace :=
  inferInstanceAs (Decidable (_ ∨ _ ∨ _))

theorem natAbs_instant_div_lt (h : inRange d.instant = true) :
    d.instant.natAbs / 1000000 < 2 ^ 38 := by
  rw [inRange_iff] at h
  unfold minReading maxReading second at h
  omega

theorem natAbs_instant_div_lt_of_neg (h : inRange d.instant = true) (hpast : d.instant < 0) :
    d.instant.natAbs / 1000000 < 2 ^ 36 := by
  rw [inRange_iff] at h
  unfold minReading maxReading second at h
  omega

/-- The count is the second that a point in time lies in, or the next one. -/
theorem toNumericDate_eq (h : inRange d.instant = true) :
    d.toNumericDate = .ok (d.instant / second + if d.CountedInPlace then 0 else 1) := by
  have hsmall := natAbs_instant_div_lt h
  have hcount : (ofRatio (d.instant < 0) d.instant.natAbs 1000000).truncate? = _ :=
    truncate?_ofRatio _ (by decide) (by decide) (by omega)
  simp only [toNumericDate, toUtc_eq_ok.2 ⟨h, rfl⟩, bind, Except.bind, ofQuotient, hcount,
    Option.getD_some, decide_eq_true_eq, Except.ok.injEq]
  unfold CountedInPlace second
  by_cases hup : RoundsUp d.instant.natAbs 1000000
  · have hfraction : ¬ (1000000 : Int) ∣ d.instant := by
      intro hdvd
      have hdvd' : 1000000 ∣ d.instant.natAbs := Int.natAbs_dvd_natAbs.2 hdvd
      exact not_roundsUp_of_dvd (by decide) hdvd' (by omega) hup
    simp only [hup, hfraction, if_true, not_true_eq_false, and_false, and_true, false_or]
    split_ifs <;> omega
  · simp only [hup, if_false, not_false_eq_true, and_true, and_false, or_false]
    split_ifs <;> omega

/-- A count is read as the second it names, and as no other. -/
theorem ofNumericDate_eq_floorSecond (h : inRange d.instant = true) :
    ofNumericDate n = .ok d.floorSecond ↔ n = d.instant / second := by
  have hinj {m : Int} (hm : ofNumericDate m = .ok d.floorSecond) : m = d.instant / second :=
    Int.eq_of_mul_eq_mul_right (by decide)
      (congrArg DateTime.reading (eq_of_ofNumericDate hm)).symm
  constructor
  · exact hinj
  · rintro rfl
    obtain ⟨m, -, hback, -⟩ := (wholeSecond_floorSecond h).toNumericDate
    rwa [hinj hback] at hback

/-- A point in time whose fraction is dropped first is counted as the second it lies in. -/
theorem toNumericDate_floorSecond (h : inRange d.instant = true) :
    d.floorSecond.toNumericDate = .ok (d.instant / second) := by
  have hwhole := wholeSecond_floorSecond h
  have hplace : d.floorSecond.CountedInPlace :=
    .inl (by rw [instant_floorSecond]; exact Int.dvd_mul_left ..)
  rw [toNumericDate_eq hwhole.inRange_instant, if_pos hplace, instant_floorSecond,
    Int.mul_ediv_cancel _ (by decide), Int.add_zero]

/-- From the epoch to 2514, half a unit in the last place is less than a microsecond. -/
theorem countedInPlace_of_near (hfrom : 0 ≤ d.instant) (hto : d.instant < 2 ^ 34 * second) :
    d.CountedInPlace := by
  refine .inr (.inl ⟨hfrom, fun hup => ?_⟩)
  unfold second at hto
  have hmissing := hup.missing_le (b := 33) (by omega)
  omega

/-- After the epoch, only the last microseconds of a second are rounded to the next one. -/
theorem countedInPlace_of_early (h : inRange d.instant = true) (hfrom : 0 ≤ d.instant)
    (hearly : d.instant % second < 999985) : d.CountedInPlace := by
  refine .inr (.inl ⟨hfrom, fun hup => ?_⟩)
  have hmissing := hup.missing_le (b := 37) (natAbs_instant_div_lt h)
  unfold second at hearly
  omega

/-- Before the epoch, only the first microseconds of a second are rounded to its start. -/
theorem not_countedInPlace_of_past (h : inRange d.instant = true) (hpast : d.instant < 0)
    (hlate : 4 ≤ d.instant % second) : ¬ d.CountedInPlace := by
  unfold second at hlate
  rintro (hdvd | ⟨hfrom, -⟩ | ⟨-, hup⟩)
  · unfold second at hdvd
    omega
  · omega
  · have hmissing := hup.missing_le (b := 35) (natAbs_instant_div_lt_of_neg h hpast)
    omega

/-- A point in time is read back from its count as it is with its fraction dropped exactly if it is
counted in place; otherwise it is counted as the next second. Every whole second and every point
from the epoch to 2514 is counted in place, and after the epoch every point of which 15 microseconds
of its second are left; before the epoch none is of which 4 microseconds of its second are over.
What is counted after its fraction is dropped is always the second that the point lies in. -/
theorem numericDate_agrees_iff (h : inRange d.instant = true) :
    (d.toNumericDate >>= ofNumericDate = d.truncateToSeconds ↔ d.CountedInPlace) ∧
    d.toNumericDate = .ok (d.instant / second + if d.CountedInPlace then 0 else 1) ∧
    (second ∣ d.instant → d.CountedInPlace) ∧
    (0 ≤ d.instant → d.instant < 2 ^ 34 * second → d.CountedInPlace) ∧
    (0 ≤ d.instant → d.instant % second < 999985 → d.CountedInPlace) ∧
    (d.instant < 0 → 4 ≤ d.instant % second → ¬ d.CountedInPlace) ∧
    d.truncateToSeconds >>= toNumericDate = .ok (d.instant / second) := by
  have hcount := toNumericDate_eq h
  have htruncated : d.truncateToSeconds = .ok d.floorSecond := truncateToSeconds_eq_ok.2 ⟨h, rfl⟩
  refine ⟨?_, hcount, .inl, countedInPlace_of_near, countedInPlace_of_early h,
    not_countedInPlace_of_past h, ?_⟩
  · rw [hcount, htruncated]
    show ofNumericDate _ = .ok d.floorSecond ↔ _
    rw [ofNumericDate_eq_floorSecond h]
    split_ifs with hplace
    · simp [hplace]
    · simp [hplace]
  · rw [htruncated]
    exact toNumericDate_floorSecond h

/-- 2026-01-01T12:00:00.987654+05:30 -/
def sampleFraction : DateTime := ⟨1767268800987654, some (19800 * second)⟩

/-- A quarter of a second before the epoch, on a clock that does not tell its offset. -/
def samplePast : DateTime := ⟨-250000, none⟩

theorem numericDate_agrees_iff_sample :
    sampleFraction.toNumericDate >>= ofNumericDate = sampleFraction.truncateToSeconds ∧
    sampleFraction.toNumericDate = .ok 1767249000 ∧
    samplePast.toNumericDate >>= ofNumericDate ≠ samplePast.truncateToSeconds ∧
    samplePast.truncateToSeconds >>= toNumericDate = .ok (-1) := by
  obtain ⟨hback, hcount, -, hnear, -⟩ := numericDate_agrees_iff (d := sampleFraction) (by decide)
  obtain ⟨hback', -, -, -, -, hpast, hfloor⟩ := numericDate_agrees_iff (d := samplePast) (by decide)
  have hplace := hnear (by decide) (by decide)
  rw [if_pos hplace] at hcount
  have hpast' := hpast (by decide) (by decide)
  exact ⟨hback.2 hplace, hcount, fun hsame => hpast' (hback'.1 hsame), hfloor⟩

/-- Half a second before the epoch is counted as the epoch, and the last microsecond of 9999 as the
year 10000, which no date-time names. -/
theorem numericDate_disagrees :
    inRange (-500000) = true ∧
    (⟨-500000, some 0⟩ : DateTime).truncateToSeconds = .ok ⟨-1 * second, some 0⟩ ∧
    (⟨-500000, some 0⟩ : DateTime).toNumericDate >>= ofNumericDate = .ok ⟨0, some 0⟩ ∧
    inRange maxReading = true ∧
    (⟨maxReading, some 0⟩ : DateTime).truncateToSeconds = .ok ⟨253402300799 * second, some 0⟩ ∧
    (⟨maxReading, some 0⟩ : DateTime).toNumericDate >>= ofNumericDate = .error .badValue :=
  ⟨by decide, rfl, rfl, by decide, rfl, rfl⟩

end Gatehouse.DateTime
