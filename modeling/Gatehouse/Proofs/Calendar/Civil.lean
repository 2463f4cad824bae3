import Gatehouse.Calendar.Date
import Mathlib.Tactic.Common

/-!
The day count and the calendar are inverse to each other: year, month and day of a count lead
back to it, so a clock reading is told by its parts.
-/
namespace Gatehouse.Calendar

theorem daysBeforeMonth_succ (year : Nat) {month : Nat} (h : 1 ≤ month) :
    daysBeforeMonth year (month + 1) = daysBeforeMonth year month + daysInMonth year month := by
  obtain ⟨k, rfl⟩ := Nat.exists_eq_add_of_le' h
  simp [daysBeforeMonth, List.range_succ]

theorem daysInMonth_pos (year month : Nat) : 28 ≤ daysInMonth year month := by
  unfold daysInMonth
  split
  · split <;> omega
  all_goals omega

/-- The days before a year from its place in the cycles of 400, 100, 4 and 1 years. -/
theorem daysBeforeYear_eq {a b c d : Nat} (hb : b ≤ 3) (hc : c ≤ 24) (hd : d ≤ 3) :
    daysBeforeYear (400 * a + 100 * b + 4 * c + d + 1) =
      146097 * a + 36524 * b + 1461 * c + 365 * d := by
  have hfour : (400 * a + 100 * b + 4 * c + d) / 4 = 100 * a + 25 * b + c := by omega
  have hhundred : (400 * a + 100 * b + 4 * c + d) / 100 = 4 * a + b := by omega
  have hcycle : (400 * a + 100 * b + 4 * c + d) / 400 = a := by omega
  rw [daysBeforeYear, Nat.add_sub_cancel, hfour, hhundred, hcycle]
  omega

namespace Date

/-- The day found within a year is as far from its start as was asked for. -/
theorem toDay_within (year months : Nat) {month : Nat} (h : 1 ≤ month) (rest : Nat) :
    (within year months month rest).toDay =
      daysBeforeYear year + daysBeforeMonth year month + rest := by
  induction months generalizing month rest with
  | zero => simp [within, toDay]
  | succ months ih =>
    rw [within]
    split
    · simp [toDay]
    · next hlong =>
      rw [ih (by omega), daysBeforeMonth_succ year h]
      omega

theorem year_within (year months month rest : Nat) :
    (within year months month rest).year = year := by
  induction months generalizing month rest with
  | zero => rfl
  | succ months ih =>
    rw [within]
    split
    · rfl
    · exact ih ..

theorem month_within (year months month rest : Nat) :
    month ≤ (within year months month rest).month ∧
      (within year months month rest).month ≤ month + months := by
  induction months generalizing month rest with
  | zero => exact ⟨Nat.le_refl _, Nat.le_refl _⟩
  | succ months ih =>
    rw [within]
    split
    · exact ⟨Nat.le_refl _, Nat.le_add_right ..⟩
    · have := ih (month + 1) (rest - daysInMonth year month)
      omega

/-- The day of the month is small, since each month passed over has at least 28 days. -/
theorem day_within (year months month rest : Nat) :
    (within year months month rest).day ≤ 31 ∨
      (within year months month rest).day + 28 * months ≤ rest + 1 := by
  induction months generalizing month rest with
  | zero => exact .inr (Nat.le_refl _)
  | succ months ih =>
    rw [within]
    have hmonth : daysInMonth year month ≤ 31 := by
      unfold daysInMonth
      split
      · split <;> omega
      all_goals omega
    split
    · next hshort => exact .inl (show rest + 1 ≤ 31 by omega)
    · have hpos := daysInMonth_pos year month
      have := ih (month + 1) (rest - daysInMonth year month)
      omega

/-- The calendar names each day by the year, month and day that count it. -/
theorem toDay_ofDay (n : Nat) : (ofDay n).toDay = n := by
  unfold ofDay
  dsimp only
  rw [toDay_within _ _ (Nat.le_refl 1), daysBeforeYear_eq (by omega) (by omega) (by omega)]
  have hstart (year : Nat) : daysBeforeMonth year 1 = 0 := rfl
  rw [hstart]
  omega

/-- The days before year 10000 are named by four digits for the year and two for month and day. -/
theorem bounds_ofDay {n : Nat} (h : n < 3652059) :
    (ofDay n).year < 10000 ∧ 1 ≤ (ofDay n).month ∧ (ofDay n).month ≤ 12 ∧ (ofDay n).day < 100 := by
  unfold ofDay
  dsimp only
  generalize hrest : n % 146097 - min 3 (n % 146097 / 36524) * 36524 = r
  refine ⟨?_, (month_within ..).1, (month_within ..).2, ?_⟩
  · rw [year_within]
    omega
  · have hday := day_within
      (400 * (n / 146097) + 100 * min 3 (n % 146097 / 36524) + 4 * (r / 1461) +
        min 3 (r % 1461 / 365) + 1) 11 1 (r % 1461 - min 3 (r % 1461 / 365) * 365)
    omega

end Date

end Gatehouse.Calendar
