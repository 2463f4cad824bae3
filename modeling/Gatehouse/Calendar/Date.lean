/-!
Days of the Gregorian calendar from year 1 on, counted from 0001-01-01, which is day 0.
`Date.ofDay` goes from the count to year, month and day, `Date.toDay` back.
-/
namespace Gatehouse.Calendar

structure Date where
  year : Nat
  month : Nat
  day : Nat
  deriving DecidableEq, Repr

def isLeap (year : Nat) : Bool := year % 4 = 0 && (year % 100 ≠ 0 || year % 400 = 0)

def daysInMonth (year month : Nat) : Nat :=
  match month with
  | 2 => if isLeap year then 29 else 28
  | 4 | 6 | 9 | 11 => 30
  | _ => 31

def daysBeforeMonth (year month : Nat) : Nat :=
  (List.range (month - 1)).foldl (fun days i => days + daysInMonth year (i + 1)) 0

/-- The days before a year, from year 1. -/
def daysBeforeYear (year : Nat) : Nat :=
  let y := year - 1
  365 * y + y / 4 - y / 100 + y / 400

namespace Date

/-- Year, month and day name a day between year 1 and year 9999. -/
def valid (d : Date) : Bool :=
  1 ≤ d.year && d.year ≤ 9999 && 1 ≤ d.month && d.month ≤ 12 &&
    1 ≤ d.day && d.day ≤ daysInMonth d.year d.month

/-- The count of the day. -/
def toDay (d : Date) : Nat := daysBeforeYear d.year + daysBeforeMonth d.year d.month + (d.day - 1)

/-- The month and day within a year that hold the `rest`-th day after the start of `month`. -/
def within (year : Nat) : (months month rest : Nat) → Date
  | 0, month, rest => ⟨year, month, rest + 1⟩
  | months + 1, month, rest =>
    if rest < daysInMonth year month then ⟨year, month, rest + 1⟩
    else within year months (month + 1) (rest - daysInMonth year month)

def ofDay (n : Nat) : Date :=
  let n400 := n / 146097
  let r400 := n % 146097
  let n100 := min 3 (r400 / 36524)
  let r100 := r400 - n100 * 36524
  let n4 := r100 / 1461
  let r4 := r100 % 1461
  let n1 := min 3 (r4 / 365)
  let rest := r4 - n1 * 365
  within (400 * n400 + 100 * n100 + 4 * n4 + n1 + 1) 11 1 rest

/-- The day of the week, 0 for Monday. -/
def weekday (n : Nat) : Nat := n % 7

end Date

/-- The count of 1970-01-01. -/
def epochDay : Nat := 719162

example : (Date.mk 1970 1 1).toDay = epochDay := by decide
example : Date.ofDay epochDay = ⟨1970, 1, 1⟩ := by decide
example : Date.ofDay ((Date.mk 9999 12 31).toDay) = ⟨9999, 12, 31⟩ := by decide

end Gatehouse.Calendar
