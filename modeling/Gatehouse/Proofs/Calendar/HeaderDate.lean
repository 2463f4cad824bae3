import Gatehouse.Calendar.Iso
import Gatehouse.Proofs.Calendar.Civil
import Gatehouse.Proofs.Calendar.NumericDate
import Gatehouse.Proofs.Text.Numeral

/-!
Dates of expiry headers are read back. `parseHeader?` is their reader; it finds the point in time
that was written, without its fraction of a second.
-/
namespace Gatehouse.DateTime
open Calendar Text

theorem digits?_append {cs : List Char} (h : ∀ c ∈ cs, IsDigit c) (r : List Char) :
    digits? cs.length (cs ++ r) = some (Nat.ofDigitChars 10 cs 0, r) := by
  induction cs with
  | nil => rfl
  | cons c cs ih =>
    have hc : '0' ≤ c ∧ c ≤ '9' := h c (by simp)
    have hr := ih fun x hx => h x (List.mem_cons_of_mem c hx)
    have hvalue : Nat.ofDigitChars 10 (c :: cs) 0 =
        (c.toNat - 0x30) * 10 ^ cs.length + Nat.ofDigitChars 10 cs 0 := by
      rw [Nat.ofDigitChars_cons, Nat.mul_zero, Nat.zero_add, Nat.mul_comm]
      exact Nat.ofDigitChars_eq_ofDigitChars_zero
    have hstep : digits? (cs.length + 1) (c :: (cs ++ r)) = (digits? cs.length (cs ++ r)).map
        fun p => ((c.toNat - 0x30) * 10 ^ cs.length + p.1, p.2) := if_pos hc
    rw [List.length_cons, List.cons_append, hstep, hr, hvalue]
    rfl

theorem isDigit_of_mem_padded {width n : Nat} {c : Char} (h : c ∈ padded width n) : IsDigit c := by
  rcases List.mem_append.1 h with h | h
  · obtain rfl := List.eq_of_mem_replicate h
    exact ⟨by decide, by decide⟩
  · exact isDigit_of_mem_toDigits h

/-- A number of at most `width` digits is read back from its padded numeral. -/
theorem digits?_padded {width n : Nat} (hw : 0 < width) (h : n < 10 ^ width) (r : List Char) :
    digits? width (padded width n ++ r) = some (n, r) := by
  have hlength : (Nat.toDigits 10 n).length ≤ width :=
    (Nat.length_toDigits_le_iff (by decide) hw).2 h
  have hpadded : (padded width n).length = width := by simp [padded, Nat.sub_add_cancel hlength]
  have hvalue : Nat.ofDigitChars 10 (padded width n) 0 = n := by
    rw [padded, Nat.ofDigitChars_append, Nat.ofDigitChars_replicate_zero, Nat.mul_zero,
      Nat.ofDigitChars_ten_toDigits]
  have hdigits : ∀ c ∈ padded width n, IsDigit c := fun c hc => isDigit_of_mem_padded hc
  have hread := digits?_append hdigits r
  rwa [hpadded, hvalue] at hread

/-- The number of a month behind its three letters. -/
def month? (cs : List Char) : Option (Nat × List Char) :=
  ((List.range' 1 12).find? fun n => (monthName n).toList == cs.take 3).map (·, cs.drop 3)

theorem month?_monthName {n : Nat} (hlow : 1 ≤ n) (hhigh : n ≤ 12) (r : List Char) :
    month? ((monthName n).toList ++ r) = some (n, r) := by
  interval_cases n <;> rfl

/-- Day, month and year of a header. -/
def headerDay? (cs : List Char) : Option (Date × List Char) := do
  let (day, cs) ← digits? 2 cs
  let cs ← expect ' ' cs
  let (month, cs) ← month? cs
  let cs ← expect ' ' cs
  let (year, cs) ← digits? 4 cs
  some (⟨year, month, day⟩, cs)

/-- Hour, minute and second of a header. -/
def headerClock? (cs : List Char) : Option ((Nat × Nat × Nat) × List Char) := do
  let (hour, cs) ← digits? 2 cs
  let cs ← expect ':' cs
  let (minute, cs) ← digits? 2 cs
  let cs ← expect ':' cs
  let (sec, cs) ← digits? 2 cs
  some ((hour, minute, sec), cs)

/-- Reads the date of an expiry header. The weekday is not looked at. -/
def parseHeader? (cs : List Char) : Option DateTime := do
  let cs ← stripPrefix? ", ".toList (cs.drop 3)
  let (date, cs) ← headerDay? cs
  let cs ← expect ' ' cs
  let ((hour, minute, sec), cs) ← headerClock? cs
  if cs = " GMT".toList then some ⟨readingOf date hour minute sec 0, some 0⟩ else none

theorem expect_cons (c : Char) (r : List Char) : expect c (c :: r) = some r := if_pos rfl

theorem digits?_two {n : Nat} (h : n < 100) (r : List Char) :
    digits? 2 (padded 2 n ++ r) = some (n, r) := digits?_padded (by decide) h r

theorem headerDay?_append {day month year : Nat} (hday : day < 100) (hlow : 1 ≤ month)
    (hhigh : month ≤ 12) (hyear : year < 10000) (r : List Char) :
    headerDay? (padded 2 day ++ ' ' :: ((monthName month).toList ++ ' ' :: (padded 4 year ++ r))) =
      some (⟨year, month, day⟩, r) := by
  have hfour : digits? 4 (padded 4 year ++ r) = some (year, r) := digits?_padded (by decide) hyear r
  simp only [headerDay?, digits?_two hday, expect_cons, month?_monthName hlow hhigh, hfour,
    Option.bind_eq_bind, Option.bind_some]

theorem headerClock?_append {hour minute sec : Nat} (hhour : hour < 100) (hminute : minute < 100)
    (hsec : sec < 100) (r : List Char) :
    headerClock? (padded 2 hour ++ ':' :: (padded 2 minute ++ ':' :: (padded 2 sec ++ r))) =
      some ((hour, minute, sec), r) := by
  simp only [headerClock?, digits?_two hhour, digits?_two hminute, digits?_two hsec, expect_cons,
    Option.bind_eq_bind, Option.bind_some]

theorem length_weekdayName {n : Nat} (h : n < 7) : (weekdayName n).toList.length = 3 := by
  interval_cases n <;> rfl

/-- A character of ASCII that does not end a part of a header. -/
def isFieldChar (c : Char) : Bool := c.toNat < 0x80 && c != ';'

theorem isFieldChar_iff {c : Char} : isFieldChar c = true ↔ c.toNat < 0x80 ∧ c ≠ ';' := by
  simp [isFieldChar]

theorem all_isFieldChar_padded (width n : Nat) : (padded width n).all isFieldChar = true := by
  rw [List.all_eq_true]
  intro c hc
  have hb := (isDigit_of_mem_padded hc).bounds
  refine isFieldChar_iff.2 ⟨by omega, ?_⟩
  rintro rfl
  exact absurd hb (by decide)

theorem all_isFieldChar_getD {names : List String}
    (h : names.all (fun s => s.toList.all isFieldChar) = true) (n : Nat) :
    (names[n]?.getD "").toList.all isFieldChar = true := by
  cases hn : names[n]? with
  | none => rfl
  | some s => exact List.all_eq_true.1 h s (List.mem_of_getElem? hn)

/-- A date of an expiry header is of ASCII, and has no semicolon that would end it. -/
theorem all_isFieldChar_headerText (d : DateTime) : d.headerText.all isFieldChar = true := by
  have hweekday (n : Nat) : (weekdayName n).toList.all isFieldChar = true :=
    all_isFieldChar_getD (by decide) n
  have hmonth (n : Nat) : (monthName n).toList.all isFieldChar = true :=
    all_isFieldChar_getD (by decide) (n - 1)
  have hcomma : ", ".toList.all isFieldChar = true := by decide
  have hzone : " GMT".toList.all isFieldChar = true := by decide
  have hspace : isFieldChar ' ' = true := by decide
  have hcolon : isFieldChar ':' = true := by decide
  rw [headerText]
  simp only [List.all_append, List.all_cons, hweekday, hmonth, hcomma, hzone, hspace, hcolon,
    all_isFieldChar_padded, Bool.and_true]

theorem ascii_of_mem_headerText {d : DateTime} {c : Char} (h : c ∈ d.headerText) :
    c.toNat < 0x80 ∧ c ≠ ';' :=
  isFieldChar_iff.1 (List.all_eq_true.1 (all_isFieldChar_headerText d) c h)

/-- The parts of a clock reading in years 1 to 9999. -/
theorem fields_bounds {d : DateTime} (h : inRange d.reading = true) :
    d.fields.date.year < 10000 ∧ 1 ≤ d.fields.date.month ∧ d.fields.date.month ≤ 12 ∧
      d.fields.date.day < 100 ∧ d.fields.hour < 24 ∧ d.fields.minute < 60 ∧ d.fields.sec < 60 := by
  have hb := inRange_iff.1 h
  unfold minReading maxReading second at hb
  unfold fields epochDay second
  dsimp only
  obtain ⟨hyear, hlow, hhigh, hday⟩ := Date.bounds_ofDay
    (n := (d.reading + (719162 : Nat) * 86400 * 1000000).toNat / 1000000 / 86400) (by omega)
  exact ⟨hyear, hlow, hhigh, hday, by omega, by omega, by omega⟩

/-- The parts of a clock reading, without the fraction of the second, tell its last whole second. -/
theorem readingOf_fields {d : DateTime} (h : inRange d.reading = true) :
    readingOf d.fields.date d.fields.hour d.fields.minute d.fields.sec 0 =
      d.reading / second * second := by
  have hb := inRange_iff.1 h
  unfold minReading maxReading second at hb
  unfold readingOf fields epochDay second
  dsimp only
  rw [Date.toDay_ofDay]
  omega

theorem parseHeader?_headerText {d : DateTime} (h : inRange d.reading = true) :
    parseHeader? d.headerText = some ⟨d.reading / second * second, some 0⟩ := by
  obtain ⟨hyear, hlow, hhigh, hday, hhour, hminute, hsec⟩ := fields_bounds h
  have hweekday : (weekdayName (Date.weekday d.fields.dayCount)).toList.length = 3 :=
    length_weekdayName (Nat.mod_lt _ (by decide))
  rw [← readingOf_fields h, parseHeader?, headerText]
  generalize " GMT".toList = zone
  generalize ", ".toList = comma
  simp only [List.append_assoc, List.cons_append]
  rw [List.drop_left' hweekday, stripPrefix?_append]
  simp only [headerDay?_append hday hlow hhigh hyear, expect_cons,
    headerClock?_append (show d.fields.hour < 100 by omega) (show d.fields.minute < 100 by omega)
      (show d.fields.sec < 100 by omega), Option.bind_eq_bind, Option.bind_some, if_true]

end Gatehouse.DateTime
