import Gatehouse.Calendar.DateTime
import Gatehouse.Text.Split

/-!
Date-times as text: the form `2026-01-01T12:00:00.000001+05:30`, the form of data exchange,
which writes `Z` for UTC, and the form of expiry headers, `Thu, 08 Jan 2026 11:59:00 GMT`.
-/
namespace Gatehouse.DateTime
open Calendar Text

/-- The parts of a clock reading. -/
structure Fields where
  date : Date
  dayCount : Nat
  hour : Nat
  minute : Nat
  sec : Nat
  micro : Nat
  deriving Repr

def fields (d : DateTime) : Fields :=
  let total := (d.reading + (epochDay : Int) * 86400 * second).toNat
  let micros := total % 1000000
  let secs := total / 1000000
  let day := secs / 86400
  let rest := secs % 86400
  ⟨Date.ofDay day, day, rest / 3600, rest % 3600 / 60, rest % 60, micros⟩

def readingOf (date : Date) (hour minute sec micro : Nat) : Int :=
  ((date.toDay : Int) - epochDay) * 86400 * second +
    (hour * 3600 + minute * 60 + sec) * second + micro

/-- Date and time of day, the fraction only when there is one. -/
def clockText (d : DateTime) : List Char :=
  let f := d.fields
  padded 4 f.date.year ++ '-' :: padded 2 f.date.month ++ '-' :: padded 2 f.date.day ++
    'T' :: padded 2 f.hour ++ ':' :: padded 2 f.minute ++ ':' :: padded 2 f.sec ++
    (if f.micro = 0 then [] else '.' :: padded 6 f.micro)

/-- An offset as sign, hours, minutes and, when there are some, seconds with their fraction. -/
def offsetText (o : Int) : List Char :=
  let micros := o.natAbs % 1000000
  let n := o.natAbs / 1000000
  (if o < 0 then '-' else '+') :: padded 2 (n / 3600) ++ ':' :: padded 2 (n % 3600 / 60) ++
    (if n % 60 = 0 && micros = 0 then [] else ':' :: padded 2 (n % 60)) ++
    (if micros = 0 then [] else '.' :: padded 6 micros)

def isoText (d : DateTime) : String :=
  String.ofList (d.clockText ++ d.offset.elim [] offsetText)

/-- The form of data exchange: UTC is `Z`. -/
def exchangeText (d : DateTime) : String :=
  String.ofList (d.clockText ++
    d.offset.elim [] fun o => if o = 0 then ['Z'] else (offsetText o).take 6)

def weekdayName (n : Nat) : String :=
  ["Mon", "Tue", "Wed", "Thu", "Fri", "Sat", "Sun"][n]?.getD ""

def monthName (n : Nat) : String :=
  ["Jan", "Feb", "Mar", "Apr", "May", "Jun", "Jul", "Aug", "Sep", "Oct", "Nov",
    "Dec"][n - 1]?.getD ""

/-- The form of expiry headers, for a date-time on the clock of UTC. -/
def headerText (d : DateTime) : List Char :=
  let f := d.fields
  (weekdayName (Date.weekday f.dayCount)).toList ++ ", ".toList ++ padded 2 f.date.day ++
    ' ' :: (monthName f.date.month).toList ++ ' ' :: padded 4 f.date.year ++
    ' ' :: padded 2 f.hour ++ ':' :: padded 2 f.minute ++ ':' :: padded 2 f.sec ++ " GMT".toList

/-- A number of exactly `n` decimal digits. -/
def digits? : Nat → List Char → Option (Nat × List Char)
  | 0, cs => some (0, cs)
  | _ + 1, [] => none
  | n + 1, c :: r =>
    if '0' ≤ c ∧ c ≤ '9' then
      (digits? n r).map fun (v, rest) => ((c.toNat - 0x30) * 10 ^ n + v, rest)
    else none

def expect (c : Char) : List Char → Option (List Char)
  | d :: r => if d = c then some r else none
  | [] => none

/-- Year, month and day of an existing day. -/
def date? (cs : List Char) : Option (Date × List Char) := do
  let (y, cs) ← digits? 4 cs
  let cs ← expect '-' cs
  let (m, cs) ← digits? 2 cs
  let cs ← expect '-' cs
  let (d, cs) ← digits? 2 cs
  if (Date.mk y m d).valid then some (⟨y, m, d⟩, cs) else none

/-- The microseconds of fraction digits; digits after the sixth are dropped. -/
def fractionMicros (ds : List Char) : Nat :=
  let six := ds.take 6
  (six ++ List.replicate (6 - six.length) '0').foldl (fun n c => n * 10 + (c.toNat - 0x30)) 0

/-- The fraction behind a point, in microseconds, and what follows. -/
def fractionText (cs : List Char) : Nat × List Char :=
  match cs with
  | '.' :: r =>
    let ds := r.takeWhile fun c => '0' ≤ c && c ≤ '9'
    (fractionMicros ds, r.drop ds.length)
  | _ => (0, cs)

/-- Reads the first form; the offset may also be `Z`. -/
def parseIso? (s : String) : Option DateTime := do
  let (date, cs) ← date? s.toList
  let cs ← expect 'T' cs
  let (h, cs) ← digits? 2 cs
  let cs ← expect ':' cs
  let (mi, cs) ← digits? 2 cs
  let cs ← expect ':' cs
  let (se, cs) ← digits? 2 cs
  let (micro, cs) := fractionText cs
  let offset : Option Int ← match cs with
    | [] => some none
    | ['Z'] => some (some 0)
    | sign :: r => do
      let (oh, r) ← digits? 2 r
      let r ← expect ':' r
      let (om, r) ← digits? 2 r
      let os ← match r with
        | [] => some 0
        | ':' :: r => do
          let (os, r) ← digits? 2 r
          let (micros, r) := fractionText r
          if r.isEmpty then some (os * 1000000 + micros) else none
        | _ => none
      let n : Int := (oh * 3600 + om * 60) * second + os
      if sign = '+' then some (some n) else if sign = '-' then some (some (-n)) else none
  if h < 24 ∧ mi < 60 ∧ se < 60 then some ⟨readingOf date h mi se micro, offset⟩ else none

end Gatehouse.DateTime
