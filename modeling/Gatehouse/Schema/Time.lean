import Gatehouse.Calendar.Iso
import Gatehouse.Schema.Checked

/-!
Date-times of data: a date with a time of day and maybe an offset, a date alone, or the seconds
since the epoch as a number or a text. Numbers of great magnitude are milliseconds.
-/
namespace Gatehouse.Schema
open Calendar Number

/-- Numbers above this magnitude are milliseconds. -/
def secondsLimit : Int := 20000000000

/-- The first second of year 1600, the earliest that a number can name. -/
def earliestSecond : Int := -11676096000

def latestSecond : Int := 253402300799

/-- A whole number of seconds or milliseconds, and microseconds on top, as a time of UTC. -/
def ofTimestamp? (n : Int) (micros : Nat) : Option DateTime :=
  let big := secondsLimit < n.natAbs
  let seconds := if big then n.fdiv 1000 else n
  let more := if big then n.fmod 1000 * 1000 else 0
  let total := micros + more
  let seconds := seconds + total / 1000000
  if earliestSecond ≤ seconds ∧ seconds ≤ latestSecond then
    some ⟨seconds * 1000000 + total % 1000000, some 0⟩
  else none

/-- The nearest integer to a finite number, a half going away from zero. -/
def nearest (x : Binary64) : Int :=
  match x.ratio? with
  | none => 0
  | some (n, d) =>
    let m : Int := ((2 * n.natAbs + d) / (2 * d) : Nat)
    if n < 0 then -m else m

/-- A number of seconds with a fraction. The fraction counts forward from the floor, whatever
the sign of the number. -/
def ofSeconds? (x : Binary64) : Option DateTime :=
  match x.truncate?, x.floor? with
  | some whole, some floor =>
    let fraction := (x.sub (.ofInt whole)).mul (.ofInt 1000000)
    ofTimestamp? floor (nearest fraction).natAbs
  | _, _ => none

/-- Digits with a point somewhere after the first. -/
structure DecimalText where
  negative : Bool
  whole : List Char
  fraction : Option (List Char)

/-- Reads a sign, digits and maybe a point with more digits. -/
def decimalText? (cs : List Char) : Option DecimalText :=
  let (negative, cs) := match cs with
    | '-' :: r => (true, r)
    | '+' :: r => (false, r)
    | _ => (false, cs)
  let whole := cs.takeWhile Char.isDigit
  if whole.isEmpty then none
  else
    match cs.drop whole.length with
    | [] => some ⟨negative, whole, none⟩
    | '.' :: r => if r.all Char.isDigit then some ⟨negative, whole, some r⟩ else none
    | _ => none

/-- The number of a decimal text, each digit of the fraction added on its own. -/
def decimalValue (whole : Nat) (fraction : List Char) : Binary64 :=
  (fraction.foldl (fun (x, scale) c =>
    (x.add ((Binary64.ofInt (c.toNat - 0x30)).div scale), scale.mul (.ofInt 10)))
    (Binary64.ofInt whole, Binary64.ofInt 10)).1

/-- Seconds or milliseconds since the epoch from a text. -/
def ofDecimalText? (cs : List Char) : Option DateTime := do
  let t ← decimalText? cs
  let n : Nat := t.whole.foldl (fun n c => n * 10 + (c.toNat - 0x30)) 0
  if 0x8000000000000000 ≤ n then none
  else
    match t.fraction with
    | none => ofTimestamp? (if t.negative then -n else n) 0
    | some ds => do
      let x := decimalValue n ds
      let x := if t.negative then x.neg else x
      let big := Binary64.lt (.ofInt secondsLimit) (if t.negative then x.neg else x)
      let x := if big then x.div (.ofInt 1000) else x
      let floor ← x.floor?
      ofTimestamp? floor (nearest ((x.sub (.ofInt floor)).mul (.ofInt 1000000))).toNat

/-- An offset: `Z`, or hours and minutes with or without a colon between. -/
def offsetText? (cs : List Char) : Option Int :=
  match cs with
  | ['Z'] => some 0
  | ['z'] => some 0
  | sign :: r => do
    let (h, r) ← DateTime.digits? 2 r
    let r := match r with
      | ':' :: r => r
      | _ => r
    let (m, r) ← DateTime.digits? 2 r
    let n : Int := h * 3600 + m * 60
    if r.isEmpty ∧ m < 60 ∧ n < 86400 then
      if sign = '+' then some (n * second)
      else if sign = '-' ∨ sign = '\u2212' then some (-n * second)
      else none
    else none
  | [] => none

/-- Seconds and microseconds after the minutes, and what follows. -/
def secondsText? (cs : List Char) : Option (Nat × Nat × List Char) :=
  match cs with
  | ':' :: r => do
    let (s, r) ← DateTime.digits? 2 r
    match r with
    | point :: r' =>
      if point = '.' ∨ point = ',' then
        let ds := r'.takeWhile Char.isDigit
        if ds.isEmpty then none
        else some (s, DateTime.fractionMicros ds, r'.drop ds.length)
      else some (s, 0, r)
    | [] => some (s, 0, [])
  | _ => some (0, 0, cs)

/-- A date and a time of day in text. -/
def ofClockText? (cs : List Char) : Option DateTime := do
  let (date, cs) ← DateTime.date? cs
  let cs ← match cs with
    | c :: r => if ['T', 't', ' ', '_'].contains c then some r else none
    | [] => none
  let (h, cs) ← DateTime.digits? 2 cs
  let cs ← DateTime.expect ':' cs
  let (m, cs) ← DateTime.digits? 2 cs
  let (s, micro, cs) ← secondsText? cs
  let offset ← match cs with
    | [] => some none
    | _ => some <$> offsetText? cs
  if h < 24 ∧ m < 60 ∧ s < 60 then some ⟨DateTime.readingOf date h m s micro, offset⟩ else none

/-- A date alone, at midnight and without an offset. -/
def ofDateText? (cs : List Char) : Option DateTime := do
  let (date, rest) ← DateTime.date? cs
  if rest.isEmpty then some ⟨DateTime.readingOf date 0 0 0 0, none⟩ else none

def ofTimeText? (s : String) : Option DateTime :=
  ofClockText? s.toList <|> ofDecimalText? s.toList <|> ofDateText? s.toList

/-- A date, with or without a time of day, whose form is right but whose year is zero. Year 400
has the same days. -/
def inYearZero (s : String) : Bool :=
  match s.toList with
  | '0' :: '0' :: '0' :: '0' :: r =>
    let moved := '0' :: '4' :: '0' :: '0' :: r
    (ofClockText? moved <|> ofDateText? moved).isSome
  | _ => false

def dateTime (v : Json) : Checked DateTime :=
  let found (t : Option DateTime) (problem : FieldProblem) : Checked DateTime :=
    match t with
    | some d => .accepted d
    | none => .fault problem v
  match v with
  | .text (.string s) =>
    found (ofTimeText? s) (if inYearZero s then .datetimeParsing else .datetimeFromDateParsing)
  | .text (.unpaired ..) => .fault .datetimeFromDateParsing v
  | .int i =>
    found (ofTimestamp? i 0) (if (Binary64.ofInt i).isFinite then .datetimeParsing
      else .datetimeType)
  | .float x => found (ofSeconds? x) .datetimeParsing
  | _ => .fault .datetimeType v

end Gatehouse.Schema
