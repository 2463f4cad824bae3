import Gatehouse.Calendar.Date
import Gatehouse.Fault

/-!
Points in time to the microsecond, with or without an offset from UTC. The clock reading is kept
as microseconds since 1970-01-01T00:00:00 on the same clock; `instant` takes the offset off it.
A reading stays within years 1 to 9999: an operation that would leave them is `outOfRange`. So is a
span, which is a length of time in microseconds, that has a thousand million days or more.
-/
namespace Gatehouse
open Calendar Number

/-- Microseconds in a second. -/
def second : Int := 1000000

structure DateTime where
  /-- The clock reading in microseconds. -/
  reading : Int
  /-- Microseconds that the clock is ahead of UTC; none for a clock that does not say. -/
  offset : Option Int
  deriving DecidableEq, Repr, Inhabited

namespace DateTime

def minReading : Int := -62135596800 * second
def maxReading : Int := 253402300800 * second - 1

/-- The reading lies in years 1 to 9999. -/
def inRange (reading : Int) : Bool := minReading ≤ reading && reading ≤ maxReading

/-- A date-time whose reading must be in range. -/
def ofReading (reading : Int) (offset : Option Int) : Except Fault DateTime :=
  if inRange reading then .ok ⟨reading, offset⟩ else .error .outOfRange

/-- Microseconds since the epoch of UTC; a reading without offset counts as UTC. -/
def instant (d : DateTime) : Int := d.reading - d.offset.getD 0

/-- The same instant on the clock of UTC; a reading without offset is taken as UTC. -/
def toUtc (d : DateTime) : Except Fault DateTime := ofReading d.instant (some 0)

/-- The date-time moved by a span of microseconds. -/
def shift (d : DateTime) (span : Int) : Except Fault DateTime :=
  ofReading (d.reading + span) d.offset

/-- The span from `b` to `a`; both or neither must have an offset. -/
def since (a b : DateTime) : Except Fault Int :=
  if a.offset.isSome = b.offset.isSome then .ok (a.instant - b.instant) else .error .wrongType

/-- `a` is not after `b`; both or neither must have an offset. -/
def notAfter (a b : DateTime) : Except Fault Bool := (· ≤ 0) <$> a.since b

/-- The instant on the clock of UTC with the fraction of the second dropped. -/
def truncateToSeconds (d : DateTime) : Except Fault DateTime := do
  let u ← d.toUtc
  .ok { u with reading := u.reading / second * second }

/-- Seconds since the epoch: the double-precision count of seconds without its fraction. -/
def toNumericDate (d : DateTime) : Except Fault Int := do
  let u ← d.toUtc
  .ok (((Binary64.ofQuotient u.reading 1000000).truncate?).getD 0)

/-- The greatest second that the calendar of the system can name. -/
def lastSystemSecond : Int := 67768036191676799

/-- The least second that the calendar of the system can name. -/
def firstSystemSecond : Int := -67768040609740800

/-- The date-time of UTC with a count of seconds since the epoch. -/
def ofNumericDate (n : Int) : Except Fault DateTime :=
  if n < -0x8000000000000000 ∨ 0x8000000000000000 ≤ n then .error .outOfRange
  else if n < firstSystemSecond ∨ lastSystemSecond < n then .error .beyondSystemClock
  else if inRange (n * second) then .ok ⟨n * second, some 0⟩
  else .error .badValue

/-- The earlier of two date-times, the first if they are equal. -/
def earlier (a b : DateTime) : Except Fault DateTime := do
  if (← b.since a) < 0 then .ok b else .ok a

theorem toUtc_congr {d e : DateTime} (h : d.instant = e.instant) : d.toUtc = e.toUtc := by
  unfold toUtc
  rw [h]

end DateTime

namespace Span

def minute : Int := 60 * second

def day : Int := 1440 * minute

/-- The span stays within its range. -/
def inRange (span : Int) : Bool := -(999999999 * day) ≤ span && span < 1000000000 * day

def check (span : Int) : Except Fault Int :=
  if inRange span then .ok span else .error .outOfRange

def ofSeconds (n : Int) : Except Fault Int := check (n * second)

def ofMinutes (n : Int) : Except Fault Int := check (n * minute)

end Span

end Gatehouse
