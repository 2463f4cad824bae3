import Gatehouse.Text.CharacterSet
import Gatehouse.Text.Split

/-!
Integers read from text. White space may stand around the number, a sign before it and single
underscores between its digits; the digits may come from any script.
-/
namespace Gatehouse.Text

/-- The values of digits with single underscores between them. -/
def digitValues? : List Char → Option (List Nat)
  | [] => none
  | [c] => (digitValue? c).map ([·])
  | c :: '_' :: r => do
    let d ← digitValue? c
    let ds ← digitValues? r
    some (d :: ds)
  | c :: r => do
    let d ← digitValue? c
    let ds ← digitValues? r
    some (d :: ds)

/-- The number with the given decimal digits. -/
def ofDigitValues (ds : List Nat) : Nat := ds.foldl (fun n d => n * 10 + d) 0

/-- The most digits an integer may have. -/
def integerDigitLimit : Nat := 4300

/-- Reads an integer; none for any other text and for one with too many digits. -/
def readInteger? (cs : List Char) : Option Int := do
  let cs := trim isWhiteSpace cs
  let (neg, cs) := match cs with
    | '-' :: r => (true, r)
    | '+' :: r => (false, r)
    | r => (false, r)
  let ds ← digitValues? cs
  if integerDigitLimit < ds.length then none
  else
    let n : Int := ofDigitValues ds
    some (if neg then -n else n)

end Gatehouse.Text
