import Gatehouse.Number.Shortest

/-!
Numbers written with a requested precision: a count of places after the point (`fixed`), of
places after the leading digit (`exponential`), or of significant digits (`general`). All of
them round the exact value, a half going to the even neighbour, and leave the sign out.
-/
namespace Gatehouse.Number.Binary64

def absolute : Binary64 → Binary64
  | .nan => .nan
  | .infinite _ => .infinite false
  | .finite _ m e => .finite false m e

/-- `num / den` rounded to `n` significant digits: the digits and the exponent of the first. -/
def significant (num den n : Nat) : Nat × Int :=
  if num = 0 then (0, 0)
  else
    let lead := leadingExponent num den
    let k := lead - n + 1
    let d := if 0 ≤ k then roundDiv num (den * Nat.pow 10 k.toNat)
      else roundDiv (num * Nat.pow 10 (-k).toNat) den
    if d = Nat.pow 10 n then (Nat.pow 10 (n - 1), lead + 1) else (d, lead)

/-- A decimal exponent with its sign and at least two digits. -/
def exponentText (e : Int) : List Char :=
  let es := digits e.natAbs
  'e' :: (if e < 0 then '-' else '+') :: (if es.length < 2 then '0' :: es else es)

/-- Places after a point; the point stands without places only if it is wanted. -/
def withPlaces (whole places : List Char) (keepPoint : Bool) : List Char :=
  if places.isEmpty then (if keepPoint then whole ++ ['.'] else whole) else whole ++ '.' :: places

/-- `n` digits, zeros before them where there are fewer. -/
def digitsTo (n d : Nat) : List Char :=
  let ds := digits d
  List.replicate (n - ds.length) '0' ++ ds

/-- The magnitude with a number of places after the point. -/
def fixedText (x : Binary64) (places : Nat) (keepPoint : Bool) : List Char :=
  match x.absolute.ratio? with
  | none => x.absolute.text
  | some _ =>
    let body := x.absolute.fixed places
    if places = 0 ∧ keepPoint then body ++ ['.'] else body

/-- The magnitude as one digit, places and an exponent. -/
def exponentialText (x : Binary64) (places : Nat) (keepPoint : Bool) : List Char :=
  match x.absolute.ratio? with
  | none => x.absolute.text
  | some (n, den) =>
    let (d, lead) := significant n.natAbs den (places + 1)
    let ds := digitsTo (places + 1) d
    withPlaces (ds.take 1) (ds.drop 1) keepPoint ++ exponentText lead

/-- Places without the zeros at their end. -/
def withoutTrailingZeros (ds : List Char) : List Char :=
  (ds.reverse.dropWhile (· == '0')).reverse

/-- The magnitude with a number of significant digits, positional unless its exponent is below
`-4` or not below that number; zeros at the end stay only if they are wanted. -/
def generalText (x : Binary64) (count : Nat) (keepZeros : Bool) : List Char :=
  match x.absolute.ratio? with
  | none => x.absolute.text
  | some (n, den) =>
    let count := max count 1
    let (d, lead) := significant n.natAbs den count
    let ds := digitsTo count d
    let places (cs : List Char) := if keepZeros then cs else withoutTrailingZeros cs
    if lead < -4 ∨ (count : Int) ≤ lead then
      withPlaces (ds.take 1) (places (ds.drop 1)) keepZeros ++ exponentText lead
    else if lead < 0 then
      withPlaces ['0'] (places (List.replicate (-lead - 1).toNat '0' ++ ds)) keepZeros
    else
      withPlaces (ds.take (lead.toNat + 1)) (places (ds.drop (lead.toNat + 1))) keepZeros

end Gatehouse.Number.Binary64
