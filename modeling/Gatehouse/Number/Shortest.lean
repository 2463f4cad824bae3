import Gatehouse.Number.Binary64

/-!
The text of a double-precision number. `shortest` finds the fewest decimal digits that read
back as the number; `Binary64.text` lays them out positionally while the decimal point stays
within sixteen digits and four leading zeros, and with an exponent otherwise. `fixed` writes a
given number of places, rounding the exact value.
-/
namespace Gatehouse.Number.Binary64

def digits (n : Nat) : List Char := Nat.toDigits 10 n

/-- `10 ^ p ≤ num / den`. -/
def powTenLe (p : Int) (num den : Nat) : Bool :=
  if 0 ≤ p then den * Nat.pow 10 p.toNat ≤ num else den ≤ num * Nat.pow 10 (-p).toNat

/-- The exponent of the leading decimal digit of a positive quotient. -/
def leadingExponent (num den : Nat) : Int :=
  let guess := (((Nat.log2 num : Int) - Nat.log2 den) * 30103).fdiv 100000
  if powTenLe (guess + 1) num den then guess + 1
  else if powTenLe guess num den then guess
  else guess - 1

/-- The decimal with `n` digits nearest to the quotient among those that read back as `x`:
its digits and the exponent of the last one. -/
def candidate? (x : Binary64) (num den : Nat) (lead : Int) (n : Nat) : Option (Nat × Int) :=
  let k := lead - n + 1
  let scaledNum := if 0 ≤ k then num else num * Nat.pow 10 (-k).toNat
  let scaledDen := if 0 ≤ k then den * Nat.pow 10 k.toNat else den
  let below := scaledNum / scaledDen
  let near := roundDiv scaledNum scaledDen
  let far := if near = below then below + 1 else below
  let reads (d : Nat) : Bool := ofDecimal x.isNegative d k == x
  if reads near then some (near, k) else if reads far then some (far, k) else none

/-- The fewest decimal digits that read back as the number, with the exponent of the last. -/
def shortest (x : Binary64) : Nat × Int :=
  match x.ratio? with
  | none => (0, 0)
  | some (n, den) =>
    if n = 0 then (0, 0)
    else
      let lead := leadingExponent n.natAbs den
      ((List.range 17).findSome? fun i => candidate? x n.natAbs den lead (i + 1)).getD (0, 0)

/-- Digits with the point after the first `point` of them, zeros filling the gaps. -/
def positional (ds : List Char) (point : Int) : List Char :=
  if point ≤ 0 then '0' :: '.' :: (List.replicate (-point).toNat '0' ++ ds)
  else if ds.length ≤ point.toNat then
    ds ++ List.replicate (point.toNat - ds.length) '0' ++ ['.', '0']
  else ds.take point.toNat ++ '.' :: ds.drop point.toNat

/-- Digits in the form `d.ddde±xx`. -/
def scientific (ds : List Char) (point : Int) : List Char :=
  let e := point - 1
  let es := digits e.natAbs
  let mantissa := match ds with
    | [d] => [d]
    | d :: r => d :: '.' :: r
    | [] => ['0']
  mantissa ++ 'e' :: (if e < 0 then '-' else '+') :: (if es.length < 2 then '0' :: es else es)

/-- The digits of a positive finite number without its sign. -/
def magnitude (x : Binary64) : List Char :=
  let (d, k) := x.shortest
  let ds := (digits d).reverse.dropWhile (· == '0') |>.reverse
  let point := (digits d).length + k
  if d = 0 then ['0', '.', '0']
  else if -4 < point ∧ point ≤ 16 then positional ds point
  else scientific ds point

/-- The shortest text that reads back as the number; `nan`, `inf` and `-inf` otherwise. -/
def text : Binary64 → List Char
  | .nan => ['n', 'a', 'n']
  | .infinite neg => if neg then ['-', 'i', 'n', 'f'] else ['i', 'n', 'f']
  | .finite neg m e =>
    let body := magnitude (.finite neg m e)
    if neg then '-' :: body else body

/-- A finite number with a fixed count of decimal places, half to even. -/
def fixed (x : Binary64) (places : Nat) : List Char :=
  match x.ratio? with
  | none => x.text
  | some (n, d) =>
    let ds := digits (roundDiv (n.natAbs * Nat.pow 10 places) d)
    let ds := List.replicate (places + 1 - ds.length) '0' ++ ds
    let body := ds.take (ds.length - places) ++
      (if places = 0 then [] else '.' :: ds.drop (ds.length - places))
    if x.isNegative then '-' :: body else body

end Gatehouse.Number.Binary64
