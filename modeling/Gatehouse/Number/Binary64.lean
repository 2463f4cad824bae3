import Gatehouse.Number.Rounding

/-!
Double-precision numbers as exact data: a finite number is `± mantissa · 2 ^ exponent` with a
mantissa below `2 ^ 53`. All operations round the exact result to the nearest number, a half
going to the even mantissa, so they can be evaluated and reasoned about like integers.
-/
namespace Gatehouse.Number

/-- A double-precision number. -/
inductive Binary64 where
  | nan
  | infinite (negative : Bool)
  | finite (negative : Bool) (mantissa : Nat) (exponent : Int)
  deriving DecidableEq, Repr, Inhabited

namespace Binary64

def minExponent : Int := -1074
def maxExponent : Int := 971

/-- What every mantissa is below, `2 ^ 53`. -/
def mantissaBound : Nat := 0x20000000000000

def zero : Binary64 := .finite false 0 minExponent

/-- The quotient `num / den` scaled by `2 ^ -e` and rounded to an integer. -/
def scaled (num den : Nat) (e : Int) : Nat :=
  if 0 ≤ e then roundDiv num (den <<< e.toNat) else roundDiv (num <<< (-e).toNat) den

/-- A mantissa of at most `2 ^ 53` at exponent `e`, brought below `2 ^ 53` and into range. -/
def normalize (negative : Bool) (m : Nat) (e : Int) : Binary64 :=
  let (m, e) := if m = mantissaBound then (mantissaBound / 2, e + 1) else (m, e)
  if maxExponent < e then .infinite negative else .finite negative m e

/-- The number nearest to `± num / den`. -/
def ofRatio (negative : Bool) (num den : Nat) : Binary64 :=
  if num = 0 then .finite negative 0 minExponent
  else
    let guess : Int := (Nat.log2 num : Int) - Nat.log2 den - 53
    let low := max minExponent guess
    let floor := if 0 ≤ low then num / (den <<< low.toNat) else (num <<< (-low).toNat) / den
    let e := if mantissaBound ≤ floor then low + 1 else low
    normalize negative (scaled num den e) e

def ofInt (i : Int) : Binary64 := ofRatio (i < 0) i.natAbs 1

/-- The number nearest to `± digits · 10 ^ exponent`. -/
def ofDecimal (negative : Bool) (digits : Nat) (exponent : Int) : Binary64 :=
  if digits = 0 then .finite negative 0 minExponent
  else if 400 < exponent then .infinite negative
  else if exponent + Nat.log2 digits < -400 then .finite negative 0 minExponent
  else if 0 ≤ exponent then ofRatio negative (digits * Nat.pow 10 exponent.toNat) 1
  else ofRatio negative digits (Nat.pow 10 (-exponent).toNat)

def isNegative : Binary64 → Bool
  | .nan => false
  | .infinite neg => neg
  | .finite neg _ _ => neg

def isZero : Binary64 → Bool
  | .finite _ 0 _ => true
  | _ => false

def isFinite : Binary64 → Bool
  | .finite .. => true
  | _ => false

/-- The exact value as a signed numerator over a denominator that is a power of two. -/
def ratio? : Binary64 → Option (Int × Nat)
  | .finite neg m e =>
    let n := if 0 ≤ e then m <<< e.toNat else m
    let d := if 0 ≤ e then 1 else 1 <<< (-e).toNat
    some (if neg then -(n : Int) else n, d)
  | _ => none

/-- The integer part, toward zero. -/
def truncate? (x : Binary64) : Option Int :=
  x.ratio?.map fun (n, d) => n.tdiv d

/-- The greatest integer that is not above the number. -/
def floor? (x : Binary64) : Option Int :=
  x.ratio?.map fun (n, d) => n.fdiv d

/-- The number as an integer, if it is whole. -/
def whole? (x : Binary64) : Option Int :=
  x.ratio?.bind fun (n, d) => if n % d = 0 then some (n / d) else none

def ofQuotient (n : Int) (d : Nat) : Binary64 := ofRatio (n < 0) n.natAbs d

def neg : Binary64 → Binary64
  | .nan => .nan
  | .infinite n => .infinite (!n)
  | .finite n m e => .finite (!n) m e

/-- The rounded sum of two finite numbers. -/
def add (x y : Binary64) : Binary64 :=
  match x.ratio?, y.ratio? with
  | some (a, b), some (c, d) => ofQuotient (a * d + c * b) (b * d)
  | _, _ => .nan

def sub (x y : Binary64) : Binary64 := x.add y.neg

def mul (x y : Binary64) : Binary64 :=
  match x.ratio?, y.ratio? with
  | some (a, b), some (c, d) => ofQuotient (a * c) (b * d)
  | _, _ => .nan

/-- The rounded quotient of two finite numbers, the second not zero. -/
def div (x y : Binary64) : Binary64 :=
  match x.ratio?, y.ratio? with
  | some (a, b), some (c, d) =>
    if c = 0 then .nan else ofRatio ((a < 0) != (c < 0)) (a.natAbs * d) (b * c.natAbs)
  | _, _ => .nan

/-- `x < y`, false when either is not a number. -/
def lt (x y : Binary64) : Bool :=
  match x, y with
  | .nan, _ => false
  | _, .nan => false
  | .infinite a, .infinite b => a && !b
  | .infinite a, .finite .. => a
  | .finite .., .infinite b => !b
  | .finite n m e, .finite n' m' e' =>
    match (Binary64.finite n m e).ratio?, (Binary64.finite n' m' e').ratio? with
    | some (a, b), some (c, d) => a * d < c * b
    | _, _ => false

end Binary64

end Gatehouse.Number
