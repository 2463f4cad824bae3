import Gatehouse.Json.Basic
import Gatehouse.Platform
import Gatehouse.Text.Split

/-!
Reading JSON texts. Beyond the standard grammar, `NaN`, `Infinity` and `-Infinity` are numbers,
a text may hold unpaired surrogate escapes, and the last of equal member names wins. Numbers
without fraction and exponent are exact integers of at most `digitLimit` digits; how deep values may
nest is up to the platform. `parse` reads one whole text.

Steps work on the characters that are left; a failure tells how many were left at the place
that is at fault, and `parse` turns that into an offset.
-/
namespace Gatehouse.Json
open Number Text

inductive ParseError where
  /-- The grammar is violated at an offset. -/
  | malformed (offset : Nat)
  | tooManyDigits
  | tooDeep
  deriving DecidableEq, Repr

def digitLimit : Nat := 4300

namespace Parser

/-- What a step read, with the characters that are left. -/
abbrev Read (α : Type) := α × List Char

/-- A violation of the grammar where `rest` is left. -/
def fail {α : Type} (rest : List Char) : Except ParseError α := .error (.malformed rest.length)

def isSpace (c : Char) : Bool := c == ' ' || c == '\t' || c == '\n' || c == '\r'

def skip (cs : List Char) : List Char := cs.dropWhile isSpace

def hex4? : List Char → Option (Nat × List Char)
  | a :: b :: c :: d :: r => do
    let a ← hexValue? a
    let b ← hexValue? b
    let c ← hexValue? c
    let d ← hexValue? d
    some (((a * 16 + b) * 16 + c) * 16 + d, r)
  | _ => none

/-- A `\u` escape after the backslash and the `u`, of which `faulty` tells the place. At least
one character must follow. A high surrogate takes the low surrogate of a following escape. -/
def unicodeEscape (faulty : List Char) (cs : List Char) : Except ParseError (Read Nat) :=
  match hex4? cs with
  | none => fail faulty
  | some (_, []) => fail faulty
  | some (u, rest) =>
    if 0xd800 ≤ u ∧ u < 0xdc00 then
      match rest with
      | '\\' :: 'u' :: tail =>
        if tail.length < 5 then .ok (u, rest)
        else match hex4? tail with
          | none => fail ('u' :: tail)
          | some (v, rest') =>
            if 0xdc00 ≤ v ∧ v < 0xe000 then
              .ok (0x10000 + (u - 0xd800) * 1024 + (v - 0xdc00), rest')
            else .ok (u, rest)
      | _ => .ok (u, rest)
    else .ok (u, rest)

/-- The code points of a quoted text after the opening quote, up to and with the closing one.
`opening` is what was left at the opening quote. -/
def codes (opening : List Char) : Nat → List Char → Except ParseError (Read (List Nat))
  | 0, _ => fail opening
  | _ + 1, [] => fail opening
  | fuel + 1, c :: r =>
    if c = '"' then .ok ([], r)
    else if c = '\\' then
      match r with
      | [] => fail opening
      | e :: r' =>
        let plain (n : Nat) : Except ParseError (Read (List Nat)) := do
          let (ns, rest) ← codes opening fuel r'
          .ok (n :: ns, rest)
        if e = '"' then plain 0x22
        else if e = '\\' then plain 0x5c
        else if e = '/' then plain 0x2f
        else if e = 'b' then plain 0x08
        else if e = 'f' then plain 0x0c
        else if e = 'n' then plain 0x0a
        else if e = 'r' then plain 0x0d
        else if e = 't' then plain 0x09
        else if e = 'u' then do
          let (n, rest) ← unicodeEscape r r'
          let (ns, rest) ← codes opening fuel rest
          .ok (n :: ns, rest)
        else fail (c :: r)
    else if c.toNat < 0x20 then fail (c :: r)
    else do
      let (ns, rest) ← codes opening fuel r
      .ok (c.toNat :: ns, rest)

def decimal (ds : List Char) : Nat := ds.foldl (fun n d => n * 10 + (d.toNat - 0x30)) 0

def isDigit (c : Char) : Bool := '0' ≤ c && c ≤ '9'

/-- The fraction digits after a point, if there is a point with a digit behind it. -/
def fraction (cs : List Char) : Option (List Char × List Char) :=
  match cs with
  | '.' :: d :: r =>
    if isDigit d then some (d :: r.takeWhile isDigit, r.dropWhile isDigit) else none
  | _ => none

/-- The exponent behind an `e`, if a digit follows it. -/
def exponent (cs : List Char) : Option (Int × List Char) :=
  match cs with
  | e :: r =>
    if e = 'e' ∨ e = 'E' then
      let (neg, r) := match r with
        | '-' :: r => (true, r)
        | '+' :: r => (false, r)
        | r => (false, r)
      match r with
      | d :: _ =>
        if isDigit d then
          let n : Int := decimal (r.takeWhile isDigit)
          some (if neg then -n else n, r.dropWhile isDigit)
        else none
      | [] => none
    else none
  | [] => none

/-- The integer part of a number: a zero, or digits that start with another one. -/
def integerPart (cs : List Char) : Option (List Char × List Char) :=
  match cs with
  | '0' :: r => some (['0'], r)
  | d :: r =>
    if isDigit d then some (d :: r.takeWhile isDigit, r.dropWhile isDigit) else none
  | [] => none

/-- A number without its sign. `start` is what was left where the number starts. -/
def number (start : List Char) (neg : Bool) (cs : List Char) : Except ParseError (Read Json) :=
  match integerPart cs with
  | none => fail start
  | some (whole, rest) =>
    match fraction rest, exponent ((fraction rest).elim rest (·.2)) with
    | none, none =>
      if digitLimit < whole.length then .error .tooManyDigits
      else
        let n : Int := decimal whole
        .ok (.int (if neg then -n else n), rest)
    | f, e =>
      let digits := f.elim [] (·.1)
      let rest := e.elim (f.elim rest (·.2)) (·.2)
      let x := Binary64.ofDecimal neg (decimal (whole ++ digits))
        (e.elim 0 (·.1) - digits.length)
      .ok (.float x, rest)

/-- A value that does not contain others. -/
def scalar (cs : List Char) : Except ParseError (Read Json) :=
  match cs with
  | '"' :: r => do
    let (ns, rest) ← codes cs (r.length + 1) r
    .ok (.text (.ofCodes ns), rest)
  | 'n' :: 'u' :: 'l' :: 'l' :: r => .ok (.null, r)
  | 't' :: 'r' :: 'u' :: 'e' :: r => .ok (.bool true, r)
  | 'f' :: 'a' :: 'l' :: 's' :: 'e' :: r => .ok (.bool false, r)
  | 'N' :: 'a' :: 'N' :: r => .ok (.float .nan, r)
  | 'I' :: 'n' :: 'f' :: 'i' :: 'n' :: 'i' :: 't' :: 'y' :: r => .ok (.float (.infinite false), r)
  | '-' :: 'I' :: 'n' :: 'f' :: 'i' :: 'n' :: 'i' :: 't' :: 'y' :: r =>
    .ok (.float (.infinite true), r)
  | '-' :: r => number cs true r
  | _ => number cs false cs

mutual
/-- A value. The fuel bounds the steps, the depth the nesting that is still allowed. -/
def value : (fuel depth : Nat) → List Char → Except ParseError (Read Json)
  | 0, _, cs => fail cs
  | fuel + 1, depth, cs =>
    match cs with
    | '[' :: r =>
      match depth with
      | 0 => .error .tooDeep
      | depth + 1 =>
        match skip r with
        | ']' :: rest => .ok (.array [], rest)
        | rest => do
          let (vs, rest) ← items fuel depth rest
          .ok (.array vs, rest)
    | '\x7b' :: r =>
      match depth with
      | 0 => .error .tooDeep
      | depth + 1 =>
        match skip r with
        | '\x7d' :: rest => .ok (.object [], rest)
        | rest => do
          let (ps, rest) ← members fuel depth rest
          .ok (.object (Table.ofPairs ps), rest)
    | cs => scalar cs

/-- At least one item, up to and with the closing bracket. -/
def items : (fuel depth : Nat) → List Char → Except ParseError (Read (List Json))
  | 0, _, cs => fail cs
  | fuel + 1, depth, cs => do
    let (v, rest) ← value fuel depth cs
    match skip rest with
    | ']' :: rest => .ok ([v], rest)
    | ',' :: rest =>
      let (vs, rest) ← items fuel depth (skip rest)
      .ok (v :: vs, rest)
    | rest => fail rest

/-- At least one member, up to and with the closing brace. -/
def members : (fuel depth : Nat) → List Char → Except ParseError (Read (List (AnyText × Json)))
  | 0, _, cs => fail cs
  | fuel + 1, depth, cs =>
    match cs with
    | '"' :: r => do
      let (ns, rest) ← codes cs (r.length + 1) r
      match skip rest with
      | ':' :: rest =>
        let (v, rest) ← value fuel depth (skip rest)
        match skip rest with
        | '\x7d' :: rest => .ok ([(.ofCodes ns, v)], rest)
        | ',' :: rest =>
          let (ps, rest) ← members fuel depth (skip rest)
          .ok ((.ofCodes ns, v) :: ps, rest)
        | rest => fail rest
      | rest => fail rest
    | cs => fail cs
end

end Parser

/-- Reads a whole text as one value of a bounded depth, with blanks allowed around it. -/
def parseUpTo (depth : Nat) (cs : List Char) : Except ParseError Json :=
  let locate (e : ParseError) : ParseError :=
    match e with
    | .malformed left => .malformed (cs.length - left)
    | e => e
  match cs with
  | '\ufeff' :: _ => .error (.malformed 0)
  | _ =>
    let start := Parser.skip cs
    match Parser.value (cs.length + 1) depth start with
    | .error e => .error (locate e)
    | .ok (v, rest) =>
      match Parser.skip rest with
      | [] => .ok v
      | rest => .error (locate (.malformed rest.length))

/-- Reads a whole text as one value. -/
def parse [Platform] (cs : List Char) : Except ParseError Json := parseUpTo Platform.depthLimit cs

end Gatehouse.Json
