/-!
Texts as bytes. `Utf8.encode` and `Utf8.decode` are the UTF-8 form, which `Utf8.decodeLossy`
reads from any bytes; `decodeDetected` reads bytes whose form, with or without a byte order
mark, is told from the zeros among the first four. `Latin1` holds the one-byte form of the first
256 characters.
-/
namespace Gatehouse.Text

/-- The character with a given code point, if there is one. -/
def charOf? (n : Nat) : Option Char :=
  if n.isValidChar then some (Char.ofNat n) else none

namespace Utf8

def encodeChar (c : Char) : List UInt8 :=
  let n := c.toNat
  if n < 0x80 then [n.toUInt8]
  else if n < 0x800 then [(0xc0 + n / 64).toUInt8, (0x80 + n % 64).toUInt8]
  else if n < 0x10000 then
    [(0xe0 + n / 4096).toUInt8, (0x80 + n / 64 % 64).toUInt8, (0x80 + n % 64).toUInt8]
  else
    [(0xf0 + n / 262144).toUInt8, (0x80 + n / 4096 % 64).toUInt8,
      (0x80 + n / 64 % 64).toUInt8, (0x80 + n % 64).toUInt8]

def encode (cs : List Char) : List UInt8 := cs.flatMap encodeChar

/-- The payload of a continuation byte. -/
def tail? (b : UInt8) : Option Nat :=
  if 0x80 ≤ b.toNat ∧ b.toNat < 0xc0 then some (b.toNat - 0x80) else none

/-- A character from its code point, refused when fewer bytes would do. -/
def shortest? (low n : Nat) : Option Char := if low ≤ n then charOf? n else none

/-- Reads UTF-8; overlong forms, surrogates and stray bytes are refused. -/
def decode : List UInt8 → Option (List Char)
  | [] => some []
  | a :: r =>
    if a.toNat < 0x80 then (decode r).map (Char.ofNat a.toNat :: ·)
    else match r with
      | [] => none
      | b :: r =>
        if a.toNat < 0xc0 then none
        else if a.toNat < 0xe0 then do
          let x ← tail? b
          let c ← shortest? 0x80 ((a.toNat - 0xc0) * 64 + x)
          (decode r).map (c :: ·)
        else match r with
          | [] => none
          | d :: r =>
            if a.toNat < 0xf0 then do
              let x ← tail? b
              let y ← tail? d
              let c ← shortest? 0x800 ((a.toNat - 0xe0) * 4096 + x * 64 + y)
              (decode r).map (c :: ·)
            else match r with
              | [] => none
              | e :: r =>
                if a.toNat < 0xf8 then do
                  let x ← tail? b
                  let y ← tail? d
                  let z ← tail? e
                  let c ← shortest? 0x10000 ((a.toNat - 0xf0) * 262144 + x * 4096 + y * 64 + z)
                  (decode r).map (c :: ·)
                else none

/-- The bounds, from the first to before the last, of the byte behind a leading byte. -/
def secondBounds (lead : Nat) : Nat × Nat :=
  (if lead = 0xe0 then 0xa0 else if lead = 0xf0 then 0x90 else 0x80,
    if lead = 0xed then 0xa0 else if lead = 0xf4 then 0x90 else 0xc0)

/-- The character at the beginning, if it is well formed, and the number of bytes that belong to
it or to the longest beginning of a character. -/
def takeChar (a : UInt8) (r : List UInt8) : Option Char × Nat :=
  let n := a.toNat
  if n < 0x80 then (some (Char.ofNat n), 1)
  else if n < 0xc2 ∨ 0xf4 < n then (none, 1)
  else match r with
    | [] => (none, 1)
    | b :: r =>
      let x := b.toNat - 0x80
      if b.toNat < (secondBounds n).1 ∨ (secondBounds n).2 ≤ b.toNat then (none, 1)
      else if n < 0xe0 then (some (Char.ofNat ((n - 0xc0) * 64 + x)), 2)
      else match r.head?.bind tail? with
        | none => (none, 2)
        | some y =>
          if n < 0xf0 then (some (Char.ofNat ((n - 0xe0) * 4096 + x * 64 + y)), 3)
          else match r.tail.head?.bind tail? with
            | none => (none, 3)
            | some z => (some (Char.ofNat ((n - 0xf0) * 262144 + x * 4096 + y * 64 + z)), 4)

/-- Reads UTF-8 behind `skip` bytes that are already read. -/
def decodeLossyFrom : Nat → List UInt8 → List Char
  | _, [] => []
  | skip + 1, _ :: r => decodeLossyFrom skip r
  | 0, a :: r => (takeChar a r).1.getD '\ufffd' :: decodeLossyFrom ((takeChar a r).2 - 1) r

/-- Reads UTF-8 with the replacement character for whatever is ill formed. -/
def decodeLossy (bs : List UInt8) : List Char := decodeLossyFrom 0 bs

end Utf8

namespace Utf16

/-- Pairs of bytes as code units. -/
def units (little : Bool) : List UInt8 → Option (List Nat)
  | [] => some []
  | [_] => none
  | a :: b :: r =>
    let u := if little then b.toNat * 256 + a.toNat else a.toNat * 256 + b.toNat
    (units little r).map (u :: ·)

/-- Code units as characters; a surrogate must be part of a pair. -/
def chars : List Nat → Option (List Char)
  | [] => some []
  | u :: r =>
    if 0xd800 ≤ u ∧ u < 0xdc00 then
      match r with
      | v :: r =>
        if 0xdc00 ≤ v ∧ v < 0xe000 then
          (chars r).map (Char.ofNat (0x10000 + (u - 0xd800) * 1024 + (v - 0xdc00)) :: ·)
        else none
      | [] => none
    else if 0xdc00 ≤ u ∧ u < 0xe000 then none
    else (chars r).map (Char.ofNat u :: ·)

def decode (little : Bool) (bs : List UInt8) : Option (List Char) := (units little bs).bind chars

end Utf16

namespace Utf32

/-- Groups of four bytes as characters. -/
def decode (little : Bool) : List UInt8 → Option (List Char)
  | [] => some []
  | a :: b :: c :: d :: r => do
    let n := if little
      then ((d.toNat * 256 + c.toNat) * 256 + b.toNat) * 256 + a.toNat
      else ((a.toNat * 256 + b.toNat) * 256 + c.toNat) * 256 + d.toNat
    let x ← charOf? n
    (decode little r).map (x :: ·)
  | _ => none

end Utf32

/-- The byte order marks with what reads the bytes behind each. A mark that starts with another
stands before it. -/
def marks : List (List UInt8 × (List UInt8 → Option (List Char))) :=
  [([0xff, 0xfe, 0, 0], Utf32.decode true), ([0, 0, 0xfe, 0xff], Utf32.decode false),
    ([0xff, 0xfe], Utf16.decode true), ([0xfe, 0xff], Utf16.decode false),
    ([0xef, 0xbb, 0xbf], Utf8.decode)]

/-- Reads bytes in the form that the zeros among the first four tell: the texts read this way start
with an ASCII character. -/
def decodeUnmarked (bs : List UInt8) : Option (List Char) :=
  match bs with
  | a :: b :: c :: d :: _ =>
    if a = 0 then
      if b = 0 then Utf32.decode false bs else Utf16.decode false bs
    else if b = 0 then
      if c = 0 ∧ d = 0 then Utf32.decode true bs else Utf16.decode true bs
    else Utf8.decode bs
  | [a, b] =>
    if a = 0 then Utf16.decode false bs
    else if b = 0 then Utf16.decode true bs
    else Utf8.decode bs
  | _ => Utf8.decode bs

/-- Reads bytes in the Unicode form that their first four tell. -/
def decodeDetected (bs : List UInt8) : Option (List Char) :=
  match marks.find? (·.1.isPrefixOf bs) with
  | some (mark, decode) => decode (bs.drop mark.length)
  | none => decodeUnmarked bs

namespace Latin1

/-- The one-byte form, for texts whose characters all have one. -/
def encode? (cs : List Char) : Option (List UInt8) :=
  cs.mapM fun c => if c.toNat < 256 then some c.toNat.toUInt8 else none

def decode (bs : List UInt8) : List Char := bs.map fun b => Char.ofNat b.toNat

end Latin1

end Gatehouse.Text
