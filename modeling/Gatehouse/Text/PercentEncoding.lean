import Gatehouse.Text.Encoding
import Gatehouse.Text.Split

/-!
Percent-encoded texts, as addresses hold them: a percent sign and two hexadecimal digits stand
for a byte of the UTF-8 form.
-/
namespace Gatehouse.Text.Percent

/-- The bytes of a text with its escapes put in; a percent sign without digits stands for itself. -/
def bytes : List Char → List UInt8
  | '%' :: a :: b :: r =>
    match hexValue? a, hexValue? b with
    | some x, some y => (x * 16 + y).toUInt8 :: bytes r
    | _, _ => 0x25 :: bytes (a :: b :: r)
  | c :: r => Utf8.encodeChar c ++ bytes r
  | [] => []

def decode (cs : List Char) : List Char := Utf8.decodeLossy (bytes cs)

/-- Characters that never need an escape. -/
def isUnreserved (c : Char) : Bool := c.isAlphanum || "_.-~".toList.contains c

def escape (b : UInt8) : List Char :=
  '%' :: (hex 2 b.toNat).map Char.toUpper

/-- A text with escapes for all characters but the unreserved and the given ones. -/
def encode (kept : List Char) (cs : List Char) : List Char :=
  cs.flatMap fun c =>
    if isUnreserved c || kept.contains c then [c] else (Utf8.encodeChar c).flatMap escape

end Gatehouse.Text.Percent
