import Gatehouse.Json.Printer
import Gatehouse.Text.Integer
import Gatehouse.Text.Printable

/-!
How log lines and texts show a value. Texts stand in single quotes, or in double quotes if
they hold a single quote and no double one; what does not print is escaped; the constants are
`None`, `True` and `False`. `plainText` gives a text as it is and every other value like `shown`.
-/
namespace Gatehouse.Json
open Number Text

/-- A code point inside a shown text with the given quote. -/
def showCode (mark : Char) (n : Nat) : List Char :=
  if n = 0x5c then ['\\', '\\']
  else if n = mark.toNat then ['\\', mark]
  else if n = 0x0a then ['\\', 'n']
  else if n = 0x0d then ['\\', 'r']
  else if n = 0x09 then ['\\', 't']
  else if n.isValidChar && isPrintable (Char.ofNat n) then [Char.ofNat n]
  else if n < 0x100 then '\\' :: 'x' :: hex 2 n
  else if n < 0x10000 then '\\' :: 'u' :: hex 4 n
  else '\\' :: 'U' :: hex 8 n

/-- A text in quotes from its code points. -/
def showCodes (codes : List Nat) : List Char :=
  let mark := if codes.contains 0x27 && !codes.contains 0x22 then '"' else '\''
  mark :: (codes.flatMap (showCode mark) ++ [mark])

def showText (t : AnyText) : List Char := showCodes t.codes

mutual
/-- The value as a log line shows it. -/
def shown : Json → List Char
  | .null => "None".toList
  | .bool b => if b then "True".toList else "False".toList
  | .int i => integerChars i
  | .float x => x.text
  | .text t => showText t
  | .array items => '[' :: shownItems items
  | .object ms => '\x7b' :: shownMembers ms
  | .foreign => "<object>".toList

/-- Items up to and with the closing bracket. -/
def shownItems : List Json → List Char
  | [] => [']']
  | [v] => shown v ++ [']']
  | v :: w :: r => shown v ++ ',' :: ' ' :: shownItems (w :: r)

/-- Members up to and with the closing brace. -/
def shownMembers : List (AnyText × Json) → List Char
  | [] => ['\x7d']
  | [(k, v)] => showText k ++ ':' :: ' ' :: (shown v ++ ['\x7d'])
  | (k, v) :: p :: r =>
    showText k ++ ':' :: ' ' :: (shown v ++ ',' :: ' ' :: shownMembers (p :: r))
end

mutual
/-- The value, or a value in it, is an integer with too many digits to be shown. -/
def hasLongInteger : Json → Bool
  | .int i => Nat.pow 10 integerDigitLimit ≤ i.natAbs
  | .array items => hasLongIntegerItems items
  | .object ms => hasLongIntegerMembers ms
  | _ => false

def hasLongIntegerItems : List Json → Bool
  | [] => false
  | v :: r => hasLongInteger v || hasLongIntegerItems r

def hasLongIntegerMembers : List (AnyText × Json) → Bool
  | [] => false
  | (_, v) :: r => hasLongInteger v || hasLongIntegerMembers r
end

/-- A text as it is, any other value as it is shown. -/
def plainText : Json → AnyText
  | .text t => t
  | v => String.ofList v.shown

/-- A text as it is, if a `String` holds it, any other value as it is shown. -/
def plain : Json → List Char
  | .text (.string s) => s.toList
  | v => v.shown

end Gatehouse.Json
