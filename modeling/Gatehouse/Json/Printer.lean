import Gatehouse.Json.Basic
import Gatehouse.Number.Shortest
import Gatehouse.Text.Split

/-!
The compact text of a JSON value: no blanks, members in order, and every character outside
printable ASCII written as `\u` escapes of its UTF-16 units, so that the text is pure ASCII.
-/
namespace Gatehouse.Json
open Number Text

/-- The escape of one UTF-16 unit. -/
def unitEscape (u : Nat) : List Char := '\\' :: 'u' :: hex 4 u

/-- A code point inside a quoted text. -/
def escapeCode (n : Nat) : List Char :=
  if n = 0x22 then ['\\', '"']
  else if n = 0x5c then ['\\', '\\']
  else if n = 0x0a then ['\\', 'n']
  else if n = 0x0d then ['\\', 'r']
  else if n = 0x09 then ['\\', 't']
  else if n = 0x0c then ['\\', 'f']
  else if n = 0x08 then ['\\', 'b']
  else if 0x20 ≤ n ∧ n < 0x7f then [Char.ofNat n]
  else if n < 0x10000 then unitEscape n
  else unitEscape (0xd800 + (n - 0x10000) / 1024) ++ unitEscape (0xdc00 + (n - 0x10000) % 1024)

def quoteCodes (codes : List Nat) : List Char := '"' :: (codes.flatMap escapeCode ++ ['"'])

def quote (t : AnyText) : List Char := quoteCodes t.codes

def integerChars (i : Int) : List Char :=
  if i < 0 then '-' :: Nat.toDigits 10 i.natAbs else Nat.toDigits 10 i.natAbs

/-- A number with a fraction; infinity and what is not a number have names. -/
def floatChars (x : Binary64) : List Char :=
  match x with
  | .nan => "NaN".toList
  | .infinite neg => if neg then "-Infinity".toList else "Infinity".toList
  | .finite .. => x.text

mutual
/-- The compact text of a value. A foreign value has none and leaves a gap. -/
def print : Json → List Char
  | .null => ['n', 'u', 'l', 'l']
  | .bool b => if b then ['t', 'r', 'u', 'e'] else ['f', 'a', 'l', 's', 'e']
  | .int i => integerChars i
  | .float x => floatChars x
  | .text t => quote t
  | .array items => '[' :: printItems items
  | .object ms => '{' :: printMembers ms
  | .foreign => []

/-- Items with commas between them, up to and with the closing bracket. -/
def printItems : List Json → List Char
  | [] => [']']
  | [v] => print v ++ [']']
  | v :: w :: r => print v ++ ',' :: printItems (w :: r)

/-- Members with commas between them, up to and with the closing brace. -/
def printMembers : List (AnyText × Json) → List Char
  | [] => ['\x7d']
  | [(k, v)] => quote k ++ ':' :: (print v ++ ['\x7d'])
  | (k, v) :: p :: r => quote k ++ ':' :: (print v ++ ',' :: printMembers (p :: r))
end

/-- The compact text of a value that has a JSON form. -/
def encode? (v : Json) : Option String :=
  if v.storable then some (String.ofList v.print) else none

end Gatehouse.Json
