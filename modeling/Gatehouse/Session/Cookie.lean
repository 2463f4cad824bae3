import Gatehouse.Calendar.Iso
import Gatehouse.Session.Written
import Gatehouse.Text.CharacterSet
import Gatehouse.Text.Encoding
import Gatehouse.Text.Split

/-!
Cookies on the wire. `Cookie.write` gives the `Set-Cookie` header of a cookie that scripts
cannot read and that is sent to this site only; `Cookie.read` reads the `Cookie` headers of a
request. A value outside the plain characters is quoted, and reading takes the quotes off again.
-/
namespace Gatehouse.Cookie
open Text

/-- A character that names may have and values may have without quotes. -/
def isPlain (c : Char) : Bool := c.isAlphanum || "!#$%&'*+-.^_`|~:".toList.contains c

/-- A character that a quoted value holds as it is. -/
def isQuotable (c : Char) : Bool := isPlain c || " ()/<=>?@[]\x7b\x7d".toList.contains c

/-- Names that mean attributes of a cookie. -/
def attributeNames : List String :=
  ["expires", "path", "comment", "domain", "max-age", "secure", "httponly", "version", "samesite"]

def validName (name : String) : Bool :=
  !name.isEmpty && name.toList.all isPlain &&
    !attributeNames.contains (String.ofList (name.toList.map Char.toLower))

/-- A number below 512 as three octal digits. -/
def octal (n : Nat) : List Char :=
  [Nat.digitChar (n / 64 % 8), Nat.digitChar (n / 8 % 8), Nat.digitChar (n % 8)]

/-- A character inside a quoted value. -/
def quoteChar (c : Char) : List Char :=
  if c = '"' then ['\\', '"']
  else if c = '\\' then ['\\', '\\']
  else if isQuotable c ∨ 256 ≤ c.toNat then [c]
  else '\\' :: octal c.toNat

/-- A value as the header holds it. -/
def quoteValue (value : List Char) : List Char :=
  if !value.isEmpty && value.all isPlain then value
  else '"' :: (value.flatMap quoteChar ++ ['"'])

/-- The `Set-Cookie` header for the whole site, with an expiry on the clock of UTC. -/
def write (name value : String) (expiresAt : DateTime) (secure : Bool) : Except Fault String := do
  let e ← expiresAt.toUtc
  if !validName name then .error .badCookie
  else
    let header := name.toList ++ '=' :: (quoteValue value.toList ++ "; expires=".toList ++
      e.headerText ++ "; HttpOnly; Path=/; SameSite=strict".toList ++
      (if secure then "; Secure".toList else []))
    if header.all fun c => c.toNat < 256 then .ok (String.ofList header) else .error .unencodable

def octalDigit? (c : Char) : Option Nat :=
  if '0' ≤ c ∧ c ≤ '7' then some (c.toNat - 0x30) else none

/-- The character of three octal digits, the first of them at most 3. -/
def octalChar? (a b c : Char) : Option Char := do
  let x ← octalDigit? a
  let y ← octalDigit? b
  let z ← octalDigit? c
  if x < 4 then some (Char.ofNat (x * 64 + y * 8 + z)) else none

/-- The characters of a quoted value. -/
def unescape : List Char → List Char
  | '\\' :: a :: b :: c :: r =>
    match octalChar? a b c with
    | some d => d :: unescape r
    | none => if a = '\n' then '\\' :: unescape (a :: b :: c :: r) else a :: unescape (b :: c :: r)
  | '\\' :: a :: r => if a = '\n' then '\\' :: unescape (a :: r) else a :: unescape r
  | c :: r => c :: unescape r
  | [] => []

/-- A value without its quotes, if it has them. -/
def unquote (value : List Char) : List Char :=
  match value with
  | '"' :: r =>
    match r.reverse with
    | '"' :: inner => unescape inner.reverse
    | _ => value
  | _ => value

/-- One part of a `Cookie` header as a name and a value. -/
def pair (part : List Char) : Option (String × String) :=
  let (name, value) := (cutFirst '=' part).getD ([], part)
  let name := trim isBlank name
  let value := trim isBlank value
  if name.isEmpty && value.isEmpty then none
  else some (String.ofList name, String.ofList (unquote value))

/-- The cookies of the `Cookie` headers of a request, the last of equal names first. -/
def readAll (headers : List String) : List (String × String) :=
  (headers.flatMap fun h => (splitOn ';' h.toList).filterMap pair).reverse

/-- The value of a cookie that a request carries. -/
def read (headers : List String) (name : String) : Option String := (readAll headers).lookup name

end Gatehouse.Cookie
