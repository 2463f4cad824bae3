import Gatehouse.Fault
import Gatehouse.Hash.Sha2
import Gatehouse.Text.Encoding
import Gatehouse.Text.Split

/-!
Passwords and their digests. A scheme says how digests are made and checked. A stored text that is
no digest of the scheme fits no password, and where none is stored no password fits.
`Scheme.sha256`, which stands in where no other scheme is at hand, is SHA-256 of the UTF-8 text in
hexadecimal.
-/
namespace Gatehouse.Password
open Text Hash

/-- How digests of passwords are made, and how passwords are checked against stored ones. -/
structure Scheme where
  hash : String → Except Fault String
  verify : (password stored : String) → Except Fault Bool

namespace Scheme

/-- The password fits the stored text. It does not where one of the two cannot be checked. -/
def fits (k : Scheme) (password stored : String) : Except Fault Bool :=
  match k.verify password stored with
  | .ok b => .ok b
  | .error f => if f.isBadValue then .ok false else .error f

/-- The digest that stands in for one that is not stored. -/
def dummy (k : Scheme) : Except Fault String := k.hash "dummy-password"

/-- The password fits what is stored. Where nothing is stored the digest that stands in is checked,
so that both take one check, and the password does not fit. -/
def fitsStored (k : Scheme) (password : String) (stored : Option String) : Except Fault Bool :=
  match stored with
  | some s => k.fits password s
  | none => do
    let digest ← k.dummy
    let _ ← k.fits password digest
    return false

end Scheme

def longest : Nat := 4096

def digest (password : String) : String :=
  String.ofList ((sha256 (Utf8.encode password.toList)).flatMap fun b => hex 2 b.toNat)

def hash (password : String) : Except Fault String :=
  if longest < password.length then .error .passwordSize else .ok (digest password)

def isDigest (stored : String) : Bool :=
  stored.length == 64 && stored.toList.all fun c => (hexValue? c).isSome

/-- The password has the stored digest, whose letters may be in upper case. -/
def verify (password stored : String) : Except Fault Bool := do
  let d ← hash password
  if isDigest stored then .ok (String.ofList (stored.toList.map Char.toLower) == d)
  else .error .badValue

def Scheme.sha256 : Scheme := ⟨Password.hash, Password.verify⟩

end Gatehouse.Password
