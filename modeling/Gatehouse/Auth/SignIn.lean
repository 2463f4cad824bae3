import Gatehouse.Account.Password
import Gatehouse.Account.Profile
import Gatehouse.Session.Manager

/-!
Signing in with a user name and a password, which a scheme of digests checks. A user that is not
known and a wrong password give the same failure.
-/
namespace Gatehouse
open Schema

structure SignInForm where
  username : String
  password : String

namespace SignInForm

def longestUsername : Nat := 60

def read : Json → Checked SignInForm :=
  closedObject ["username", "password"] fun ms =>
    SignInForm.mk <$> required ms "username" (boundedText 1 (some longestUsername))
      <*> required ms "password" (boundedText 1 none)

def toJson (f : SignInForm) : Json :=
  .object [("username", .text f.username), ("password", .text f.password)]

end SignInForm

/-- The user with a name, or none; only a failing look-up is a fault. -/
def knownUser (d : Directory) (username : String) : Except Fault (Option User) :=
  match d.byUsername username with
  | .ok u => .ok (some u)
  | .error (.service e) => if e.kind = .notFound then .ok none else .error (.service e)
  | .error f => .error f

/-- How a sign-in is refused that gives the password of no known user. -/
def wrongCredentials : Fault := .raise .processing "Incorrect username or password."

def blockedUser : Fault := .raise .permissionDenied "User is blocked"

/-- The user whose password the form gives, who must be active. A user that is not known is checked
like one without a digest. -/
def checkPassword (k : Password.Scheme) (d : Directory) (form : SignInForm) :
    Except Fault User := do
  let known ← knownUser d form.username
  let fits ← k.fitsStored form.password (known.bind (·.passwordHash))
  match fits, known with
  | true, some u => if u.isActive then .ok u else .error blockedUser
  | _, _ => .error wrongCredentials

variable [Platform]

/-- Signs a user in: sets the session cookies and answers with the profile. -/
def signIn (k : Password.Scheme) (m : SessionManager) (d : Directory) (form : SignInForm)
    (now : DateTime) : Written Profile := do
  let u ← checkPassword k d form
  let _ ← m.establish (.text u.username) (.int u.id) now
  let profile ← Profile.ofUser u
  return profile

end Gatehouse
