import Gatehouse.Account.Role
import Gatehouse.Fault

/-!
Users and their directory, which keeps them in the order in which they were added. Looking up a
user that is not there is a failure of its own kind. Callers manage their own access tokens; for
those of another user they need a permission of its own, and only with it do they learn whether that
user exists.
-/
namespace Gatehouse

structure User where
  id : Int
  username : String
  nickname : Option String
  role : Option String
  isActive : Bool
  passwordHash : Option String
  deriving DecidableEq, Repr

namespace User

def has (u : User) (p : Permission) : Bool := rolePermits u.role p

end User

structure Directory where
  users : List User
  /-- How every look-up fails while the database does not answer. -/
  failure : Option Fault := none

namespace Directory

/-- Replaces the user with the same id in place, or adds the user at the end. -/
def insert (u : User) : List User → List User
  | [] => [u]
  | v :: r => if v.id = u.id then u :: r else v :: insert u r

def add (d : Directory) (u : User) : Directory := { d with users := insert u d.users }

def remove (d : Directory) (id : Int) : Directory :=
  { d with users := d.users.filter (·.id ≠ id) }

def ofList (us : List User) : Directory := us.foldl add ⟨[], none⟩

/-- A user that a look-up found, unless look-ups fail. -/
def found (d : Directory) (user : Option User) (missing : Fault) : Except Fault User :=
  match d.failure with
  | some f => .error f
  | none =>
    match user with
    | some u => .ok u
    | none => .error missing

def byId (d : Directory) (id : Int) : Except Fault User :=
  d.found (d.users.find? (·.id = id))
    (.raise .notFound "User not found" (some [("user_id", .int id)]))

def byUsername (d : Directory) (name : String) : Except Fault User :=
  d.found (d.users.find? (·.username = name))
    (.raise .notFound s!"Fail to find user {name}" (some [("username", .text name)]))

end Directory

/-- The user whose access tokens a caller may manage under a user name. -/
def tokenOwner (caller : User) (d : Directory) (username : String) : Except Fault User :=
  if caller.username = username then
    if caller.has .manageOwnAccessTokens then .ok caller
    else .error (.raise .permissionDenied "Permission denied")
  else if caller.has .manageUserAccessTokens then d.byUsername username
  else
    .error (.raise .permissionDenied "Permission denied"
      (some [("user_id", .int caller.id), ("target", .text username)]))

end Gatehouse
