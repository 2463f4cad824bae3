/-!
Roles of users and what they permit. A user may always have a role that is not known here; such
a role permits nothing.
-/
namespace Gatehouse

inductive Role where
  /-- The owner of the instance. -/
  | host
  /-- May manage the credentials of other users. -/
  | admin
  /-- May manage its own credentials only. -/
  | user
  deriving DecidableEq, Repr

inductive Permission where
  | manageOwnAccessTokens
  | manageUserAccessTokens
  deriving DecidableEq, Repr

namespace Role

def name : Role → String
  | host => "host"
  | admin => "admin"
  | user => "user"

/-- The name under which the database keeps the role. -/
def columnName : Role → String
  | host => "HOST"
  | admin => "ADMIN"
  | user => "USER"

def all : List Role := [host, admin, user]

def ofName? (s : String) : Option Role := all.find? fun r => r.name == s

def permits : Role → Permission → Bool
  | host, _ => true
  | admin, _ => true
  | user, .manageOwnAccessTokens => true
  | user, .manageUserAccessTokens => false

theorem ofName?_name (r : Role) : ofName? r.name = some r := by cases r <;> decide

end Role

namespace Permission

def name : Permission → String
  | manageOwnAccessTokens => "manage_own_access_tokens"
  | manageUserAccessTokens => "manage_user_access_tokens"

def all : List Permission := [manageOwnAccessTokens, manageUserAccessTokens]

def ofName? (s : String) : Option Permission := all.find? fun p => p.name == s

end Permission

/-- A role by its name permits something; an unknown one permits nothing. -/
def rolePermits (role : Option String) (p : Permission) : Bool :=
  (role.bind Role.ofName?).any (·.permits p)

end Gatehouse
