import Gatehouse.Account.User
import Gatehouse.Schema.Object
import Gatehouse.Schema.Scalar

/-!
What a client learns about a user. A profile is checked like data from outside, so a user whose
row does not fit, as one with an unknown role, has no profile.
-/
namespace Gatehouse
open Schema

structure Profile where
  id : Int
  username : AnyText
  nickname : AnyText
  role : Role
  deriving DecidableEq, Repr

namespace Profile

def readRole (v : Json) : Checked Role :=
  match v.text?.bind Role.ofName? with
  | some r => .accepted r
  | none => .fault .enum v

def fieldNames : List AnyText := ["id", "username", "nickname", "role"]

def read : Json → Checked Profile :=
  closedObject fieldNames fun ms => Profile.mk <$> required ms "id" integer
    <*> required ms "username" text <*> required ms "nickname" text <*> required ms "role" readRole

/-- A text that may be absent, as data. -/
def textOrNull (s : Option String) : Json := s.elim .null fun s => .text s

def ofUser (u : User) : Except Fault Profile :=
  (read (.object [("id", .int u.id), ("username", .text u.username),
    ("nickname", textOrNull u.nickname), ("role", textOrNull u.role)])).toExcept

def toJson (p : Profile) : Json :=
  .object [("id", .int p.id), ("username", .text p.username), ("nickname", .text p.nickname),
    ("role", .text p.role.name)]

end Profile

end Gatehouse
