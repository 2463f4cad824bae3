import Gatehouse.Account.Password
import Gatehouse.Account.User
import Gatehouse.Json.Display

/-!
The table of accounts. Every account has an id and a user name of its own; which id a new one gets,
and which values fit their columns, is up to the `Database`. A draft holds what is given for a new
account, and only `Accounts.insert` makes an account of it.
-/
namespace Gatehouse

/-- What is given for a column. -/
inductive Cell (α : Type) where
  | absent
  | null
  | value (a : α)
  deriving DecidableEq, Repr

/-- What is there, null and nothing being the same. -/
def Cell.toOption {α : Type} : Cell α → Option α
  | .value a => some a
  | _ => none

/-- The value of a column that may not be null. -/
def Cell.getOrDefault {α : Type} (default : Option α) : Cell α → Except Fault α
  | .value a => .ok a
  | .null => .error .integrity
  | .absent => default.elim (.error .integrity) .ok

structure Account where
  id : Int
  username : String
  nickname : String
  role : Role
  isActive : Bool
  passwordHash : String
  deriving DecidableEq, Repr

def Account.toUser (a : Account) : User :=
  ⟨a.id, a.username, some a.nickname, some a.role.name, a.isActive, some a.passwordHash⟩

/-- What is given for a new account. -/
structure Draft where
  id : Cell Int
  username : Cell String
  nickname : Cell String
  role : Cell Role
  isActive : Cell Bool
  passwordHash : Cell String
  deriving DecidableEq, Repr

namespace Draft

def columns : List AnyText :=
  ["id", "username", "nickname", "password_hash", "role", "is_active", "created_at"]

def cell {α : Type} (ms : Members) (name : AnyText) (read : Json → Except Fault α) :
    Except Fault (Cell α) :=
  match ms.get? name with
  | none => .ok .absent
  | some .null => .ok .null
  | some v => .value <$> read v

def readInteger : Json → Except Fault Int
  | .int i => .ok i
  | .bool b => .ok (if b then 1 else 0)
  | _ => .error .integrity

def readText (v : Json) : Except Fault String :=
  v.plainText.string?.elim (.error .unencodable) .ok

def readFlag : Json → Except Fault Bool
  | .bool b => .ok b
  | .int i => if i = 0 then .ok false else if i = 1 then .ok true else .error .badValue
  | _ => .error .wrongType

def readRole (v : Json) : Except Fault Role :=
  (v.text?.bind Role.ofName?).elim (.error .badValue) .ok

def read (ms : Members) : Except Fault Draft := do
  let role ← cell ms "role" readRole
  if ms.any fun p => !columns.contains p.1 then .error .wrongType
  else do
    let id ← cell ms "id" readInteger
    let username ← cell ms "username" readText
    let nickname ← cell ms "nickname" readText
    let isActive ← cell ms "is_active" readFlag
    let passwordHash ← cell ms "password_hash" readText
    .ok ⟨id, username, nickname, role, isActive, passwordHash⟩

end Draft

/-- What the table leaves to the database that holds it. -/
structure Database where
  /-- The id of a new row that comes without one. -/
  newId : List Account → Int
  /-- Refuses an id that a query cannot be made with. -/
  checkId : Int → Except Fault Unit
  /-- Refuses a row of which a value does not fit its column. -/
  checkRow : Account → Except Fault Unit

namespace Database

/-- The id that follows the largest one in use. -/
def nextId (rows : List Account) : Int :=
  match rows.map (·.id) with
  | [] => 1
  | i :: is => is.foldl max i + 1

/-- An id fits in 64 bits. -/
def checkWord (id : Int) : Except Fault Unit :=
  if -0x8000000000000000 ≤ id ∧ id < 0x8000000000000000 then .ok () else .error .outOfRange

/-- A table in memory, whose ids count up and whose texts have any length. -/
def inMemory : Database := ⟨nextId, checkWord, fun _ => .ok ()⟩

end Database

structure Accounts where
  rows : List Account
  deriving DecidableEq, Repr

namespace Accounts

def empty : Accounts := ⟨[]⟩

def byId? (t : Accounts) (id : Int) : Option Account := t.rows.find? (·.id = id)

def byUsername? (t : Accounts) (username : String) : Option Account :=
  t.rows.find? (·.username = username)

/-- Makes an account of a draft; its id and its user name must not be in use. -/
def insert (t : Accounts) (db : Database) (d : Draft) : Except Fault (Account × Accounts) := do
  let id := d.id.toOption.getD (db.newId t.rows)
  db.checkId id
  let username ← d.username.getOrDefault none
  let nickname ← d.nickname.getOrDefault (some "")
  let role ← d.role.getOrDefault (some .user)
  let isActive ← d.isActive.getOrDefault (some true)
  let passwordHash ← d.passwordHash.getOrDefault none
  let a : Account := ⟨id, username, nickname, role, isActive, passwordHash⟩
  db.checkRow a
  if t.rows.any fun b => b.id = a.id || b.username = a.username then .error .integrity
  else .ok (a, ⟨t.rows ++ [a]⟩)

def toDirectory (t : Accounts) : Directory := .ofList (t.rows.map Account.toUser)

def userById (t : Accounts) (db : Database) (id : Int) : Except Fault User := do
  db.checkId id
  t.toDirectory.byId id

/-- The value of a filter can be compared with its column. -/
def checkFilter (db : Database) (name : AnyText) (v : Json) : Except Fault Unit :=
  match name, v with
  | .string "id", .int i => db.checkId i
  | _, _ => .ok ()

/-- The value of a column, as it is compared with a filter. -/
def matchesColumn (a : Account) (name : AnyText) (v : Json) : Except Fault Bool :=
  match name, v with
  | .string "id", .int i => .ok (a.id = i)
  | .string "username", .text t => .ok (a.username = t)
  | .string "nickname", .text t => .ok (a.nickname = t)
  | .string "password_hash", .text t => .ok (a.passwordHash = t)
  | .string "role", .text t => .ok (a.role.name = t || a.role.columnName = t)
  | .string "is_active", .bool b => .ok (a.isActive = b)
  | .string "is_active", .int i => .ok ((if a.isActive then 1 else 0) = i)
  | _, _ => if Draft.columns.contains name then .ok false else .error .badQuery

/-- The account with the least id that fits all filters, which must name columns. -/
def find (t : Accounts) (db : Database) (filters : Members) : Except Fault (Option Account) :=
  if filters.any fun p => !Draft.columns.contains p.1 then .error .badQuery
  else do
    filters.forM fun p => checkFilter db p.1 p.2
    let sorted := t.rows.mergeSort fun a b => a.id ≤ b.id
    let fitting ← sorted.filterM fun a => filters.allM fun p => matchesColumn a p.1 p.2
    .ok fitting.head?

/-- A new account with a role for a user name that is not in use. How the digest of its password is
made is given with it, since a digest may have a salt of its own. -/
def register (t : Accounts) (db : Database) (hash : String → Except Fault String)
    (username password : String) (role : Role) (nickname : String) :
    Except Fault (Account × Accounts) :=
  match t.byUsername? username with
  | some _ => .error (.exit s!"User '{username}' already exists.")
  | none => do
    let passwordHash ← hash password
    t.insert db ⟨.absent, .value username, .value (if nickname = "" then username else nickname),
      .value role, .value true, .value passwordHash⟩

end Accounts

end Gatehouse
