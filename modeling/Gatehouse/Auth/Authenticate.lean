import Gatehouse.Account.User
import Gatehouse.PersonalToken.Registry
import Gatehouse.Session.Manager
import Gatehouse.Text.Case
import Gatehouse.Text.CharacterSet

/-!
Who sends a request. An `Authorization` header carries a personal access token, which must also
be on record for the user that it names; without the header the session cookies decide, and the
access token is renewed where the session asks for it. The user must exist and be active.
-/
namespace Gatehouse
open Text

/-- What a request shows of who sends it. -/
structure Credentials where
  authorization : Option String
  /-- The `Cookie` headers in order. -/
  cookies : List String

/-- The token in an `Authorization` header, with or without the word before it. -/
def bearerToken (header : String) : String :=
  let cs := header.toList
  if (stripPrefix? "bearer ".toList (lower cs)).isSome then
    String.ofList (trim isBlank (cs.drop 7))
  else header

def badCredentials : Fault := .raise .unauthorized "Could not validate credentials"

/-- A fault of a look-up that means that the claims name no user. -/
def namesNoUser : Fault → Bool
  | .service e => e.kind == .notFound
  | f => f.isBadValue

def activeUser (d : Directory) (c : Claims) : Except Fault User :=
  match c.userId.bind d.byId with
  | .ok u => if u.isActive then .ok u else .error badCredentials
  | .error f => .error (if namesNoUser f then badCredentials else f)

variable [Platform]

/-- The user of a personal access token. -/
def authenticateToken (r : TokenRegistry) (d : Directory) (s : KeyValue) (header : String)
    (now : DateTime) : Except Fault User := do
  let token := bearerToken header
  let claims ← r.signer.verify (.text token) (some .personalAccess) now
  let id ← claims.userId
  if ← TokenRegistry.contains s (.int id) token then activeUser d claims
  else .error (.raise .unauthorized "Access token has been revoked")

/-- A cookie of the request as a token, null if there is none. -/
def cookieToken (c : Credentials) (name : String) : Json :=
  (Cookie.read c.cookies name).elim .null fun s => .text s

/-- The user of a browser session. -/
def authenticateSession (m : SessionManager) (d : Directory) (c : Credentials) (now : DateTime) :
    Written User := do
  let check ← m.evaluate (cookieToken c m.cookies.accessName) (cookieToken c m.cookies.refreshName)
    now
  match check with
  | .invalid reason =>
    Written.ofExcept (.error (if reason = "" then badCredentials else .raise .unauthorized reason))
  | .valid claims =>
    let u ← activeUser d claims
    return u
  | .renew claims =>
    let u ← activeUser d claims
    let _ ← m.renew claims now
    return u

/-- The user who sends a request. -/
def authenticate (m : SessionManager) (r : TokenRegistry) (d : Directory) (s : KeyValue)
    (c : Credentials) (now : DateTime) : Written User :=
  match c.authorization with
  | none => authenticateSession m d c now
  | some header =>
    if header = "" then authenticateSession m d c now
    else Written.ofExcept (authenticateToken r d s header now)

end Gatehouse
