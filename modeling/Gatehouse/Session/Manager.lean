import Gatehouse.Config.Sections
import Gatehouse.Session.Cookie
import Gatehouse.Token.Issuer

/-!
Browser sessions. Signing in issues an access and a refresh token and stores both in cookies,
which end a margin before the refresh token does, so that the browser drops the session before
the service would turn it away. `SessionManager.evaluate` says whether a session may go on: with
an access token that lives longer than the threshold it is used as it is, with one that has
expired or soon will it is renewed from the refresh token, and everything else ends it.
-/
namespace Gatehouse

structure SessionManager where
  issuer : Issuer
  /-- Microseconds before the end of an access token from which on it is renewed. -/
  threshold : Int
  /-- Microseconds by which the cookies end before the refresh token. -/
  margin : Int
  cookies : CookieConfig
  margin_pos : 0 < margin

/-- The verdict on a session. -/
inductive SessionCheck where
  | valid (claims : Claims)
  | renew (claims : Claims)
  | invalid (reason : String)
  deriving DecidableEq, Repr

/-- The tokens of a new session and the end of their cookies. -/
structure SessionTokens where
  access : String
  refresh : String
  cookieExpiry : DateTime

/-- How long ago the cookies of a cleared session ended. -/
def clearedBefore : Int := 3600 * second

/-- Writes a cookie that holds a token. -/
def setTokenCookie (name value : String) (expiresAt : DateTime) (secure : Bool) : Written Unit :=
  .header (Cookie.write name value expiresAt secure)

/-- Makes the browser drop both session cookies. -/
def clearSession (cookies : CookieConfig) (now : DateTime) : Written Unit := do
  let past ← now.shift (-clearedBefore)
  setTokenCookie cookies.accessName "" past cookies.secure
  setTokenCookie cookies.refreshName "" past cookies.secure

namespace SessionManager
variable [Platform]

def build (issuer : Issuer) (threshold margin : Int) (cookies : CookieConfig) :
    Except Fault SessionManager :=
  if h : 0 < margin then .ok ⟨issuer, threshold, margin, cookies, h⟩
  else .error (.misconfigured "cookie_expiry_margin must be positive")

def signer (m : SessionManager) : Signer := m.issuer.signer

/-- The end of cookies that are written now for a session that starts now. -/
def cookieExpiry (m : SessionManager) (now : DateTime) : Except Fault DateTime := do
  let e ← now.shift m.issuer.refreshLife
  e.shift (-m.margin)

/-- Starts a session for a user. -/
def establish (m : SessionManager) (username userId : Json) (now : DateTime) :
    Written SessionTokens := do
  let access ← m.issuer.sessionAccess username userId now
  let refresh ← m.issuer.sessionRefresh username userId now
  let e ← m.cookieExpiry now
  setTokenCookie m.cookies.accessName access e m.cookies.secure
  setTokenCookie m.cookies.refreshName refresh e m.cookies.secure
  return ⟨access, refresh, e⟩

/-- Ends a session in the browser; the service keeps nothing about it. -/
def terminate (m : SessionManager) (now : DateTime) : Written Unit := clearSession m.cookies now

/-- The claims end within the threshold. -/
def endsSoon (m : SessionManager) (c : Claims) (now : DateTime) : Except Fault Bool :=
  match c.expiresAt with
  | none => .ok false
  | some e => (· ≤ m.threshold) <$> e.since now

/-- The cookies of a session with these refresh claims have ended. -/
def cookiesEnded (m : SessionManager) (c : Claims) (now : DateTime) : Except Fault Bool :=
  match c.expiresAt with
  | none => .ok false
  | some e => do
    let last ← e.shift (-m.margin)
    last.notAfter now

/-- The message of a failed authentication; other faults stay faults. -/
def refusal (f : Fault) : Except Fault SessionCheck :=
  match f with
  | .service e =>
    if e.kind.isUnauthorized then .ok (.invalid (e.message.getD "")) else .error f
  | f => .error f

/-- The verdict on a session whose access token alone does not carry it. -/
def evaluateRefresh (m : SessionManager) (access : Option Claims) (refresh : Json)
    (now : DateTime) : Except Fault SessionCheck :=
  if !refresh.truthy then .ok (.invalid "Refresh token missing")
  else
    match m.signer.verify refresh (some .sessionRefresh) now with
    | .error f => refusal f
    | .ok r =>
      if access.any (·.subject ≠ r.subject) then .ok (.invalid "Session token mismatch")
      else do
        if ← m.cookiesEnded r now then .ok (.invalid "Session ends too soon")
        else .ok (.renew r)

/-- The verdict on the session of an access and a refresh token. -/
def evaluate (m : SessionManager) (access refresh : Json) (now : DateTime) :
    Except Fault SessionCheck :=
  if !access.truthy then .ok (.invalid "Access token missing")
  else
    match m.signer.verify access (some .sessionAccess) now with
    | .ok c => do
      if ← m.endsSoon c now then m.evaluateRefresh (some c) refresh now else .ok (.valid c)
    | .error (.service e) =>
      if e.kind = .tokenExpired then m.evaluateRefresh none refresh now else refusal (.service e)
    | .error f => refusal f

/-- The end of the access cookie of a renewed session: never later than that of the refresh
cookie. -/
def renewedExpiry (m : SessionManager) (refresh : Claims) (now : DateTime) :
    Except Fault DateTime :=
  match refresh.expiresAt with
  | none => m.cookieExpiry now
  | some e => do
    let fresh ← m.cookieExpiry now
    let last ← e.shift (-m.margin)
    fresh.earlier last

/-- Issues a new access token to a session and sets its cookie. -/
def renew (m : SessionManager) (refresh : Claims) (now : DateTime) : Written String := do
  let access ← m.issuer.sessionAccess (.text refresh.principal) (.text refresh.subject) now
  let e ← m.renewedExpiry refresh now
  setTokenCookie m.cookies.accessName access e m.cookies.secure
  return access

end SessionManager

end Gatehouse
