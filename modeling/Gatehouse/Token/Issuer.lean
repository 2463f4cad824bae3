import Gatehouse.Token.Signer

/-!
Issuing the three kinds of tokens. The life of session tokens is set by the issuer; the expiry
of a personal token is chosen by who asks for it, and without one the token never expires.
-/
namespace Gatehouse

structure Issuer where
  signer : Signer
  /-- Microseconds that a session access token lives. -/
  accessLife : Int
  /-- Microseconds that a session refresh token lives. -/
  refreshLife : Int

namespace Issuer
variable [Platform]

/-- The token for a principal and a subject with given times. -/
def issue (i : Issuer) (principal subject : Json) (audience : Audience) (issuedAt : DateTime)
    (expiresAt : Option DateTime) : Except Fault String := do
  let claims ← Claims.build
    ⟨principal, subject, .text audience.name, .text i.signer.issuer, issuedAt, expiresAt⟩
  i.signer.sign claims

def sessionAccess (i : Issuer) (principal subject : Json) (now : DateTime) :
    Except Fault String := do
  let e ← now.shift i.accessLife
  i.issue principal subject .sessionAccess now (some e)

def sessionRefresh (i : Issuer) (principal subject : Json) (now : DateTime) :
    Except Fault String := do
  let e ← now.shift i.refreshLife
  i.issue principal subject .sessionRefresh now (some e)

def personalAccess (i : Issuer) (principal subject : Json) (expiresAt : Option DateTime)
    (now : DateTime) : Except Fault String :=
  i.issue principal subject .personalAccess now expiresAt

end Issuer

end Gatehouse
