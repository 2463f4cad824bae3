import Gatehouse.Calendar.DateTime
import Gatehouse.Config.Basic
import Gatehouse.Session.Manager

/-!
The signer, issuer and session manager that a configuration asks for.
-/
namespace Gatehouse
variable [Platform]

/-- The signer with the one configured key. -/
def Signer.ofConfig (c : TokenConfig) (machineTime : Int) : Except Fault Signer :=
  Signer.build [(c.keyId, c.secretKey)] c.keyId c.algorithm c.issuer machineTime

def Issuer.ofConfig (signer : Signer) (c : TokenConfig) : Except Fault Issuer := do
  let access ← Span.ofMinutes c.accessMinutes
  let refresh ← Span.ofMinutes c.refreshMinutes
  .ok ⟨signer, access, refresh⟩

def SessionManager.ofConfig (issuer : Issuer) (token : TokenConfig) (cookies : CookieConfig) :
    Except Fault SessionManager := do
  let threshold ← Span.ofMinutes token.thresholdMinutes
  let margin ← Span.ofMinutes token.marginMinutes
  SessionManager.build issuer threshold margin cookies

end Gatehouse
