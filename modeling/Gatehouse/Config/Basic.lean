import Gatehouse.Config.EnvFile
import Gatehouse.Config.Sections
import Gatehouse.Text.Case

/-!
The configuration of the service: all its sections, read from one set of values. `Config.load`
takes the values from a settings file with those of the environment on top, and `Launch` is what the
server is launched with.
-/
namespace Gatehouse

structure Config where
  service : ServiceConfig
  token : TokenConfig
  cookies : CookieConfig
  store : StoreConfig
  monitoring : MonitoringConfig
  database : DatabaseConfig
  retry : RetryConfig

namespace Config
variable [Platform]

/-- All sections from one set of values. -/
def read (ms : Members) : Except Fault Config := do
  let service ← ServiceConfig.read ms
  let token ← TokenConfig.read ms
  let cookies ← CookieConfig.read ms
  let store ← StoreConfig.read ms
  let monitoring ← MonitoringConfig.read ms
  let database ← DatabaseConfig.read ms
  let retry ← RetryConfig.read ms
  .ok ⟨service, token, cookies, store, monitoring, database, retry⟩

/-- The settings file: test runs have one of their own. -/
def fileName (environment : List (String × String)) : String :=
  if environment.lookup "TESTING" = some "true" then ".env.test" else ".env"

/-- The values of a settings file with those of the environment over them. -/
def merged (file : String) (environment : List (String × String)) : Members :=
  let stored : Members := (EnvFile.values environment file).reverse.foldl
    (fun ms (k, v) => v.elim (ms.filter (·.1 ≠ k)) fun v => ms.set k (.text v)) []
  environment.foldl (fun ms (k, v) => ms.set k (.text v)) stored

/-- The configuration that the settings files and the environment give. -/
def load (files environment : List (String × String)) : Except Fault Config :=
  read (merged ((files.lookup (fileName environment)).getD "") environment)

end Config

/-- How the server is launched. -/
structure Launch where
  application : String
  host : String
  port : Nat
  /-- The server starts again when its files change. -/
  reload : Bool
  logLevel : String
  deriving DecidableEq, Repr

def Launch.ofConfig (c : ServiceConfig) : Launch :=
  ⟨"authcore.main.web:app", "0.0.0.0", 8000, c.debug,
    String.ofList (Text.lower c.logLevel.toList)⟩

end Gatehouse
