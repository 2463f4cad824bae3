import Gatehouse.Config.ListSetting

/-!
The sections of the configuration. Each is read from a set of named values, where names that a
section does not know are passed over, and is written back with the same names.
-/
namespace Gatehouse
open Schema

/-- How the service presents itself and whom it lets call from other origins. -/
structure ServiceConfig where
  version : String
  debug : Bool
  testing : Bool
  logLevel : String
  fileLogLevel : String
  allowedOrigins : List String
  allowCredentials : Bool
  allowedMethods : List String
  allowedHeaders : List String
  exposedHeaders : List String
  projectName : String

namespace ServiceConfig

def read [Platform] (ms : Members) : Except Fault ServiceConfig := do
  let origins ← ListSetting.field ms "CORS_ALLOWED_ORIGINS"
  let methods ← ListSetting.field ms "CORS_ALLOWED_METHODS"
  let headers ← ListSetting.field ms "CORS_ALLOWED_HEADERS"
  let exposed ← ListSetting.field ms "CORS_EXPOSE_HEADERS"
  let section_ := ServiceConfig.mk <$> optional ms "VERSION" "0.1.0" string
    <*> optional ms "DEBUG" false boolean <*> optional ms "TESTING" false boolean
    <*> optional ms "LOG_LEVEL" "INFO" string <*> optional ms "LOG_LEVEL_FILE" "WARNING" string
    <*> origins <*> optional ms "CORS_ALLOW_CREDENTIALS" true boolean
    <*> methods <*> headers <*> exposed <*> optional ms "PROJECT_NAME" "authcore" string
  section_.toExcept

def texts (ss : List String) : Json := .array (ss.map fun s : String => .text s)

def members (c : ServiceConfig) : Members :=
  [("VERSION", .text c.version), ("DEBUG", .bool c.debug), ("TESTING", .bool c.testing),
    ("LOG_LEVEL", .text c.logLevel), ("LOG_LEVEL_FILE", .text c.fileLogLevel),
    ("CORS_ALLOWED_ORIGINS", texts c.allowedOrigins),
    ("CORS_ALLOW_CREDENTIALS", .bool c.allowCredentials),
    ("CORS_ALLOWED_METHODS", texts c.allowedMethods),
    ("CORS_ALLOWED_HEADERS", texts c.allowedHeaders),
    ("CORS_EXPOSE_HEADERS", texts c.exposedHeaders), ("PROJECT_NAME", .text c.projectName)]

end ServiceConfig

/-- How tokens are signed and how long, in minutes, they and their cookies live. -/
structure TokenConfig where
  secretKey : String
  algorithm : String
  keyId : String
  issuer : String
  accessMinutes : Int
  refreshMinutes : Int
  thresholdMinutes : Int
  marginMinutes : Int

namespace TokenConfig

/-- The cookies must end before the refresh token does, but not before it begins. -/
def marginFits (c : TokenConfig) : Bool := c.marginMinutes < c.refreshMinutes

def read (ms : Members) : Except Fault TokenConfig :=
  let section_ := TokenConfig.mk <$> required ms "JWT_SECRET_KEY" string
    <*> optional ms "ALGORITHM" "HS256" string <*> optional ms "KEY_ID" "v1" string
    <*> optional ms "ISSUER" "authcore" string
    <*> optional ms "ACCESS_TOKEN_EXPIRE_MINUTES" 1440 positive
    <*> optional ms "REFRESH_TOKEN_EXPIRE_MINUTES" 10080 positive
    <*> optional ms "REFRESH_THRESHOLD_MINUTES" 60 positive
    <*> optional ms "COOKIE_EXPIRY_MARGIN_MINUTES" 1 positive
  (section_.ensure marginFits .valueError (.object ms)).toExcept

def members (c : TokenConfig) : Members :=
  [("JWT_SECRET_KEY", .text c.secretKey), ("ALGORITHM", .text c.algorithm),
    ("KEY_ID", .text c.keyId), ("ISSUER", .text c.issuer),
    ("ACCESS_TOKEN_EXPIRE_MINUTES", .int c.accessMinutes),
    ("REFRESH_TOKEN_EXPIRE_MINUTES", .int c.refreshMinutes),
    ("REFRESH_THRESHOLD_MINUTES", .int c.thresholdMinutes),
    ("COOKIE_EXPIRY_MARGIN_MINUTES", .int c.marginMinutes)]

end TokenConfig

/-- The names of the session cookies, and whether they travel over secure connections only. -/
structure CookieConfig where
  accessName : String := "access-token"
  refreshName : String := "refresh-token"
  secure : Bool := false
  deriving DecidableEq, Repr

namespace CookieConfig

def read (ms : Members) : Except Fault CookieConfig :=
  let section_ := CookieConfig.mk <$> optional ms "ACCESS_TOKEN_COOKIE_NAME" "access-token" string
    <*> optional ms "REFRESH_TOKEN_COOKIE_NAME" "refresh-token" string
    <*> optional ms "COOKIE_SECURE" false boolean
  section_.toExcept

def members (c : CookieConfig) : Members :=
  [("ACCESS_TOKEN_COOKIE_NAME", .text c.accessName),
    ("REFRESH_TOKEN_COOKIE_NAME", .text c.refreshName), ("COOKIE_SECURE", .bool c.secure)]

end CookieConfig

structure StoreConfig where
  host : String
  port : Int
  password : String
  database : String

namespace StoreConfig

def read (ms : Members) : Except Fault StoreConfig :=
  let section_ := StoreConfig.mk <$> optional ms "REDIS_HOST" "localhost" string
    <*> optional ms "REDIS_PORT" 6379 integer <*> optional ms "REDIS_PASSWORD" "" string
    <*> optional ms "REDIS_DATABASE" "0" string
  section_.toExcept

def dsn (c : StoreConfig) : String :=
  s!"redis://:{c.password}@{c.host}:{c.port}/{c.database}"

def members (c : StoreConfig) : Members :=
  [("REDIS_HOST", .text c.host), ("REDIS_PORT", .int c.port),
    ("REDIS_PASSWORD", .text c.password), ("REDIS_DATABASE", .text c.database)]

end StoreConfig

structure MonitoringConfig where
  dsn : Option String
  environment : String
  enabled : Bool

namespace MonitoringConfig

def read (ms : Members) : Except Fault MonitoringConfig :=
  let section_ := MonitoringConfig.mk <$> optional ms "SENTRY_DSN" none (nullable string)
    <*> optional ms "SENTRY_ENV" "development" string
    <*> optional ms "SENTRY_ENABLED" false boolean
  section_.toExcept

def members (c : MonitoringConfig) : Members :=
  [("SENTRY_DSN", c.dsn.elim .null fun s => .text s), ("SENTRY_ENV", .text c.environment),
    ("SENTRY_ENABLED", .bool c.enabled)]

end MonitoringConfig

structure DatabaseConfig where
  echo : Bool
  user : String
  password : String
  host : String
  port : Int
  database : String

namespace DatabaseConfig

def read (ms : Members) : Except Fault DatabaseConfig :=
  let section_ := DatabaseConfig.mk <$> optional ms "DB_ECHO" false boolean
    <*> optional ms "POSTGRES_USER" "postgres" string
    <*> optional ms "POSTGRES_PASSWORD" "postgres" string
    <*> optional ms "POSTGRES_HOST" "localhost" string
    <*> optional ms "POSTGRES_PORT" 5432 integer
    <*> optional ms "POSTGRES_DB" "authcore" string
  section_.toExcept

def dsn (c : DatabaseConfig) : String :=
  s!"postgresql+asyncpg://{c.user}:{c.password}@{c.host}:{c.port}/{c.database}"

def members (c : DatabaseConfig) : Members :=
  [("DB_ECHO", .bool c.echo), ("POSTGRES_USER", .text c.user),
    ("POSTGRES_PASSWORD", .text c.password), ("POSTGRES_HOST", .text c.host),
    ("POSTGRES_PORT", .int c.port), ("POSTGRES_DB", .text c.database)]

end DatabaseConfig

/-- How often an update of a setting is tried. -/
structure RetryConfig where
  maxRetries : Int

namespace RetryConfig

def read (ms : Members) : Except Fault RetryConfig :=
  let section_ := RetryConfig.mk <$> optional ms "UPDATE_MAX_RETRIES" 5 positive
  section_.toExcept

def members (c : RetryConfig) : Members := [("UPDATE_MAX_RETRIES", .int c.maxRetries)]

end RetryConfig

end Gatehouse
