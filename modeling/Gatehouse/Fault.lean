import Gatehouse.Json.Basic

/-!
Everything that can go wrong. `ServiceError` is a failure that the service raises itself, with a
message and details for its log; the other faults arise in the values, the store, the database
or the configuration it works with. `Fault.reportName` is the name under which a fault is told
to error monitoring and in the log.
-/
namespace Gatehouse

inductive ServiceErrorKind where
  | general
  | infrastructure
  | storeFailure
  | signing
  | notFound
  | processing
  | unauthorized
  | malformedToken
  | invalidSignature
  | unknownKeyVersion
  | tokenExpired
  | invalidAudience
  | permissionDenied
  deriving DecidableEq, Repr, Inhabited

namespace ServiceErrorKind

def all : List ServiceErrorKind :=
  [general, infrastructure, storeFailure, signing, notFound, processing, unauthorized,
    malformedToken, invalidSignature, unknownKeyVersion, tokenExpired, invalidAudience,
    permissionDenied]

/-- The authentication failures: a token failure is one of them. -/
def isUnauthorized : ServiceErrorKind → Bool
  | unauthorized | malformedToken | invalidSignature | unknownKeyVersion | tokenExpired
  | invalidAudience => true
  | _ => false

def isInfrastructure : ServiceErrorKind → Bool
  | infrastructure | storeFailure | signing => true
  | _ => false

def reportName : ServiceErrorKind → String
  | general => "CoreException"
  | infrastructure => "InfrastructureException"
  | storeFailure => "StoreFailureException"
  | signing => "SigningException"
  | notFound => "InstanceNotFoundException"
  | processing => "InstanceProcessingException"
  | unauthorized => "UnauthorizedException"
  | malformedToken => "MalformedTokenException"
  | invalidSignature => "InvalidSignatureException"
  | unknownKeyVersion => "UnknownKeyVersionException"
  | tokenExpired => "TokenExpiredException"
  | invalidAudience => "InvalidAudienceException"
  | permissionDenied => "PermissionDeniedException"

end ServiceErrorKind

/-- A failure with its message and the details that only the log shows. -/
structure ServiceError where
  kind : ServiceErrorKind
  message : Option String
  info : Option Members := none
  deriving Repr, Inhabited

/-- A step on the way to a faulty field. -/
inductive PathStep where
  | name (t : AnyText)
  | index (i : Nat)
  deriving DecidableEq, Repr

inductive FieldProblem where
  | missing
  | extraForbidden
  | stringType
  | stringUnicode
  | stringTooShort
  | stringTooLong
  | intType
  | intParsing
  | intParsingSize
  | intFromFloat
  | finiteNumber
  | greaterThan
  | boolType
  | boolParsing
  | listType
  | modelType
  | modelAttributesType
  | enum
  | datetimeType
  | datetimeParsing
  | datetimeFromDateParsing
  | valueError
  | jsonInvalid
  deriving DecidableEq, Repr

def FieldProblem.code : FieldProblem → String
  | missing => "missing"
  | extraForbidden => "extra_forbidden"
  | stringType => "string_type"
  | stringUnicode => "string_unicode"
  | stringTooShort => "string_too_short"
  | stringTooLong => "string_too_long"
  | intType => "int_type"
  | intParsing => "int_parsing"
  | intParsingSize => "int_parsing_size"
  | intFromFloat => "int_from_float"
  | finiteNumber => "finite_number"
  | greaterThan => "greater_than"
  | boolType => "bool_type"
  | boolParsing => "bool_parsing"
  | listType => "list_type"
  | modelType => "model_type"
  | modelAttributesType => "model_attributes_type"
  | enum => "enum"
  | datetimeType => "datetime_type"
  | datetimeParsing => "datetime_parsing"
  | datetimeFromDateParsing => "datetime_from_date_parsing"
  | valueError => "value_error"
  | jsonInvalid => "json_invalid"

/-- A faulty field: the way to it, the problem and the value found there. -/
structure FieldError where
  path : List PathStep
  problem : FieldProblem
  input : Json := .null
  deriving Repr

/-- How the settings store can fail on its own. -/
inductive StoreFault where
  | connection
  | timeout
  | watch
  deriving DecidableEq, Repr

inductive Fault where
  /-- A failure that the service raises itself. -/
  | service (error : ServiceError)
  /-- Data that does not fit its schema. -/
  | invalid (errors : List FieldError)
  /-- A request whose data do not fit the schema. -/
  | badRequest (errors : List FieldError)
  | unreadableBody
  /-- A setting that an object cannot be built with. -/
  | misconfigured (message : String)
  /-- A change to a stored value that failed by itself. -/
  | changeFailed (message : String)
  /-- The command line ends with a message or an exit code. -/
  | exit (message : String)
  | store (fault : StoreFault)
  /-- A time or a number leaves its range. -/
  | outOfRange
  /-- A time is beyond what the clock of the system can hold. -/
  | beyondSystemClock
  /-- A value of the right type that cannot be used. -/
  | badValue
  /-- A value of the wrong type, or times with and without offset mixed. -/
  | wrongType
  | missingMember
  /-- An operation that the value does not have. -/
  | unsupported
  | tooDeep
  /-- A text with characters that the target form does not have. -/
  | unencodable
  /-- Bytes that are no text. -/
  | undecodable
  /-- A cookie name that cannot be written. -/
  | badCookie
  /-- A key that no signature may be made with. -/
  | badKey
  | unknownAlgorithm
  /-- A password that is too long to be hashed. -/
  | passwordSize
  /-- A row that breaks a rule of its table. -/
  | integrity
  /-- A query over a column that is not there. -/
  | badQuery
  | databaseConnection (detail : String)
  /-- A fault that nothing further is known about. -/
  | unexpected
  deriving Repr

namespace Fault

def raise (kind : ServiceErrorKind) (message : String) (info : Option Members := none) : Fault :=
  .service ⟨kind, some message, info⟩

def reportName : Fault → String
  | service e => e.kind.reportName
  | invalid _ => "ValidationError"
  | badRequest _ => "RequestValidationError"
  | unreadableBody => "HTTPException"
  | misconfigured _ => "ValueError"
  | changeFailed _ => "RuntimeError"
  | exit _ => "SystemExit"
  | store .connection => "ConnectionError"
  | store .timeout => "TimeoutError"
  | store .watch => "WatchError"
  | outOfRange => "OverflowError"
  | beyondSystemClock => "OSError"
  | badValue => "ValueError"
  | wrongType => "TypeError"
  | missingMember => "KeyError"
  | unsupported => "AttributeError"
  | tooDeep => "RecursionError"
  | unencodable => "UnicodeEncodeError"
  | undecodable => "UnicodeDecodeError"
  | badCookie => "CookieError"
  | badKey => "InvalidKeyError"
  | unknownAlgorithm => "NotImplementedError"
  | passwordSize => "PasswordSizeError"
  | integrity => "IntegrityError"
  | badQuery => "InvalidRequestError"
  | databaseConnection _ => "OperationalError"
  | unexpected => "RuntimeError"

def isBadValue : Fault → Bool
  | invalid _ | misconfigured _ | badValue | unencodable | undecodable | passwordSize => true
  | _ => false

/-- The fault says that a structure does not have the expected form. -/
def isBadStructure : Fault → Bool
  | missingMember | wrongType => true
  | f => f.isBadValue

def isUnauthorized : Fault → Bool
  | service e => e.kind.isUnauthorized
  | _ => false

end Fault

section
variable {ε α β : Type}

/-- A chain of steps succeeds when every step does. -/
theorem bind_eq_ok {x : Except ε α} {f : α → Except ε β} {b : β} :
    x >>= f = .ok b ↔ ∃ a, x = .ok a ∧ f a = .ok b := by
  cases x with
  | error e => simp [bind, Except.bind]
  | ok a => simp [bind, Except.bind]

/-- A chain of steps fails where its first step fails, or else where the next ones do. -/
theorem bind_eq_error {x : Except ε α} {f : α → Except ε β} {e : ε} :
    x >>= f = .error e ↔ x = .error e ∨ ∃ a, x = .ok a ∧ f a = .error e := by
  cases x with
  | error e' => simp [bind, Except.bind]
  | ok a => simp [bind, Except.bind]

theorem map_eq_error {x : Except ε α} {f : α → β} {e : ε} :
    f <$> x = .error e ↔ x = .error e := by
  cases x with
  | error e' => simp [Functor.map, Except.map]
  | ok a => simp [Functor.map, Except.map]

theorem map_eq_ok {x : Except ε α} {f : α → β} {b : β} :
    f <$> x = .ok b ↔ ∃ a, x = .ok a ∧ f a = b := by
  cases x with
  | error e => simp [Functor.map, Except.map]
  | ok a => simp [Functor.map, Except.map]

end

end Gatehouse
