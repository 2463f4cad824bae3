import Gatehouse.Calendar.DateTime
import Gatehouse.Json.Display
import Gatehouse.Text.Integer

/-!
The claims that a token makes: who it is for, in which role it may be used, who issued it, and
when. `Claims.toPayload` writes them as a JSON object, `Claims.ofPayload` reads such an object.
Times of claims are whole seconds of UTC.
-/
namespace Gatehouse
open Text

inductive Audience where
  | sessionAccess
  | sessionRefresh
  | personalAccess
  deriving DecidableEq, Repr

namespace Audience

def name : Audience → String
  | sessionAccess => "session-access"
  | sessionRefresh => "session-refresh"
  | personalAccess => "personal-access"

def all : List Audience := [sessionAccess, sessionRefresh, personalAccess]

def ofName? (s : String) : Option Audience := all.find? fun a => a.name == s

/-- The audience that a JSON text names. -/
def ofJson? : Json → Option Audience
  | .text (.string s) => ofName? s
  | _ => none

theorem ofName?_name (a : Audience) : ofName? a.name = some a := by cases a <;> decide

theorem name_of_ofName? {s : String} {a : Audience} (h : ofName? s = some a) : a.name = s := by
  simpa using List.find?_some h

end Audience

structure Claims where
  principal : AnyText
  subject : AnyText
  audience : Audience
  issuer : AnyText
  issuedAt : DateTime
  expiresAt : Option DateTime
  deriving DecidableEq, Repr

/-- What a claim set is built from. -/
structure ClaimsRequest where
  principal : Json
  subject : Json
  audience : Json
  issuer : Json
  issuedAt : DateTime
  expiresAt : Option DateTime

namespace Claims

/-- The value of a text field, or what is wrong with it. -/
def textField (name : String) (v : Json) : Except FieldError AnyText :=
  match v with
  | .text t => .ok t
  | _ => .error ⟨[.name name], .stringType, v⟩

/-- The audience of a field, or what is wrong with it. -/
def audienceField (v : Json) : Except FieldError Audience :=
  match Audience.ofJson? v with
  | some a => .ok a
  | none => .error ⟨[.name "audience"], .enum, v⟩

/-- The failure of a checked field, if it failed. -/
def problem {α : Type} : Except FieldError α → List FieldError
  | .ok _ => []
  | .error e => [e]

/-- Claims from checked fields; all faulty fields are told together. -/
def ofFields (principal subject issuer : Except FieldError AnyText)
    (audience : Except FieldError Audience) (issuedAt : DateTime) (expiresAt : Option DateTime) :
    Except Fault Claims :=
  match principal, subject, audience, issuer with
  | .ok principal, .ok subject, .ok audience, .ok issuer =>
    .ok ⟨principal, subject, audience, issuer, issuedAt, expiresAt⟩
  | p, s, a, i => .error (.invalid (problem p ++ problem s ++ problem a ++ problem i))

/-- The expiry, if there is one, without its fraction of a second. -/
def truncateExpiry : Option DateTime → Except Fault (Option DateTime)
  | none => .ok none
  | some e => some <$> e.truncateToSeconds

/-- Claims with whole seconds; the subject may be any value that can be shown and is kept as
text. -/
def build (r : ClaimsRequest) : Except Fault Claims :=
  if r.subject.hasLongInteger then .error .badValue
  else do
    let issuedAt ← r.issuedAt.truncateToSeconds
    let expiresAt ← truncateExpiry r.expiresAt
    ofFields (textField "principal" r.principal) (.ok r.subject.plainText)
      (textField "issuer" r.issuer) (audienceField r.audience) issuedAt expiresAt

/-- The subject as the number of a user. -/
def userId (c : Claims) : Except Fault Int :=
  match c.subject.string?.bind fun s => readInteger? s.toList with
  | some n => .ok n
  | none => .error .badValue

/-- The payload of a token; the expiry only when there is one. -/
def toPayload (c : Claims) : Except Fault Members := do
  let iat ← c.issuedAt.toNumericDate
  let start : Members :=
    [("name", .text c.principal), ("sub", .text c.subject), ("aud", .text c.audience.name),
      ("iss", .text c.issuer), ("iat", .int iat)]
  match c.expiresAt with
  | none => .ok start
  | some e => do
    let exp ← e.toNumericDate
    .ok (start ++ ([("exp", .int exp)] : Members))

/-- A JSON value as an integer: numbers lose their fraction, texts are read. -/
def integerOf : Json → Except Fault Int
  | .int i => .ok i
  | .bool b => .ok (if b then 1 else 0)
  | .float x =>
    match x with
    | .nan => .error .badValue
    | .infinite _ => .error .outOfRange
    | .finite .. => .ok (x.truncate?.getD 0)
  | .text t =>
    match t.string?.bind fun s => readInteger? s.toList with
    | some n => .ok n
    | none => .error .badValue
  | _ => .error .wrongType

/-- The time that a JSON value tells in seconds since the epoch. -/
def timeOf (v : Json) : Except Fault DateTime := do
  let n ← integerOf v
  DateTime.ofNumericDate n

/-- A member that must be there. -/
def member (payload : Members) (name : String) : Except Fault Json :=
  match payload.get? name with
  | some v => .ok v
  | none => .error .missingMember

/-- The expiry of a payload; null is none. -/
def expiryOf (payload : Members) : Except Fault (Option DateTime) :=
  match payload.get? "exp" with
  | none => .ok none
  | some .null => .ok none
  | some v => some <$> timeOf v

def audienceOf (v : Json) : Except Fault Audience :=
  match Audience.ofJson? v with
  | some a => .ok a
  | none => .error .badValue

def ofPayload (payload : Members) : Except Fault Claims := do
  let name ← member payload "name"
  let sub ← member payload "sub"
  let aud ← member payload "aud"
  let audience ← audienceOf aud
  let iss ← member payload "iss"
  let iat ← member payload "iat"
  let issuedAt ← timeOf iat
  let expiresAt ← expiryOf payload
  ofFields (textField "principal" name) (textField "subject" sub) (textField "issuer" iss)
    (.ok audience) issuedAt expiresAt

end Claims

end Gatehouse
