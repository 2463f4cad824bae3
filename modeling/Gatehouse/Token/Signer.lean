import Gatehouse.Token.Claims
import Gatehouse.Token.Compact
import Gatehouse.Token.Key

/-!
Signing claims and checking tokens against a ring of keys. Every token names the key that signed
it, so a new key can be brought in for signing while tokens of the older keys stay good.
`Signer.verify` accepts a token only if the algorithm is the signer's own, the key is in the
ring, the signature covers exactly the text before the last dot, and the payload makes all
required claims for the issuer, for the expected audience, and for a time that has not passed.
-/
namespace Gatehouse
open Text Hash

structure Signer where
  keys : List (String × String)
  current : String
  algorithm : String
  issuer : String
  /-- Seconds since the epoch on the clock of the machine, which start times are held against. -/
  machineTime : Int
  /-- The key that signs is in the ring. -/
  current_known : (keys.lookup current).isSome

namespace Signer
variable [Platform]

/-- A signer, unless the current key is missing from the ring. -/
def build (keys : List (String × String)) (current algorithm issuer : String)
    (machineTime : Int) : Except Fault Signer :=
  if h : (keys.lookup current).isSome then .ok ⟨keys, current, algorithm, issuer, machineTime, h⟩
  else .error (.misconfigured s!"Signing key '{current}' is not in the key ring")

def secret (s : Signer) : String := (s.keys.lookup s.current).get s.current_known

/-- The header of the tokens that the signer makes. -/
def header (s : Signer) : Members :=
  [("alg", .text s.algorithm), ("kid", .text s.current), ("typ", .text "JWT")]

/-- The signature of a text under a secret, for a known algorithm and a usable secret. -/
def signature (algorithm secret : String) (signed : List Char) : Except Fault (List UInt8) :=
  match Algorithm.ofName? algorithm with
  | none => .error .unknownAlgorithm
  | some .unsigned => if secret = "" then .ok [] else .error .badKey
  | some (.keyed d) =>
    if Platform.usableSecret secret then
      .ok (hmac d (Utf8.encode secret.toList) (Utf8.encode signed))
    else .error .badKey

/-- The payload can be written: its issuer, if any, is a text, and no value is foreign. -/
def writable (payload : Members) : Bool :=
  (match payload.get? "iss" with
    | none => true
    | some (.text _) => true
    | some _ => false) && (Json.object payload).storable

def signingFailed : Fault := .raise .signing "Failed to sign token"

/-- The text of a token with a given payload. -/
def signPayload (s : Signer) (payload : Members) : Except Fault String :=
  if writable payload then do
    let signed := Compact.part s.header ++ '.' :: Compact.part payload
    let sig ← signature s.algorithm s.secret signed
    .ok (Compact.write signed sig)
  else .error signingFailed

def sign (s : Signer) (c : Claims) : Except Fault String := do
  let payload ← c.toPayload
  s.signPayload payload

def malformed (message : String) : Fault := .raise .malformedToken message

/-- The claims that every payload must make. -/
def requiredClaims : List String := ["name", "sub", "aud", "iss", "iat"]

/-- The member is there and not null. -/
def present (payload : Members) (name : String) : Bool :=
  match payload.get? name with
  | none => false
  | some .null => false
  | some _ => true

/-- A start time, where there is one, must be a number that is not after the machine's time. -/
def startOk (payload : Members) (machineTime : Int) : Bool :=
  match payload.get? "nbf" with
  | none => true
  | some v =>
    match Claims.integerOf v with
    | .ok n => n ≤ machineTime
    | .error _ => false

def issuerOk (payload : Members) (issuer : String) : Bool :=
  match payload.get? "iss" with
  | some (.text s) => s == issuer
  | _ => false

/-- A member that must be a text where it is there. -/
def textOk (payload : Members) (name : String) : Bool :=
  match payload.get? name with
  | none => true
  | some (.text _) => true
  | some _ => false

/-- How the audience of a payload stands to the expected one. -/
inductive AudienceMatch where
  | same
  | other
  | absent
  deriving DecidableEq, Repr

/-- An item of an audience list that is a text. -/
def isText : Json → Bool
  | .text _ => true
  | _ => false

/-- The audience is the expected one, or a list of texts that holds it. -/
def audienceMatch (payload : Members) (expected : Audience) : AudienceMatch :=
  match payload.get? "aud" with
  | none => .absent
  | some (.text s) =>
    if s = "" then .absent else if s = expected.name then .same else .other
  | some (.array items) =>
    if items.isEmpty then .absent
    else if items.all isText && items.any (fun v => v.text? == some expected.name) then .same
    else .other
  | some v => if v.truthy then .other else .absent

/-- The audience is the expected one, or none is expected. -/
def expectedMatch (payload : Members) : Option Audience → AudienceMatch
  | none => .same
  | some a => audienceMatch payload a

/-- The claims of the payload that are checked before the claim set is built. -/
def checkPayload (s : Signer) (payload : Members) (audience : Option Audience) :
    Except Fault Unit :=
  if !requiredClaims.all (present payload) then .error (malformed "Malformed token")
  else if !startOk payload s.machineTime then .error (malformed "Malformed token")
  else if !issuerOk payload s.issuer then .error (malformed "Malformed token")
  else
    match expectedMatch payload audience with
    | .absent => .error (malformed "Malformed token")
    | .other =>
      .error (.raise .invalidAudience "Token audience mismatch"
        (some [("expected", audience.elim .null fun a => .text a.name)]))
    | .same =>
      if textOk payload "sub" && textOk payload "jti" then .ok ()
      else .error (malformed "Malformed token")

/-- The token taken apart; a text with an unpaired surrogate has no bytes. -/
def takeApart (message : String) (token : Json) : Except Fault Compact :=
  match token with
  | .text (.string s) =>
    match Compact.read s.toList with
    | .ok c => .ok c
    | .error .malformed => .error (malformed message)
    | .error .tooDeep => .error .tooDeep
  | .text (.unpaired ..) => .error .unencodable
  | _ => .error (malformed message)

/-- The header of a token, on which nothing has been checked; what is not a text or is empty is
no token. -/
def readHeader (token : Json) : Except Fault Members :=
  match token with
  | .text (.string "") => .error (malformed "Token is empty")
  | .text _ => Compact.header <$> takeApart "Malformed token header" token
  | _ => .error (malformed "Token is empty")

/-- The secret that a header names: the algorithm must be the signer's and the key known. -/
def keyFor (s : Signer) (header : Members) : Except Fault String :=
  let alg := (header.get? "alg").getD .null
  if alg.text? ≠ some s.algorithm then
    .error (.raise .invalidSignature "Unexpected signing algorithm"
      (some [("alg", alg), ("expected", .text s.algorithm)]))
  else
    let kid := (header.get? "kid").getD .null
    match kid.text?.bind fun k => s.keys.lookup k with
    | some secret => .ok secret
    | none => .error (.raise .unknownKeyVersion "Unknown token key version" (some [("kid", kid)]))

/-- The header's own algorithm is the signer's. -/
def algorithmOk (s : Signer) (header : Members) : Bool :=
  match header.get? "alg" with
  | some (.text a) => a == s.algorithm
  | _ => false

/-- The signature is the one that the secret gives. -/
def checkSignature (s : Signer) (secret : String) (c : Compact) : Except Fault Unit :=
  if Compact.isDetached c.header || !s.algorithmOk c.header then
    .error (malformed "Malformed token")
  else
    match Algorithm.ofName? s.algorithm with
    | none => .error (malformed "Malformed token")
    | some .unsigned =>
      if secret = "" then .error (.raise .invalidSignature "Invalid token signature")
      else .error .badKey
    | some (.keyed _) => do
      let sig ← signature s.algorithm secret c.signed
      if c.signature = sig then .ok ()
      else .error (.raise .invalidSignature "Invalid token signature")

def payloadOf (c : Compact) : Except Fault Members :=
  match Compact.object c.payload with
  | .ok ms => .ok ms
  | .error .malformed => .error (malformed "Malformed token")
  | .error .tooDeep => .error .tooDeep

/-- The payload of a token, taken apart anew, that a secret has signed for an audience. -/
def decode (s : Signer) (secret : String) (token : Json) (audience : Option Audience) :
    Except Fault Members := do
  let c ← takeApart "Malformed token" token
  s.checkSignature secret c
  let payload ← payloadOf c
  s.checkPayload payload audience
  .ok payload

def claimsOf (payload : Members) : Except Fault Claims :=
  match Claims.ofPayload payload with
  | .ok c => .ok c
  | .error f => .error (if f.isBadStructure then malformed "Invalid token structure" else f)

/-- The time of the claims has not passed. -/
def checkExpiry (c : Claims) (now : DateTime) : Except Fault Unit :=
  match c.expiresAt with
  | none => .ok ()
  | some e => do
    if ← e.notAfter now then
      .error (.raise .tokenExpired "Token expired"
        (some [("sub", .text c.subject), ("aud", .text c.audience.name)]))
    else .ok ()

/-- The claims of a token that passes every check at the given time. -/
def verify (s : Signer) (token : Json) (audience : Option Audience) (now : DateTime) :
    Except Fault Claims := do
  let header ← readHeader token
  let secret ← s.keyFor header
  let payload ← s.decode secret token audience
  let claims ← claimsOf payload
  checkExpiry claims now
  .ok claims

end Signer

end Gatehouse
