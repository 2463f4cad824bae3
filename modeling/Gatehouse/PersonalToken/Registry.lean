import Gatehouse.PersonalToken.Record
import Gatehouse.Token.Issuer

/-!
The registry of personal access tokens. A token counts only while its record is kept, so that it
can be revoked before it expires; a record counts only while its token verifies.
-/
namespace Gatehouse

structure TokenRegistry where
  issuer : Issuer
  settings : Settings

namespace TokenRegistry
variable [Platform]

def signer (r : TokenRegistry) : Signer := r.issuer.signer

/-- The view of a record whose token verifies. -/
def view (r : TokenRegistry) (record : TokenRecord) (now : DateTime) : Except Fault TokenView := do
  let claims ← r.signer.verify (.text record.token) (some .personalAccess) now
  .ok ⟨record.token, record.description, claims.issuedAt, claims.expiresAt⟩

/-- The views of records; a record whose token does not verify keeps its failure. -/
def verifyEach (r : TokenRegistry) (now : DateTime) :
    List TokenRecord → Except Fault (List (Except ServiceError TokenView))
  | [] => .ok []
  | record :: rest =>
    match r.view record now with
    | .ok v => (.ok v :: ·) <$> verifyEach r now rest
    | .error (.service e) =>
      if e.kind.isUnauthorized then (.error e :: ·) <$> verifyEach r now rest
      else .error (.service e)
    | .error f => .error f

/-- The views among the results. -/
def liveOnly (verified : List (Except ServiceError TokenView)) : List TokenView :=
  verified.filterMap Except.toOption

/-- The live tokens of a user, oldest first. -/
def list (r : TokenRegistry) (s : KeyValue) (owner : Json) (now : DateTime) :
    Except Fault (List TokenView) := do
  let records ← Settings.getTokens s owner
  let verified ← r.verifyEach now records
  .ok ((liveOnly verified).mergeSort fun a b => a.issuedAt.instant ≤ b.issuedAt.instant)

/-- The expiry without its fraction of a second, which must lie ahead. -/
def checkedExpiry (owner : Json) (expiresAt : Option DateTime) (now : DateTime) :
    Except Fault (Option DateTime) :=
  match expiresAt with
  | none => .ok none
  | some e =>
    match e.truncateToSeconds with
    | .error .outOfRange =>
      .error (.raise .processing "Access token expiry is out of range" (some [("user_id", owner)]))
    | .error f => .error f
    | .ok e => do
      if ← e.notAfter now then
        .error (.raise .processing "Access token expiry must be in the future"
          (some [("user_id", owner)]))
      else .ok (some e)

/-- A record with a description that must be a text. -/
def record (token : String) (description : Json) : Except Fault TokenRecord :=
  (TokenRecord.read (.object [("token", .text token), ("description", description)])).toExcept

/-- A new token with its record, which must verify before it is kept. -/
def prepare (r : TokenRegistry) (username owner description : Json) (expiresAt : Option DateTime)
    (now : DateTime) : Except Fault (TokenRecord × TokenView) := do
  let e ← checkedExpiry owner expiresAt now
  let token ← r.issuer.personalAccess username owner e now
  let record ← record token description
  let view ← r.view record now
  .ok (record, view)

/-- Issues a token and keeps its record behind those that the user has. -/
def create (r : TokenRegistry) (s : KeyValue) (username owner description : Json)
    (expiresAt : Option DateTime) (now : DateTime) : Except Fault TokenView × KeyValue :=
  match r.prepare username owner description expiresAt now with
  | .error f => (.error f, s)
  | .ok (record, view) =>
    let u := r.settings.updateTokens s owner fun records => .ok (records ++ [record])
    (u.outcome.map fun _ => view, u.store)

/-- Drops every record of a token. There may be none. -/
def revoke (r : TokenRegistry) (s : KeyValue) (owner : Json) (token : AnyText) :
    Except Fault Unit × KeyValue :=
  let u := r.settings.updateTokens s owner fun records =>
    .ok (records.filter (·.token ≠ token))
  (u.outcome.map fun _ => (), u.store)

/-- The records whose tokens verify. -/
def live (r : TokenRegistry) (now : DateTime) (records : List TokenRecord) :
    Except Fault (List TokenRecord) := do
  let verified ← r.verifyEach now records
  .ok ((records.zip verified).filterMap fun (record, result) =>
    match result with
    | .ok _ => some record
    | .error _ => none)

/-- Drops the records whose tokens do not verify, and tells how many these were. -/
def prune (r : TokenRegistry) (s : KeyValue) (owner : Json) (now : DateTime) :
    Except Fault Nat × KeyValue :=
  let u := r.settings.updateTokens s owner (r.live now)
  (u.outcome.map fun kept => (u.seen.getLast?.elim 0 List.length) - kept.length, u.store)

/-- The user keeps a record of the token. -/
def contains (s : KeyValue) (owner : Json) (token : AnyText) : Except Fault Bool := do
  let records ← Settings.getTokens s owner
  .ok (records.any (·.token == token))

end TokenRegistry

end Gatehouse
