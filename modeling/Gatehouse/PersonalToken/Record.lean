import Gatehouse.Calendar.Iso
import Gatehouse.Schema.Object
import Gatehouse.Schema.Scalar
import Gatehouse.Schema.Time
import Gatehouse.Store.Settings

/-!
Personal access tokens as they are kept and as they are shown. Kept are the token and its
description; the times of issue and expiry stand in the token itself. The tokens of a user are
one list in the user's settings.
-/
namespace Gatehouse
open Schema

/-- A kept token. -/
structure TokenRecord where
  token : AnyText
  description : AnyText
  deriving DecidableEq, Repr

namespace TokenRecord

def read : Json → Checked TokenRecord :=
  openObject fun ms => TokenRecord.mk <$> required ms "token" text
    <*> optional ms "description" "" text

def toJson (r : TokenRecord) : Json :=
  .object [("token", .text r.token), ("description", .text r.description)]

def readSetting : Json → Checked (List TokenRecord) :=
  openObject fun ms => optional ms "access_tokens" [] (list read)

/-- The setting that holds records. -/
def setting (rs : List TokenRecord) : Json :=
  .object [("access_tokens", .array (rs.map toJson))]

end TokenRecord

/-- A token with its times, as it is shown to its owner. -/
structure TokenView where
  token : AnyText
  description : AnyText
  issuedAt : DateTime
  expiresAt : Option DateTime
  deriving DecidableEq, Repr

namespace TokenView

def fieldNames : List AnyText := ["access_token", "description", "issued_at", "expires_at"]

def read : Json → Checked TokenView :=
  closedObject fieldNames fun ms => TokenView.mk <$> required ms "access_token" text
    <*> required ms "description" text <*> required ms "issued_at" dateTime
    <*> optional ms "expires_at" none (nullable dateTime)

def timeJson (d : DateTime) : Json := .text d.exchangeText

def toJson (v : TokenView) : Json :=
  .object [("access_token", .text v.token), ("description", .text v.description),
    ("issued_at", timeJson v.issuedAt), ("expires_at", v.expiresAt.elim .null timeJson)]

def readList : Json → Checked (List TokenView) :=
  closedObject ["access_tokens"] fun ms => required ms "access_tokens" (list read)

def listJson (vs : List TokenView) : Json := .object [("access_tokens", .array (vs.map toJson))]

end TokenView

/-- What a user asks for in a new token. -/
structure TokenRequest where
  description : String
  expiresAt : Option DateTime
  deriving DecidableEq, Repr

namespace TokenRequest

def longestDescription : Nat := 256

def read : Json → Checked TokenRequest :=
  closedObject ["description", "expires_at"] fun ms =>
    TokenRequest.mk <$> optional ms "description" "" (boundedText 0 (some longestDescription))
      <*> optional ms "expires_at" none (nullable dateTime)

def toJson (r : TokenRequest) : Json :=
  .object [("description", .text r.description),
    ("expires_at", r.expiresAt.elim .null TokenView.timeJson)]

end TokenRequest

namespace Settings
variable [Platform]

/-- The setting that holds the tokens of a user. -/
def tokensName : String := "access_tokens"

def tokensOf (owner value : Json) : Except Fault (List TokenRecord) :=
  match value with
  | .null => .ok []
  | _ =>
    match TokenRecord.readSetting value with
    | .accepted rs => .ok rs
    | .rejected _ =>
      .error (.raise .storeFailure "Stored access tokens setting is invalid"
        (some [("user_id", owner)]))

def getTokens (s : KeyValue) (owner : Json) : Except Fault (List TokenRecord) := do
  let value ← get s owner tokensName
  tokensOf owner value

/-- A change of records as a change of the setting that holds them. -/
def changeSetting (owner : Json) (change : List TokenRecord → Except Fault (List TokenRecord))
    (value : Json) : Except Fault Json := do
  let records ← tokensOf owner value
  let updated ← change records
  .ok (TokenRecord.setting updated)

/-- Replaces the records of a user by what `change` makes of them. -/
def updateTokens (st : Settings) (s : KeyValue) (owner : Json)
    (change : List TokenRecord → Except Fault (List TokenRecord)) : Update (List TokenRecord) :=
  let u := st.update s owner tokensName (changeSetting owner change)
  ⟨u.outcome.bind (tokensOf owner), u.store, u.seen.filterMap fun v => (tokensOf owner v).toOption⟩

end Settings

end Gatehouse
