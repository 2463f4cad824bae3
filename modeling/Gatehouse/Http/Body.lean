import Gatehouse.Http.Framework
import Gatehouse.Schema.Checked
import Gatehouse.Text.Case

/-!
Bodies of requests. A body is read as JSON if the content type says so, before anything else is
looked at; whether it fits its schema is checked when it is needed.
-/
namespace Gatehouse.Http
open Text

/-- A content type without its parameters. -/
def mediaType (contentType : String) : List Char :=
  let cs := ((cutFirst ';' contentType.toList).getD (contentType.toList, [])).1
  lower (trim isBlank cs)

def isJsonType (contentType : String) : Bool :=
  match splitOn '/' (mediaType contentType) with
  | [main, sub] => main == "application".toList &&
      (sub == "json".toList || "+json".toList.reverse.isPrefixOf sub.reverse)
  | _ => false

/-- The body is JSON by its content type. -/
def hasJson (f : Framework) (r : Request) : Bool :=
  match (r.header? "content-type").getD "" with
  | "" => f.untypedIsJson
  | type => isJsonType type

/-- The bytes of a body as a value: a text, if they are one in UTF-8. -/
def bytesValue (bs : List UInt8) : Json :=
  match Utf8.decode bs with
  | some cs => .text (String.ofList cs)
  | none => .foreign

/-- The value of a body that is not empty. A body of another content type is taken as it is. -/
def readBody [Platform] (f : Framework) (r : Request) : Except Fault (Option Json) :=
  if r.body.isEmpty then .ok none
  else if hasJson f r then
    match (decodeDetected r.body).elim (f.looseJson r.body) fun cs => some (Json.parse cs) with
    | some (.ok v) => .ok (some v)
    | some (.error (.malformed offset)) =>
      .error (.badRequest [⟨[.name "body", .index offset], .jsonInvalid, .object []⟩])
    | _ => .error .unreadableBody
  else .ok (some (bytesValue r.body))

/-- The data of a body, which must be there and not be null. -/
def requireBody {α : Type} (body : Option Json) (read : Json → Checked α) : Except Fault α :=
  let checked : Checked α := match body.getD .null with
    | .null => .fault .missing .null
    | v => read v
  match checked.under (.name "body") with
  | .accepted a => .ok a
  | .rejected errors => .error (.badRequest errors)

end Gatehouse.Http
