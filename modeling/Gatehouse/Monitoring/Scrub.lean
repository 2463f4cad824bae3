import Gatehouse.Fault
import Gatehouse.Json.Display
import Gatehouse.Log.Redaction
import Gatehouse.Text.Case

/-!
Events for error monitoring before they leave the process. The values of cookies and of headers
that carry credentials are masked, and credentials in the messages of breadcrumbs are redacted.
A part of an event that does not have the expected form is a fault.
-/
namespace Gatehouse.Monitoring
open Text

def mask : Json := .text "***"

/-- A member that counts only if it is there and not empty. -/
def present? (ms : Members) (name : String) : Option Json := (ms.get? name).filter (·.truthy)

/-- The members of a part that must be an object; an absent part has none. -/
def part (ms : Members) (name : String) : Except Fault Members :=
  match present? ms name with
  | none => .ok []
  | some (.object inner) => .ok inner
  | some _ => .error .unsupported

/-- The name that a value has as the name of a member. -/
def memberName (v : Json) : Except Fault AnyText :=
  match v with
  | .text t => .ok t
  | .array _ | .object _ => .error .wrongType
  | v => .ok (String.ofList v.print)

/-- The values that a value holds, by itself or as names. -/
def contents (v : Json) : Except Fault (List Json) :=
  match v with
  | .array items => .ok items
  | .object ms => .ok (ms.map fun p => .text p.1)
  | .text t => .ok (t.characters.map .text)
  | _ => .error .wrongType

/-- Cookies with all values masked. -/
def scrubCookies (v : Json) : Except Fault Json := do
  let items ← contents v
  let names ← items.mapM memberName
  .ok (.object (Table.ofPairs (names.map fun n => (n, mask))))

/-- Headers whose values are credentials. -/
def isCredentialName (name : AnyText) : Bool :=
  name.string?.any fun s =>
    let n := lower s.toList
    n == "authorization".toList || n == "cookie".toList

/-- Names without values must be texts, and none of them that of a header with credentials. -/
def checkNames (names : List Json) : Except Fault Unit :=
  names.forM fun
    | .text t => if isCredentialName t then .error .wrongType else .ok ()
    | _ => .error .unsupported

/-- Headers with credentials masked. -/
def scrubHeaders (v : Json) : Except Fault Json :=
  match v with
  | .object ms =>
    .ok (.object (ms.map fun (n, value) => (n, if isCredentialName n then mask else value)))
  | v => do
    let names ← contents v
    checkNames names
    .ok v

/-- A breadcrumb with its message redacted. -/
def scrubBreadcrumb (v : Json) : Except Fault Json :=
  match v with
  | .object ms =>
    match Table.get? ms "message" with
    | some (.text t) => .ok (.object (Table.set ms "message" (.text (Log.redactText t))))
    | _ => .ok v
  | _ => .error .unsupported

def scrubBreadcrumbs (v : Json) : Except Fault Json :=
  match v with
  | .array items => .array <$> items.mapM scrubBreadcrumb
  | v => do
    let items ← contents v
    if items.isEmpty then .ok v else .error .unsupported

/-- Replaces a member by what is made of it, if it counts. -/
def scrubMember (ms : Members) (name : String) (scrub : Json → Except Fault Json) :
    Except Fault Members :=
  match present? ms name with
  | none => .ok ms
  | some v => ms.set name <$> scrub v

/-- Replaces the members of a part, if the part counts. -/
def scrubPart (ms : Members) (name : String) (scrub : Members → Except Fault Members) :
    Except Fault Members := do
  let inner ← part ms name
  let scrubbed ← scrub inner
  .ok (if inner.isEmpty then ms else ms.set name (.object scrubbed))

/-- The breadcrumbs of an event, whether or not there are any in the list. -/
def scrubTrail (ms : Members) : Except Fault Members :=
  match ms.get? "values" with
  | none => .ok ms
  | some v => ms.set "values" <$> scrubBreadcrumbs v

/-- An event without credentials in the places where they are expected. -/
def scrubEvent (event : Json) : Except Fault Json :=
  match event with
  | .object ms => do
    let ms ← scrubPart ms "request" fun request => do
      let request ← scrubMember request "cookies" scrubCookies
      scrubMember request "headers" scrubHeaders
    let ms ← scrubPart ms "breadcrumbs" scrubTrail
    .ok (.object ms)
  | _ => .error .unsupported

end Gatehouse.Monitoring
