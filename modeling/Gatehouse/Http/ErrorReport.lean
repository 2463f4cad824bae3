import Gatehouse.Http.Framework
import Gatehouse.Json.Display
import Gatehouse.Session.Manager
import Gatehouse.Text.Case

/-!
How faults are answered, logged and reported. Clients learn the label and the message of a
failure, the log its details as well, with the values under names of credentials masked. A
failed authentication also clears the session cookies, so that the browser stops sending them.
Where a log line tells the path of a request, the fault of an address without a path takes the place
of the answer.
-/
namespace Gatehouse.Http
open Text

def noDetails : String := "No additional details available"

/-- The message, or the words that stand for an absent or empty one. -/
def messageOr (message : Option String) : String :=
  match message with
  | none => noDetails
  | some m => if m = "" then noDetails else m

def longestMessage : Nat := 500

/-- A message on one line, cut to its length. -/
def messageText (message : Option String) : List Char :=
  let cs := joinWith [' '] (words isBlank (messageOr message).toList)
  if longestMessage < cs.length then cs.take (longestMessage - 3) ++ "...".toList else cs

/-- A label with its first character in upper case. -/
def labelText (label : String) : List Char :=
  match trim isBlank label.toList with
  | [] => "Error".toList
  | c :: r => upperChar c ++ r

/-- Names whose values are never logged. -/
def concealedNames : List String :=
  ["authorization", "cookie", "token", "access_token", "password", "secret"]

def detailText (name : AnyText) (value : Json) : List Char :=
  let cs := (Json.text name).plain
  let concealed := concealedNames.contains (String.ofList (lower cs))
  cs ++ '=' :: (if concealed then "***".toList else value.shown)

/-- Details in the order of their names. -/
def detailsText (info : Members) : List Char :=
  let sorted := info.mergeSort fun a b => !b.1.codes.lex a.1.codes fun m n => m < n
  joinWith [',', ' '] (sorted.map fun (name, value) => detailText name value)

/-- The request identifier that a client sent, in brackets. -/
def identifierText (r : Request) : List Char :=
  match r.header? "x-request-id" with
  | none => []
  | some id => if id = "" then [] else '[' :: (id.toList ++ [']', ' '])

/-- What is logged about a failure, with the path of the request if one is given. -/
def errorMessage (r : Request) (label : String) (message : Option String)
    (info : Option Members) (path : Option String) : String :=
  let place := path.elim [] fun p => r.method.toList ++ ' ' :: (p.toList ++ " | ".toList)
  let details := match info.getD [] with
    | [] => []
    | ms => " | Additional info: ".toList ++ detailsText ms
  String.ofList (identifierText r ++ '[' :: (labelText label ++ ']' :: ' ' :: (place ++
    messageText message ++ details)))

/-- How failures of a kind are answered. -/
structure Rendering where
  status : Nat
  label : String
  level : Log.Level
  reports : Bool := false

/-- The rendering of the nearest kind that has one of its own. -/
def rendering (k : ServiceErrorKind) : Rendering :=
  if k.isInfrastructure then ⟨500, "Infrastructure error", .error, true⟩
  else if k.isUnauthorized then ⟨401, "Unauthorized", .warning, false⟩
  else match k with
    | .notFound => ⟨404, "Instance not found", .info, false⟩
    | .processing => ⟨400, "Instance processing error", .info, false⟩
    | .permissionDenied => ⟨403, "Permission Denied", .warning, false⟩
    | _ => ⟨400, "Bad request", .info, false⟩

/-- The details of a failure; a failed authentication tells its kind unless they give a reason. -/
def details (e : ServiceError) : Option Members :=
  if e.kind.isUnauthorized then
    some (Table.ofPairs (("reason", .text e.kind.reportName) :: e.info.getD []))
  else e.info

/-- What a client learns about a failure. -/
def errorBody (label : String) (message : Option String) : Json :=
  .object [("error", .text label), ("message", .text (messageOr message))]

/-- The answer to a failure of the service. -/
def answerError (cookies : CookieConfig) (now : DateTime) (r : Request) (e : ServiceError) :
    Outcome :=
  let form := rendering e.kind
  let line := Log.Line.of form.level (errorMessage r form.label e.message (details e) none)
  let cleared := if e.kind.isUnauthorized then clearSession cookies now else pure ()
  let body := errorBody form.label e.message
  ⟨cleared.outcome.map fun _ => .ofJson form.status body cleared.headers, [line],
    if form.reports then [e.kind.reportName] else []⟩

/-- The place and the problem of a faulty field as data. -/
def fieldErrorJson (e : FieldError) : Json :=
  let step : PathStep → Json := fun
    | .name s => .text s
    | .index i => .int i
  .object [("type", .text e.problem.code), ("loc", .array (e.path.map step)), ("input", e.input)]

/-- A value that a response can hold: it has no number that is not finite and no unpaired
surrogate. -/
def checkWritable (v : Json) : Except Fault Json :=
  if v.hasNonFinite then .error .badValue
  else if v.hasUnpaired then .error .unencodable
  else .ok v

/-- The answer to data of a client that do not fit; it gives the faulty values back, among which
bytes must be a text. A log line of no interest tells the path. -/
def answerBadRequest (f : Framework) (r : Request) (errors : List FieldError) : Outcome :=
  let body := Json.object [("detail", .array (errors.map fieldErrorJson))]
  .ofExcept do
    if !body.storable then .error .undecodable
    else do
      let _ ← f.addressPath r
      let v ← checkWritable body
      .ok (.ofJson 422 v)

def unexpectedDetail : String := "Unexpected error"

/-- The answer to data of the service itself that do not fit. -/
def answerInvalid (f : Framework) (r : Request) (errors : List FieldError) : Outcome :=
  let message := String.ofList (Json.array (errors.map fieldErrorJson)).shown
  match f.addressPath r with
  | .error fault => .ofExcept (.error fault)
  | .ok path =>
    ⟨.ok (.ofDetail 500 unexpectedDetail),
      [.of .error (errorMessage r "Backend validation error" (some message) none (some path))],
      [(Fault.invalid errors).reportName]⟩

/-- The answer to a fault; there is none to a fault that nobody anticipated. -/
def answerFault (f : Framework) (cookies : CookieConfig) (now : DateTime) (r : Request)
    (fault : Fault) : Outcome :=
  match fault with
  | .service e => answerError cookies now r e
  | .badRequest errors => answerBadRequest f r errors
  | .invalid errors => answerInvalid f r errors
  | .unreadableBody => .ofResponse (.ofDetail 400 "There was an error parsing the body")
  | fault => .ofExcept (.error fault)

end Gatehouse.Http
