import Gatehouse.Fault
import Gatehouse.Log.Record

/-!
Responses, and what is logged and reported on the way to them.
-/
namespace Gatehouse.Http

inductive Content where
  | json (value : Json)
  | text (value : String)
  | empty
  deriving Repr

/-- A response; its headers have names in lower case and are held apart from its cookies. -/
structure Response where
  status : Nat
  headers : List (String × String)
  /-- The `Set-Cookie` headers in order. -/
  cookies : List String
  content : Content
  deriving Repr

namespace Response

def ofJson (status : Nat) (value : Json) (cookies : List String := []) : Response :=
  ⟨status, [("content-type", "application/json")], cookies, .json value⟩

/-- A response that only tells a detail. -/
def ofDetail (status : Nat) (detail : String) : Response :=
  ofJson status (.object [("detail", .text detail)])

/-- Sets a header unless the response has it. -/
def setDefault (r : Response) (name value : String) : Response :=
  if r.headers.any (·.1 == name) then r else { r with headers := r.headers ++ [(name, value)] }

def add (r : Response) (name value : String) : Response :=
  { r with headers := r.headers ++ [(name, value)] }

end Response

/-- How a request went: its response, or the fault that nobody anticipated, with the log lines
and the names of the faults that were reported, both in order. -/
structure Outcome where
  response : Except Fault Response
  lines : List Log.Line
  reported : List String

namespace Outcome

/-- A response, or a fault, without any log line or report. -/
def ofExcept (r : Except Fault Response) : Outcome := ⟨r, [], []⟩

def ofResponse (r : Response) : Outcome := ofExcept (.ok r)

def map (o : Outcome) (f : Response → Response) : Outcome := { o with response := o.response.map f }

end Outcome

end Gatehouse.Http
