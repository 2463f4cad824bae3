import Gatehouse.Http.Cors
import Gatehouse.Http.ErrorReport
import Gatehouse.Http.Service
import Gatehouse.Number.Precision

/-!
A request from its arrival to its response. Around the routes lie five layers, from the inside:
security headers, the log of times, the answer to faults that nobody anticipated, the headers for
other origins, and the framework's own answer to faults. A fault passes the two inner layers by. The
path in the address of a request is read in the inner layers, behind the route: where the address
has none, that is a fault too, and what the route has done is done.
-/
namespace Gatehouse.Http
open Number

/-- The name under which a request is logged: its route, so that tokens in the path stay out of
the log, or else the path in its address. -/
def loggedPath (f : Framework) (r : Request) : Resolution → Except Fault String
  | .found route _ => .ok route.template
  | .otherMethod route => .ok route.template
  | _ => f.addressPath r

/-- The address that a request for another path is sent to. -/
def redirectAddress (r : Request) (path : String) : Except Fault String := do
  let cs ← Address.text r path
  .ok (String.ofList (Text.Percent.encode ":/%#?=@[]!$&'()*+,;".toList ("http://".toList ++ cs)))

def redirect (address : String) : Response := ⟨307, [("location", address)], [], .empty⟩

/-- The response to a request that was carried out, unless its value cannot be written. -/
def answerReply (reply : Reply) (cookies : List String) : Except Fault Response :=
  (fun v => .ofJson reply.status v cookies) <$> checkWritable reply.value

def notAllowed (methods : String) : Response :=
  (Response.ofDetail 405 "Method Not Allowed").add "allow" methods

/-- Answers a request by its route. -/
def answerRoute [Platform] (s : Service) (r : Request) (now : DateTime) :
    Resolution → Outcome × KeyValue
  | .found _ action =>
    let (w, store) := s.run r now action
    match w.outcome with
    | .ok reply => (.ofExcept (answerReply reply w.headers), store)
    | .error fault => (answerFault s.framework s.config.cookies now r fault, store)
  | .otherMethod route => (.ofResponse (notAllowed route.method), s.store)
  | .page p =>
    (.ofResponse ⟨200, [("content-type", p.contentType)], [], s.framework.pageContent p⟩, s.store)
  | .unreadPage => (.ofResponse (notAllowed s.framework.pageMethods), s.store)
  | .elsewhere path => (.ofExcept (redirect <$> redirectAddress r path), s.store)
  | .nowhere => (.ofResponse (.ofDetail 404 "Not Found"), s.store)

/-- Paths under which no response may be stored. -/
def privatePrefixes : List String := ["/v1/auth", "/v1/users"]

/-- The response may not be framed, and one with private data may not be stored. -/
def secured (path : String) (response : Response) : Response :=
  let response := (response.setDefault "x-frame-options" "DENY").setDefault
    "content-security-policy" "frame-ancestors 'none'"
  if privatePrefixes.any fun p => p.toList.isPrefixOf path.toList then
    response.setDefault "cache-control" "no-store"
  else response

def withSecurityHeaders (f : Framework) (r : Request) (o : Outcome) : Outcome :=
  { o with response := do
      let response ← o.response
      let path ← f.addressPath r
      .ok (secured path response) }

/-- The word for a duration in seconds, and how loudly it is logged. -/
def speed (elapsed : Binary64) : Log.Level × String :=
  if elapsed.lt (.ofRatio false 1 2) then (.info, "[FAST]")
  else if elapsed.lt (.ofInt 2) then (.warning, "[MODERATE]")
  else (.warning, "[SLOW]")

/-- Logs how long a response took. -/
def withTiming (r : Request) (place : Except Fault String) (elapsed : Binary64) (o : Outcome) :
    Outcome :=
  match o.response, place with
  | .error _, _ => o
  | .ok _, .error f => { o with response := .error f }
  | .ok response, .ok path =>
    let (level, word) := speed elapsed
    let took := String.ofList (elapsed.fixed 3)
    let text := s!"{word} {r.method} {path} |{took}s|{response.status}"
    { o with lines := o.lines ++ [.of level text] }

def databaseDetail : String := "Database connection error. Please try again later."

/-- Answers the faults that nobody anticipated, logs and reports them. -/
def guarded (place : Except Fault String) (o : Outcome) : Outcome :=
  match o.response, place with
  | .ok _, _ => o
  | .error _, .error g => { o with response := .error g }
  | .error f, .ok path =>
    let (text, detail) := match f with
      | .databaseConnection cause =>
        (s!"Database connection error at {path}: {cause}", databaseDetail)
      | _ => (s!"Unexpected error at {path}", unexpectedDetail)
    ⟨.ok (.ofDetail 500 detail), o.lines ++ [.of .error text], o.reported ++ [f.reportName]⟩

/-- How the framework answers a fault that no layer of the service has answered. -/
def faultResponse (s : Service) (r : Request) (f : Fault) : Response :=
  let (type, content) := if s.config.service.debug then s.framework.faultPage r f
    else ("text/plain; charset=utf-8", .text "Internal Server Error")
  ⟨500, [("content-type", type)], [], content⟩

def answered (s : Service) (r : Request) (o : Outcome) : Outcome :=
  match o.response with
  | .ok _ => o
  | .error f => { o with response := .ok (faultResponse s r f) }

/-- Answers a request that took some seconds; the second part is the store after it. -/
def exchange [Platform] (s : Service) (r : Request) (now : DateTime) (elapsed : Binary64) :
    Outcome × KeyValue :=
  let resolution := resolve r.method r.path
  let place := loggedPath s.framework r resolution
  let (o, store) := answerRoute s r now resolution
  let o := guarded place (withTiming r place elapsed (withSecurityHeaders s.framework r o))
  (answered s r ((OriginPolicy.ofConfig s.config.service).apply r o), store)

end Gatehouse.Http
