import Gatehouse.Config.Sections
import Gatehouse.Http.Request
import Gatehouse.Http.Response
import Gatehouse.Text.CharacterSet

/-!
Requests from other origins. A browser that asks whether it may send a request is answered
without the service being asked; other responses tell the browser whether the page that sent the
request may read them.
-/
namespace Gatehouse.Http
open Text

/-- The methods that a star stands for. -/
def allMethods : List String :=
  ["DELETE", "GET", "HEAD", "OPTIONS", "PATCH", "POST", "PUT", "QUERY"]

/-- Headers that are always allowed. -/
def safeHeaders : List String := ["Accept", "Accept-Language", "Content-Language", "Content-Type"]

structure OriginPolicy where
  origins : List String
  methods : List String
  headers : List String
  exposed : List String
  credentials : Bool

namespace OriginPolicy

def ofConfig (c : ServiceConfig) : OriginPolicy :=
  ⟨c.allowedOrigins, if c.allowedMethods.contains "*" then allMethods else c.allowedMethods,
    c.allowedHeaders, c.exposedHeaders, c.allowCredentials⟩

def anyOrigin (p : OriginPolicy) : Bool := p.origins.contains "*"

def anyHeader (p : OriginPolicy) : Bool := p.headers.contains "*"

/-- Responses name the origin, not a star: with credentials a star would not do. -/
def namesOrigin (p : OriginPolicy) : Bool := !p.anyOrigin || p.credentials

def allowsOrigin (p : OriginPolicy) (origin : String) : Bool :=
  p.anyOrigin || p.origins.contains origin

/-- The header that tells which origin may read a response. -/
def originHeader (p : OriginPolicy) (origin : String) : List (String × String) :=
  let name := "access-control-allow-origin"
  if !p.namesOrigin then [(name, "*")]
  else if p.allowsOrigin origin then [(name, origin)]
  else []

def credentialsHeader (p : OriginPolicy) : List (String × String) :=
  if p.credentials then [("access-control-allow-credentials", "true")] else []

def joined (ss : List String) : String := String.intercalate ", " ss

/-- The headers that a page may send besides the ones that are always allowed. -/
def allowedHeaders (p : OriginPolicy) : List String :=
  ((safeHeaders ++ p.headers).eraseDups).mergeSort (· ≤ ·)

/-- The headers that a browser asks for are all allowed. -/
def allowsHeaders (p : OriginPolicy) (requested : String) : Bool :=
  let known := p.allowedHeaders.map String.toLower
  (splitOn ',' requested.toList).all fun h =>
    known.contains (String.ofList (trim isBlank h)).toLower

/-- The header that tells which headers a page may send. -/
def headersHeader (p : OriginPolicy) (requested : Option String) : List (String × String) :=
  let name := "access-control-allow-headers"
  if p.anyHeader then requested.toList.map fun h => (name, h)
  else [(name, joined p.allowedHeaders)]

/-- The names of headers that the answer to a browser's question depends on. -/
def questionVary : String :=
  joined ["Origin", "Access-Control-Request-Method", "Access-Control-Request-Headers",
    "Access-Control-Request-Private-Network"]

/-- What is not allowed about the request that a browser asks about. -/
def refused (p : OriginPolicy) (origin method : String) (headers : Option String)
    (privateNetwork : Bool) : List String :=
  (if p.allowsOrigin origin then [] else ["origin"]) ++
    (if p.methods.contains method then [] else ["method"]) ++
    (if p.anyHeader || headers.all p.allowsHeaders then [] else ["headers"]) ++
    (if privateNetwork then ["private-network"] else [])

/-- The answer to a browser that asks whether it may send a request. -/
def answerQuestion (p : OriginPolicy) (r : Request) (origin method : String) : Response :=
  let requested := r.header? "access-control-request-headers"
  let private_ := (r.header? "access-control-request-private-network").isSome
  let headers := ("vary", questionVary) :: ("content-type", "text/plain; charset=utf-8")
    :: ("access-control-allow-methods", joined p.methods) :: ("access-control-max-age", "600")
    :: (p.originHeader origin ++ p.credentialsHeader ++ p.headersHeader requested)
  match p.refused origin method requested private_ with
  | [] => ⟨200, headers, [], .text "OK"⟩
  | rs => ⟨400, headers, [], .text ("Disallowed CORS " ++ joined rs)⟩

/-- The headers for the page that sent a request. -/
def responseHeaders (p : OriginPolicy) (origin : Option String) : List (String × String) :=
  let vary := if p.namesOrigin then [("vary", "Origin")] else []
  match origin with
  | none => vary
  | some o => vary ++ p.originHeader o ++ p.credentialsHeader ++
      (if p.exposed.isEmpty then [] else [("access-control-expose-headers", joined p.exposed)])

/-- Answers a browser's question, and tells with every other response who may read it. -/
def apply (p : OriginPolicy) (r : Request) (inner : Outcome) : Outcome :=
  let origin := r.header? "origin"
  let through := inner.map fun response =>
    { response with headers := response.headers ++ p.responseHeaders origin }
  match origin, r.header? "access-control-request-method" with
  | some o, some m =>
    if r.method = "OPTIONS" then .ofResponse (p.answerQuestion r o m) else through
  | _, _ => through

end OriginPolicy

end Gatehouse.Http
