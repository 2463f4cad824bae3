import Gatehouse.Text.Split

/-!
The routes of the service, behind the pages of documentation that come with the framework. A request
goes to the first route with its path and method; a path that only has routes for other methods is
told so, and a path that becomes one of a route when slashes are taken from its end, or one is put
there, is redirected.
-/
namespace Gatehouse.Http
open Text

inductive Action where
  | signIn
  | signOut
  | showProfile
  | listTokens (username : String)
  | createToken (username : String)
  | pruneTokens (username : String)
  | deleteToken (username token : String)
  | checkHealth
  deriving DecidableEq, Repr

/-- A piece of a path between slashes. -/
inductive Segment where
  | fixed (text : String)
  | parameter (name : String)
  deriving DecidableEq, Repr

structure Route where
  method : String
  segments : List Segment
  /-- The action for the values of the parameters, in order. -/
  action : List String → Option Action

namespace Route

def Segment.text : Segment → String
  | .fixed s => s
  | .parameter name => "\x7b" ++ name ++ "\x7d"

/-- The path of the route with its parameters named. -/
def template (r : Route) : String :=
  String.ofList (joinWith ['/'] ([] :: r.segments.map fun s => (Segment.text s).toList))

/-- The last piece of a path may have a line break behind it. -/
def endsWith (text : String) (piece : List Char) : Bool :=
  piece == text.toList || piece == text.toList ++ ['\n']

/-- The values of the parameters in the pieces of a path; none of them is empty. -/
def values : List Segment → List (List Char) → Option (List String)
  | [], [] => some []
  | [.fixed s], [p] => if endsWith s p then some [] else none
  | .fixed s :: ss, p :: ps => if p = s.toList then values ss ps else none
  | .parameter _ :: ss, p :: ps =>
    if p.isEmpty then none else (values ss ps).map (String.ofList p :: ·)
  | _, _ => none

/-- The action that a path asks of the route. -/
def action? (r : Route) (path : String) : Option Action :=
  match splitOn '/' path.toList with
  | [] :: pieces => (values r.segments pieces).bind r.action
  | _ => none

end Route

def tokensPath : List Segment :=
  [.fixed "v1", .fixed "users", .parameter "username", .fixed "access-tokens"]

def constant (a : Action) (values : List String) : Option Action :=
  if values.isEmpty then some a else none

/-- All routes, in the order in which they are tried. -/
def routes : List Route := [
  ⟨"POST", [.fixed "v1", .fixed "auth", .fixed "signin"], constant .signIn⟩,
  ⟨"POST", [.fixed "v1", .fixed "auth", .fixed "signout"], constant .signOut⟩,
  ⟨"GET", [.fixed "v1", .fixed "auth", .fixed "me"], constant .showProfile⟩,
  ⟨"GET", tokensPath, fun | [u] => some (.listTokens u) | _ => none⟩,
  ⟨"POST", tokensPath, fun | [u] => some (.createToken u) | _ => none⟩,
  ⟨"POST", tokensPath ++ [.fixed "prune"], fun | [u] => some (.pruneTokens u) | _ => none⟩,
  ⟨"DELETE", tokensPath ++ [.parameter "access_token"],
    fun | [u, t] => some (.deleteToken u t) | _ => none⟩,
  ⟨"HEAD", [.fixed "health", .fixed ""], constant .checkHealth⟩,
  ⟨"GET", [.fixed "health", .fixed ""], constant .checkHealth⟩]

/-- A page of documentation. -/
inductive Page where
  | schema
  | docs
  | docsRedirect
  | reference
  deriving DecidableEq, Repr

namespace Page

def path : Page → String
  | schema => "/openapi.json"
  | docs => "/docs"
  | docsRedirect => "/docs/oauth2-redirect"
  | reference => "/redoc"

def all : List Page := [schema, docs, docsRedirect, reference]

def contentType : Page → String
  | schema => "application/json"
  | _ => "text/html; charset=utf-8"

/-- The page under a path. -/
def ofPath? (path : String) : Option Page :=
  all.find? fun p => Route.endsWith p.path path.toList

end Page

inductive Resolution where
  | found (route : Route) (action : Action)
  /-- The first route with the path has another method. -/
  | otherMethod (route : Route)
  | page (page : Page)
  /-- A page is asked for by a method that does not read it. -/
  | unreadPage
  | elsewhere (path : String)
  | nowhere

def hasRoute (path : String) : Bool :=
  (Page.ofPath? path).isSome || routes.any fun r => (r.action? path).isSome

/-- The path without slashes at its end, or with one if there is none. -/
def slashToggled (path : String) : String :=
  let cs := path.toList
  if cs.getLast? = some '/' then String.ofList (trimEnd (· == '/') cs) else path ++ "/"

/-- Where a request with a method and a path of no page goes. -/
def resolveRoute (method path : String) : Resolution :=
  let here := routes.filterMap fun r => (r.action? path).map fun a => (r, a)
  match here.find? (·.1.method == method), here with
  | some (r, a), _ => .found r a
  | none, (r, _) :: _ => .otherMethod r
  | none, [] =>
    if path ≠ "/" ∧ hasRoute (slashToggled path) then .elsewhere (slashToggled path) else .nowhere

/-- Where a request with a method and a path goes. -/
def resolve (method path : String) : Resolution :=
  match Page.ofPath? path with
  | some p => if method = "GET" ∨ method = "HEAD" then .page p else .unreadPage
  | none => resolveRoute method path

end Gatehouse.Http
