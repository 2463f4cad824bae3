import Gatehouse.Account.Profile
import Gatehouse.Account.User
import Gatehouse.Auth.Authenticate
import Gatehouse.Auth.SignIn
import Gatehouse.Http.Body
import Gatehouse.Http.Receipt
import Gatehouse.Http.Route
import Gatehouse.Session.Configured
import Gatehouse.Store.Connection

/-!
The actions of the service. Each gives a status and a JSON value, or a fault, together with the
cookies that it sets; an action that changes access tokens also gives the store after it.
-/
namespace Gatehouse.Http

structure Service where
  config : Config
  /-- Seconds since the epoch on the clock of the machine. -/
  machineTime : Int
  directory : Directory
  store : KeyValue
  /-- The store has been connected. -/
  connected : Bool
  passwords : Password.Scheme
  framework : Framework

/-- A status and the value of a response. -/
structure Reply where
  status : Nat
  value : Json

namespace Service
variable [Platform]

def issuer (s : Service) : Except Fault Issuer := do
  let signer ← Signer.ofConfig s.config.token s.machineTime
  Issuer.ofConfig signer s.config.token

def manager (s : Service) : Except Fault SessionManager := do
  let issuer ← s.issuer
  SessionManager.ofConfig issuer s.config.token s.config.cookies

/-- The registry, which needs the store. -/
def registry (s : Service) : Except Fault TokenRegistry := do
  Connection.require s.connected
  let settings ← Settings.build s.config.retry.maxRetries
  let issuer ← s.issuer
  .ok ⟨issuer, settings⟩

def credentials (r : Request) : Credentials :=
  ⟨r.header? "authorization", r.headerValues "cookie"⟩

/-- The user who sends a request; the registry must be there even for a session. -/
def caller (s : Service) (r : Request) (now : DateTime) : Written User := do
  let m ← s.manager
  let registry ← s.registry
  authenticate m registry s.directory s.store (credentials r) now

/-- The user whose tokens a request is about. -/
def owner (s : Service) (r : Request) (now : DateTime) (username : String) : Written User := do
  let u ← s.caller r now
  tokenOwner u s.directory username

def signIn (s : Service) (body : Option Json) (now : DateTime) : Written Reply := do
  let m ← s.manager
  let form ← requireBody body SignInForm.read
  let profile ← Gatehouse.signIn s.passwords m s.directory form now
  return ⟨200, profile.toJson⟩

def signOut (s : Service) (now : DateTime) : Written Reply := do
  let m ← s.manager
  m.terminate now
  return ⟨200, (Confirmation.mk true).toJson⟩

def showProfile (s : Service) (r : Request) (now : DateTime) : Written Reply := do
  let u ← s.caller r now
  let profile ← Profile.ofUser u
  return ⟨200, profile.toJson⟩

def listTokens (s : Service) (r : Request) (now : DateTime) (username : String) :
    Written Reply := do
  let o ← s.owner r now username
  let registry ← s.registry
  let views ← registry.list s.store (.int o.id) now
  return ⟨200, TokenView.listJson views⟩

/-- Carries out a change of the store that a request was found to ask for. -/
def changing {α β : Type} (s : Service) (asked : Written α)
    (change : α → Except Fault β × KeyValue) (reply : β → Reply) : Written Reply × KeyValue :=
  match asked.outcome with
  | .error f => (⟨.error f, asked.headers⟩, s.store)
  | .ok a => (⟨(change a).1.map reply, asked.headers⟩, (change a).2)

def createToken (s : Service) (r : Request) (body : Option Json) (now : DateTime)
    (username : String) : Written Reply × KeyValue :=
  s.changing (do
      let o ← s.owner r now username
      let registry ← s.registry
      let request ← requireBody body TokenRequest.read
      return (o, registry, request))
    (fun (o, registry, request) => registry.create s.store (.text o.username) (.int o.id)
      (.text request.description) request.expiresAt now)
    fun view => ⟨201, view.toJson⟩

def pruneTokens (s : Service) (r : Request) (now : DateTime) (username : String) :
    Written Reply × KeyValue :=
  s.changing (do
      let o ← s.owner r now username
      let registry ← s.registry
      return (o, registry))
    (fun (o, registry) => registry.prune s.store (.int o.id) now)
    fun removed => ⟨200, (Removal.mk removed).toJson⟩

def deleteToken (s : Service) (r : Request) (now : DateTime) (username token : String) :
    Written Reply × KeyValue :=
  s.changing (do
      let o ← s.owner r now username
      let registry ← s.registry
      return (o, registry))
    (fun (o, registry) => registry.revoke s.store (.int o.id) token)
    fun _ => ⟨200, (Confirmation.mk true).toJson⟩

def checkHealth (s : Service) : Reply :=
  ⟨200, .object [("status", .text "ok"), ("service", .text s.config.service.projectName)]⟩

def takesBody : Action → Bool
  | .signIn | .createToken _ => true
  | _ => false

/-- Carries out an action whose body has been read. -/
def perform (s : Service) (r : Request) (body : Option Json) (now : DateTime) :
    Action → Written Reply × KeyValue
  | .signIn => (s.signIn body now, s.store)
  | .signOut => (s.signOut now, s.store)
  | .showProfile => (s.showProfile r now, s.store)
  | .listTokens u => (s.listTokens r now u, s.store)
  | .createToken u => s.createToken r body now u
  | .pruneTokens u => s.pruneTokens r now u
  | .deleteToken u t => s.deleteToken r now u t
  | .checkHealth => (pure s.checkHealth, s.store)

/-- Carries out an action: its body is read before anything else. -/
def run (s : Service) (r : Request) (now : DateTime) (a : Action) : Written Reply × KeyValue :=
  if takesBody a then
    match readBody s.framework r with
    | .error f => (.ofExcept (.error f), s.store)
    | .ok body => s.perform r body now a
  else s.perform r none now a

end Service

end Gatehouse.Http
