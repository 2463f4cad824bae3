import Gatehouse.Fault

/-!
The connection to the settings store over the life of the service. The service does not start
unless the store answers, and closes the connection when it ends.
-/
namespace Gatehouse.Connection

inductive Event where
  | opened (address : String)
  | pinged
  | closed
  deriving DecidableEq, Repr

/-- Opens a connection, given how the store answers a ping; without an answer it is closed. -/
def start (address : String) (answer : Except StoreFault Unit) :
    Except StoreFault Unit × List Event :=
  match answer with
  | .ok () => (.ok (), [.opened address, .pinged])
  | .error f => (.error f, [.opened address, .pinged, .closed])

/-- Closes the connection, if there is one. -/
def stop (connected : Bool) : List Event := if connected then [.closed] else []

/-- How a request fails that needs the store while it is not connected. -/
def notConnected : Fault := .raise .storeFailure "User settings store is not connected"

def require (connected : Bool) : Except Fault Unit :=
  if connected then .ok () else .error notConnected

end Gatehouse.Connection
