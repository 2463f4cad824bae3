import Gatehouse.Config.Sections

/-!
Starting error monitoring: once, and only where the service runs for real and is told where to
report to.
-/
namespace Gatehouse.Monitoring

/-- What the monitoring client is started with. -/
structure Options where
  address : String
  environment : String
  release : String
  /-- Events are scrubbed before they leave. -/
  scrubs : Bool
  /-- Data about persons are sent by default. -/
  sendsPersonalData : Bool
  deriving DecidableEq, Repr

/-- The options that a configuration asks for, if any. -/
def options? (service : ServiceConfig) (monitoring : MonitoringConfig) : Option Options :=
  if service.debug || service.testing || !monitoring.enabled then none
  else
    match monitoring.dsn with
    | none => none
    | some address =>
      if address = "" then none
      else some ⟨address, monitoring.environment, service.version, true, false⟩

/-- Starts the client unless it runs: the clients started so far, at most one. -/
def start (service : ServiceConfig) (monitoring : MonitoringConfig) (started : List Options) :
    List Options :=
  if started.isEmpty then (options? service monitoring).toList else started

/-- Starting again changes nothing. -/
theorem start_start (service : ServiceConfig) (monitoring : MonitoringConfig)
    (started : List Options) :
    start service monitoring (start service monitoring started) =
      start service monitoring started := by
  by_cases h : started.isEmpty
  · cases ho : options? service monitoring <;> simp [start, h, ho]
  · simp [start, h]

end Gatehouse.Monitoring
