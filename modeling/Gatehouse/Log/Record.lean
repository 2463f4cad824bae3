import Gatehouse.Log.Redaction
import Gatehouse.Log.Template
import Gatehouse.Table

/-!
Log records and the loggers that write them. A record is a template with arguments; before any
handler sees it, `Record.redact` masks the credentials in its rendered text.
-/
namespace Gatehouse.Log

inductive Level where
  | info
  | warning
  | error
  deriving DecidableEq, Repr

def Level.name : Level → String
  | info => "INFO"
  | warning => "WARNING"
  | error => "ERROR"

/-- A line as the handlers of a logger see it. -/
structure Line where
  level : Level
  text : String
  deriving DecidableEq, Repr

/-- The line of a message, with credentials masked. -/
def Line.of (level : Level) (message : String) : Line := ⟨level, Log.redact message⟩

structure Record where
  message : String
  arguments : Arguments

namespace Record

def render (r : Record) : Except Fault String := fill r.message r.arguments

/-- Masks the credentials in the rendered text; a record without any stays as it is. -/
def redact (r : Record) : Except Fault Record := do
  let text ← r.render
  let masked := Log.redact text
  if masked = text then .ok r else .ok ⟨masked, .none⟩

theorem render_of_no_arguments (message : String) :
    render ⟨message, .none⟩ = .ok message := rfl

theorem render_redact {r s : Record} {text : String} (h : r.render = .ok text)
    (hs : r.redact = .ok s) : s.render = .ok (Log.redact text) := by
  have e : r.redact = if Log.redact text = text then .ok r else .ok ⟨Log.redact text, .none⟩ := by
    simp only [redact, h]
    rfl
  rw [e] at hs
  split at hs
  · next ht =>
    obtain rfl := Except.ok.inj hs
    rw [h, ht]
  · obtain rfl := Except.ok.inj hs
    exact render_of_no_arguments _

end Record

inductive Destination where
  | file
  | stream
  deriving DecidableEq, Repr

structure Handler where
  destination : Destination
  level : Level
  format : String
  deriving DecidableEq, Repr

/-- A logger: it masks credentials and hands its records to no other logger. -/
structure Logger where
  level : Level
  handlers : List Handler
  deriving DecidableEq, Repr

namespace Logger

def fullFormat : String := "%(asctime)s [%(levelname)s]|[%(process)d]| %(name)s: %(message)s"

def plainFormat : String := "%(asctime)s [%(process)d]| %(message)s"

/-- A plain logger writes to the stream alone, and without its name. -/
def ofForm (plain : Bool) (level fileLevel : Level) : Logger :=
  if plain then ⟨level, [⟨.stream, level, plainFormat⟩]⟩
  else ⟨level, [⟨.file, fileLevel, fullFormat⟩, ⟨.stream, level, fullFormat⟩]⟩

/-- The logger of a name, which is set up when it is first asked for. -/
def get (loggers : Table String Logger) (name : String) (plain : Bool) (level fileLevel : Level) :
    Logger × Table String Logger :=
  match loggers.get? name with
  | some l => (l, loggers)
  | none =>
    let l := ofForm plain level fileLevel
    (l, loggers.set name l)

end Logger

end Gatehouse.Log
