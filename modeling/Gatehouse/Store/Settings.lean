import Gatehouse.Json.Display
import Gatehouse.Json.Parser
import Gatehouse.Json.Printer
import Gatehouse.Store.KeyValue

/-!
Settings of users, one JSON document each. A setting is replaced as a whole. `Settings.update`
reads, changes and writes it as one optimistic transaction: when another client writes in
between, it starts again from a fresh read, up to a number of attempts.
-/
namespace Gatehouse

structure Settings where
  /-- How often an update is attempted. -/
  attempts : Nat
  attempts_pos : 0 < attempts

/-- What an update gave: its value, the store after it, and what each attempt read. -/
structure Update (α : Type) where
  outcome : Except Fault α
  store : KeyValue
  seen : List α

/-- How one attempt at an update ends. -/
inductive Attempt where
  | committed (value : Json)
  | overtaken
  | failed (fault : Fault)

namespace Settings
variable [Platform]

def build (maxRetries : Int) : Except Fault Settings :=
  if h : 0 < maxRetries.toNat then .ok ⟨maxRetries.toNat, h⟩
  else .error (.misconfigured "max_retries must be at least 1")

def key (owner : Json) (name : String) : String :=
  "user_setting:" ++ String.ofList owner.plain ++ ":" ++ name

/-- The value of a stored text; a setting that is not there is null. -/
def decode (key : String) : Option String → Except Fault Json
  | none => .ok .null
  | some text =>
    match Json.parse text.toList with
    | .ok v => .ok v
    | .error .tooDeep => .error .tooDeep
    | .error _ =>
      .error (.raise .storeFailure "Stored user setting is not valid JSON"
        (some [("key", .text key)]))

def encode (v : Json) : Except Fault String :=
  match v.encode? with
  | some text => .ok text
  | none => .error .wrongType

def accessFault (message : String) (owner : Json) (name : String) (more : Members := []) : Fault :=
  .raise .storeFailure message
    (some (([("user_id", owner), ("key", .text name)] : Members) ++ more))

/-- The value of a setting, null if it is not set. -/
def get (s : KeyValue) (owner : Json) (name : String) : Except Fault Json :=
  match s.get (key owner name) with
  | .ok raw => decode (key owner name) raw
  | .error _ => .error (accessFault "Failed to read user setting" owner name)

def put (s : KeyValue) (owner : Json) (name : String) (value : Json) : Except Fault KeyValue := do
  let text ← encode value
  match s.set (key owner name) text with
  | .ok s => .ok s
  | .error _ => .error (accessFault "Failed to write user setting" owner name)

/-- What a store fault means for an attempt: only an overtaken one may be repeated. -/
def attemptFault (owner : Json) (name : String) : StoreFault → Attempt
  | .watch => .overtaken
  | _ => .failed (accessFault "Failed to update user setting" owner name)

/-- One read, change and write. Also tells what the change was applied to. -/
def attempt (s : KeyValue) (owner : Json) (name : String) (change : Json → Except Fault Json) :
    Attempt × KeyValue × List Json :=
  let k := key owner name
  match s.get k with
  | .error f => (attemptFault owner name f, s, [])
  | .ok raw =>
    match decode k raw with
    | .error f => (.failed f, s, [])
    | .ok current =>
      match (do let updated ← change current; let text ← encode updated; .ok (updated, text)) with
      | .error f => (.failed f, s, [current])
      | .ok (updated, text) =>
        match s.execute k (s.version k) text with
        | (.ok (), s) => (.committed updated, s, [current])
        | (.error f, s) => (attemptFault owner name f, s, [current])

/-- Attempts an update up to `left` times. -/
def updateUpTo (st : Settings) (owner : Json) (name : String)
    (change : Json → Except Fault Json) : (left : Nat) → KeyValue → Update Json
  | 0, s =>
    ⟨.error (accessFault "User setting was modified concurrently" owner name
      [("attempts", .int st.attempts)]), s, []⟩
  | left + 1, s =>
    match attempt s owner name change with
    | (.committed v, s, seen) => ⟨.ok v, s, seen⟩
    | (.failed f, s, seen) => ⟨.error f, s, seen⟩
    | (.overtaken, s, seen) =>
      let u := updateUpTo st owner name change left s
      { u with seen := seen ++ u.seen }

/-- Replaces a setting by what `change` makes of its current value, and gives the new value. -/
def update (st : Settings) (s : KeyValue) (owner : Json) (name : String)
    (change : Json → Except Fault Json) : Update Json :=
  updateUpTo st owner name change st.attempts s

end Settings

end Gatehouse
