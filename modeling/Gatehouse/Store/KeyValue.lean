import Gatehouse.Fault
import Gatehouse.Table

/-!
The key-value store that settings are kept in. Every write under a key gives it a new version.
`KeyValue.execute` writes only if the version noted before is still current; other clients, whose
writes are queued here, may come in between.
-/
namespace Gatehouse

structure KeyValue where
  texts : Table String String
  versions : Table String Nat
  /-- Writes of other clients that are due, each just before one execution. -/
  rivals : List (String × String)
  /-- How many further executions lose to another client that changes nothing. -/
  conflicts : Int
  /-- How the store fails while it cannot be reached. -/
  failure : Option StoreFault
  /-- How many executions there were. -/
  executions : Nat

namespace KeyValue

def empty : KeyValue := ⟨[], [], [], 0, none, 0⟩

def text? (s : KeyValue) (key : String) : Option String := s.texts.get? key

/-- The count of changes under a key. -/
def version (s : KeyValue) (key : String) : Nat := (s.versions.get? key).getD 0

/-- Counts a change under a key. -/
def touch (s : KeyValue) (key : String) : KeyValue :=
  { s with versions := s.versions.set key (s.version key + 1) }

def write (s : KeyValue) (key text : String) : KeyValue :=
  { s with texts := s.texts.set key text }.touch key

/-- A store with given texts, each written once. -/
def ofTexts (texts : List (String × String)) : KeyValue :=
  texts.foldl (fun s p => s.write p.1 p.2) empty

/-- Reads a text, if the store can be reached. -/
def get (s : KeyValue) (key : String) : Except StoreFault (Option String) :=
  match s.failure with
  | some f => .error f
  | none => .ok (s.text? key)

/-- Writes a text, if the store can be reached. -/
def set (s : KeyValue) (key text : String) : Except StoreFault KeyValue :=
  match s.failure with
  | some f => .error f
  | none => .ok (s.write key text)

/-- Removes a text and tells whether there was one. -/
def delete (s : KeyValue) (key : String) : Bool × KeyValue :=
  match s.text? key with
  | none => (false, s)
  | some _ => (true, { s with texts := s.texts.erase key }.touch key)

/-- What other clients do just before an execution that watches a key. -/
def interfere (s : KeyValue) (watched : String) : KeyValue :=
  match s.rivals with
  | (key, text) :: rest => { s with rivals := rest }.write key text
  | [] => if 0 < s.conflicts then { s with conflicts := s.conflicts - 1 }.touch watched else s

/-- Writes a text if the key still has the noted version. -/
def execute (s : KeyValue) (key : String) (noted : Nat) (text : String) :
    Except StoreFault Unit × KeyValue :=
  let s := { s with executions := s.executions + 1 }.interfere key
  if s.version key ≠ noted then (.error .watch, s)
  else
    match s.set key text with
    | .ok s => (.ok (), s)
    | .error f => (.error f, s)

theorem text?_write_self (s : KeyValue) (key text : String) :
    (s.write key text).text? key = some text := by
  simp [write, touch, text?]

theorem text?_write_of_ne {s : KeyValue} {key other text : String} (h : other ≠ key) :
    (s.write key text).text? other = s.text? other := by
  simp [write, touch, text?, Table.get?_set_of_ne h]

theorem version_write_self (s : KeyValue) (key text : String) :
    (s.write key text).version key = s.version key + 1 := by
  simp [write, touch, version]

end KeyValue

end Gatehouse
