import Gatehouse.Fault

/-!
Reading data against a schema. A `Checked` value is what was read, or everything that is wrong
with the data: faults of several fields are told together, in the order of the fields. Paths of
faults are relative to the value that is read, and each enclosing value puts its step before.
-/
namespace Gatehouse

/-- A read value, or all faults of the data. -/
inductive Checked (α : Type) where
  | accepted (value : α)
  | rejected (errors : List FieldError)

namespace Checked
variable {α β : Type}

def map (f : α → β) : Checked α → Checked β
  | accepted a => accepted (f a)
  | rejected es => rejected es

/-- Applies what was read first to what is read second; faults of both are kept. -/
def seq (f : Checked (α → β)) (x : Unit → Checked α) : Checked β :=
  match f, x () with
  | accepted f, accepted a => accepted (f a)
  | accepted _, rejected es => rejected es
  | rejected es, accepted _ => rejected es
  | rejected es, rejected fs => rejected (es ++ fs)

instance : Applicative Checked where
  pure := accepted
  map := map
  seq := seq

def fault (problem : FieldProblem) (input : Json) : Checked α := rejected [⟨[], problem, input⟩]

/-- The faults of a value that stands at a step. -/
def under (step : PathStep) : Checked α → Checked α
  | accepted a => accepted a
  | rejected es => rejected (es.map fun e => { e with path := step :: e.path })

/-- A read value must also pass a test. -/
def ensure (test : α → Bool) (problem : FieldProblem) (input : Json) : Checked α → Checked α
  | accepted a => if test a then accepted a else fault problem input
  | rejected es => rejected es

def toExcept : Checked α → Except Fault α
  | accepted a => .ok a
  | rejected es => .error (.invalid es)

def value? : Checked α → Option α
  | accepted a => some a
  | rejected _ => none

theorem seq_accepted (f : α → β) (x : Checked α) :
    seq (accepted f) (fun _ => x) = x.map f := by cases x <;> rfl

theorem toExcept_ok {x : Checked α} {a : α} (h : x.toExcept = .ok a) : x = accepted a := by
  cases x with
  | accepted b => exact congrArg accepted (Except.ok.inj h)
  | rejected es => simp [toExcept] at h

end Checked

end Gatehouse
