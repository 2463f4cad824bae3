import Gatehouse.Schema.Checked

/-!
Objects and lists of data. The fields of an object are read in the order of its schema; members
that the schema does not name are passed over, or are faults after those of the fields.
-/
namespace Gatehouse.Schema
variable {α : Type}

def required (ms : Members) (name : AnyText) (read : Json → Checked α) : Checked α :=
  match ms.get? name with
  | some v => (read v).under (.name name)
  | none => .rejected [⟨[.name name], .missing, .object ms⟩]

/-- A field with a value for when it is not there. -/
def optional (ms : Members) (name : AnyText) (default : α) (read : Json → Checked α) :
    Checked α :=
  match ms.get? name with
  | some v => (read v).under (.name name)
  | none => .accepted default

def nullable (read : Json → Checked α) (v : Json) : Checked (Option α) :=
  match v with
  | .null => .accepted none
  | _ => (read v).map some

/-- The faults of members that a schema does not name. -/
def extras (names : List AnyText) (ms : Members) : List FieldError :=
  (ms.filter fun p => !names.contains p.1).map fun p => ⟨[.name p.1], .extraForbidden, p.2⟩

/-- The members of a value that must be an object. -/
def openObject (read : Members → Checked α) (v : Json) : Checked α :=
  match v with
  | .object ms => read ms
  | _ => .fault .modelType v

/-- An object with no other members than the named ones. -/
def closedObject (names : List AnyText) (read : Members → Checked α) (v : Json) : Checked α :=
  match v with
  | .object ms =>
    match read ms, extras names ms with
    | r, [] => r
    | .accepted _, es => .rejected es
    | .rejected fs, es => .rejected (fs ++ es)
  | _ => .fault .modelAttributesType v

/-- The items of a list from a given index on. -/
def items (read : Json → Checked α) : Nat → List Json → Checked (List α)
  | _, [] => .accepted []
  | i, v :: r => List.cons <$> (read v).under (.index i) <*> items read (i + 1) r

/-- A list whose items all have the same schema. -/
def list (read : Json → Checked α) (v : Json) : Checked (List α) :=
  match v with
  | .array vs => items read 0 vs
  | _ => .fault .listType v

end Gatehouse.Schema
