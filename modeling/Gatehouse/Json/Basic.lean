import Gatehouse.Number.Binary64
import Gatehouse.Table
import Gatehouse.Text.AnyText

/-!
JSON values. Members keep the order in which they were first set, integers have any size, and texts
and names may hold unpaired surrogates. `foreign` stands for a value of the host that has no JSON
form.
-/
namespace Gatehouse
open Number

inductive Json where
  | null
  | bool (value : Bool)
  | int (value : Int)
  | float (value : Binary64)
  | text (value : AnyText)
  | array (items : List Json)
  | object (members : List (AnyText × Json))
  | foreign
  deriving Inhabited, Repr

/-- Members of an object in the order in which they were first set. -/
abbrev Members := Table AnyText Json

namespace Json

def text? : Json → Option String
  | .text t => t.string?
  | _ => none

def members? : Json → Option Members
  | .object ms => some ms
  | _ => none

/-- The value counts as true in a condition: it is not empty, zero or null. -/
def truthy : Json → Bool
  | .null => false
  | .bool b => b
  | .int i => i != 0
  | .float x => !x.isZero
  | .text t => !t.isEmpty
  | .array items => !items.isEmpty
  | .object ms => !ms.isEmpty
  | .foreign => true

mutual
/-- The value and all values in it have a JSON form. -/
def storable : Json → Bool
  | .array items => storableItems items
  | .object ms => storableMembers ms
  | .foreign => false
  | _ => true

def storableItems : List Json → Bool
  | [] => true
  | v :: r => storable v && storableItems r

def storableMembers : List (AnyText × Json) → Bool
  | [] => true
  | (_, v) :: r => storable v && storableMembers r
end

mutual
/-- The value, or a value in it, is not a number or infinite. -/
def hasNonFinite : Json → Bool
  | .float x => !x.isFinite
  | .array items => hasNonFiniteItems items
  | .object ms => hasNonFiniteMembers ms
  | _ => false

def hasNonFiniteItems : List Json → Bool
  | [] => false
  | v :: r => hasNonFinite v || hasNonFiniteItems r

def hasNonFiniteMembers : List (AnyText × Json) → Bool
  | [] => false
  | (_, v) :: r => hasNonFinite v || hasNonFiniteMembers r
end

mutual
/-- The value, or a name or value in it, is a text with an unpaired surrogate. -/
def hasUnpaired : Json → Bool
  | .text t => t.string?.isNone
  | .array items => hasUnpairedItems items
  | .object ms => hasUnpairedMembers ms
  | _ => false

def hasUnpairedItems : List Json → Bool
  | [] => false
  | v :: r => hasUnpaired v || hasUnpairedItems r

def hasUnpairedMembers : List (AnyText × Json) → Bool
  | [] => false
  | (k, v) :: r => k.string?.isNone || hasUnpaired v || hasUnpairedMembers r
end

end Json

end Gatehouse
