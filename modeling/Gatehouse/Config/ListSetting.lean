import Gatehouse.Json.Display
import Gatehouse.Json.Parser
import Gatehouse.Schema.Object
import Gatehouse.Schema.Scalar

/-!
Settings that are lists of texts. A list may be given as such, as the JSON text of a list, or as
items with commas or semicolons between them; blanks around items and empty items do not count.
-/
namespace Gatehouse
open Text

namespace ListSetting
variable [Platform]

/-- The items of a text with separators: commas if there is one, else semicolons. -/
def separated (cs : List Char) : List String :=
  let sep := if cs.contains ',' then ',' else ';'
  ((splitOn sep cs).map (trim isBlank)).filterMap fun item =>
    if item.isEmpty then none else some (String.ofList item)

/-- The text begins and ends like a JSON list. -/
def bracketed (cs : List Char) : Bool :=
  let inner := trim isBlank cs
  inner.head? == some '[' && inner.getLast? == some ']'

/-- An item of a JSON list, kept as text. -/
def item (v : Json) : Checked String :=
  match v with
  | .text _ => Schema.string v
  | _ => .accepted (String.ofList v.plain)

/-- The items of a setting. A value that is neither a list nor a text cannot be taken apart. -/
def read (v : Json) : Except Fault (Checked (List String)) :=
  match v with
  | .array vs => .ok (Schema.items Schema.string 0 vs)
  | .text (.string s) =>
    let cs := s.toList
    if bracketed cs then
      match Json.parse cs with
      | .ok (.array vs) => .ok (Schema.items item 0 vs)
      | .ok _ => .ok (.accepted (separated cs))
      | .error (.malformed _) => .ok (.accepted (separated cs))
      | .error .tooManyDigits => .ok (.fault .valueError v)
      | .error .tooDeep => .error .tooDeep
    else .ok (.accepted (separated cs))
  | .text (.unpaired ..) => .ok (.fault .stringUnicode v)
  | .object _ => .error .unsupported
  | _ => .error .wrongType

/-- A list setting among others; without it everything is allowed. -/
def field (ms : Members) (name : String) : Except Fault (Checked (List String)) :=
  match ms.get? name with
  | none => .ok (.accepted ["*"])
  | some v => (·.under (.name name)) <$> read v

end ListSetting

end Gatehouse
