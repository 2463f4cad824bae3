import Gatehouse.Schema.Object
import Gatehouse.Schema.Scalar

/-!
Short answers that tell how a request went.
-/
namespace Gatehouse
open Schema

structure Confirmation where
  success : Bool
  deriving DecidableEq, Repr

namespace Confirmation

def read : Json → Checked Confirmation :=
  closedObject ["success"] fun ms => Confirmation.mk <$> required ms "success" boolean

def toJson (c : Confirmation) : Json := .object [("success", .bool c.success)]

end Confirmation

structure Removal where
  removed : Int
  deriving DecidableEq, Repr

namespace Removal

def read : Json → Checked Removal :=
  closedObject ["removed"] fun ms => Removal.mk <$> required ms "removed" integer

def toJson (r : Removal) : Json := .object [("removed", .int r.removed)]

end Removal

end Gatehouse
