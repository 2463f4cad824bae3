import Gatehouse.Text.Base64Url

/-!
What is left to the language and the libraries underneath. They come in releases that differ here,
so the library is stated for any of them: of each part only what every release keeps to is known.
-/
namespace Gatehouse
open Text

class Platform where
  /-- How deep JSON values may nest and still be read. -/
  depthLimit : Nat
  hundred_le_depthLimit : 100 ≤ depthLimit
  /-- The bytes of a part of a token. Besides the canonical text of the bytes a release may take
  others for them. -/
  readPart? : List Char → Option (List UInt8)
  readPart?_encode : ∀ bs, readPart? (Base64Url.encode bs) = some bs
  /-- A secret may be used with a keyed hash: it is not taken for a key of another kind. -/
  usableSecret : String → Bool

end Gatehouse
