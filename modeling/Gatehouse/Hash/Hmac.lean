import Gatehouse.Hash.Sha2

/-!
Keyed message authentication by a hash function.
-/
namespace Gatehouse.Hash

inductive Digest where
  | sha256 | sha384 | sha512
  deriving DecidableEq, Repr

namespace Digest

def hash : Digest → List UInt8 → List UInt8
  | sha256 => Hash.sha256
  | sha384 => Hash.sha384
  | sha512 => Hash.sha512

/-- The length of the blocks that the function works on. -/
def blockSize : Digest → Nat
  | sha256 => 64
  | sha384 => 128
  | sha512 => 128

end Digest

/-- A key brought to the length of a block: hashed if it is longer, then filled with zeros. -/
def blockKey (d : Digest) (key : List UInt8) : List UInt8 :=
  let k := if d.blockSize < key.length then d.hash key else key
  k ++ List.replicate (d.blockSize - k.length) 0

/-- The authentication code of a message under a key. -/
def hmac (d : Digest) (key msg : List UInt8) : List UInt8 :=
  let k := blockKey d key
  d.hash (k.map (· ^^^ 0x5c) ++ d.hash (k.map (· ^^^ 0x36) ++ msg))

end Gatehouse.Hash
