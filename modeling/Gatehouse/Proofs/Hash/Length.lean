import Gatehouse.Hash.Hmac

/-!
Every digest has its fixed number of bytes, and so has every authentication code.
-/
namespace Gatehouse.Hash

theorem length_beBytes (count n : Nat) : (Sha2.beBytes count n).length = count := by
  induction count with
  | zero => rfl
  | succ count ih =>
    show (Sha2.beBytes count n).length + 1 = count + 1
    rw [ih]

/-- Eight words are written with their bytes. -/
theorem length_digest {w : Type} [Word w] (ks : List w) (start : Sha2.Chain w)
    (msg : List UInt8) : (Sha2.digest ks start msg).length = 8 * Word.bytes w := by
  simp only [Sha2.digest, Sha2.Chain.toList, List.flatMap_cons, List.flatMap_nil,
    List.length_append, List.length_nil, length_beBytes]
  omega

theorem length_sha256 (bytes : List UInt8) : (sha256 bytes).length = 32 := length_digest _ _ _

/-- The number of bytes of a digest. -/
def Digest.size : Digest → Nat
  | sha256 => 32
  | sha384 => 48
  | sha512 => 64

theorem Digest.length_hash (d : Digest) (bytes : List UInt8) : (d.hash bytes).length = d.size := by
  cases d with
  | sha256 => exact length_sha256 bytes
  | sha384 =>
    rw [hash, Hash.sha384, List.length_take, length_digest]
    rfl
  | sha512 => exact length_digest _ _ _

theorem length_hmac (d : Digest) (key msg : List UInt8) : (hmac d key msg).length = d.size :=
  d.length_hash _

end Gatehouse.Hash
