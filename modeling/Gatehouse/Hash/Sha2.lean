/-!
The SHA-2 hash functions on lists of bytes. The compression function is written once over the
word type; the constants of the 32-bit functions are the upper halves of the 64-bit ones.
-/
namespace Gatehouse.Hash

/-- What the compression function needs of a word type. -/
class Word (w : Type) extends Add w, XorOp w, AndOp w, Complement w where
  bytes : Nat
  ofNat : Nat → w
  toNat : w → Nat
  rotateRight : w → Nat → w
  shiftRight : w → Nat → w
  /-- The rotations of the two state mixers, and the rotations and shift of the two others. -/
  mixers : (Nat × Nat × Nat) × (Nat × Nat × Nat) × (Nat × Nat × Nat) × (Nat × Nat × Nat)

instance : Word UInt32 where
  bytes := 4
  ofNat n := n.toUInt32
  toNat x := x.toNat
  rotateRight x n := (x >>> n.toUInt32) ||| (x <<< (32 - n).toUInt32)
  shiftRight x n := x >>> n.toUInt32
  mixers := ((2, 13, 22), (6, 11, 25), (7, 18, 3), (17, 19, 10))

instance : Word UInt64 where
  bytes := 8
  ofNat n := n.toUInt64
  toNat x := x.toNat
  rotateRight x n := (x >>> n.toUInt64) ||| (x <<< (64 - n).toUInt64)
  shiftRight x n := x >>> n.toUInt64
  mixers := ((28, 34, 39), (14, 18, 41), (1, 8, 7), (19, 61, 6))

namespace Sha2
variable {w : Type} [Word w]

/-- Three rotations combined. -/
def rotations (r : Nat × Nat × Nat) (x : w) : w :=
  Word.rotateRight x r.1 ^^^ Word.rotateRight x r.2.1 ^^^ Word.rotateRight x r.2.2

/-- Two rotations and a shift combined. -/
def rotationsShift (r : Nat × Nat × Nat) (x : w) : w :=
  Word.rotateRight x r.1 ^^^ Word.rotateRight x r.2.1 ^^^ Word.shiftRight x r.2.2

structure Chain (w : Type) where
  a : w
  b : w
  c : w
  d : w
  e : w
  f : w
  g : w
  h : w

def Chain.add (x y : Chain w) : Chain w :=
  ⟨x.a + y.a, x.b + y.b, x.c + y.c, x.d + y.d, x.e + y.e, x.f + y.f, x.g + y.g, x.h + y.h⟩

def Chain.toList (x : Chain w) : List w := [x.a, x.b, x.c, x.d, x.e, x.f, x.g, x.h]

/-- One round with its constant and schedule word. -/
def round (s : Chain w) (k x : w) : Chain w :=
  let t1 := s.h + rotations (Word.mixers w).2.1 s.e + ((s.e &&& s.f) ^^^ (~~~s.e &&& s.g)) + k + x
  let t2 := rotations (Word.mixers w).1 s.a + ((s.a &&& s.b) ^^^ (s.a &&& s.c) ^^^ (s.b &&& s.c))
  ⟨t1 + t2, s.a, s.b, s.c, s.d + t1, s.e, s.f, s.g⟩

/-- The rounds over the constants. The window holds the next sixteen schedule words. -/
def rounds : List w → List w → Chain w → Chain w
  | k :: ks, x :: window, s =>
    let next := match window[0]?, window[8]?, window[13]? with
      | some p, some q, some r =>
        [rotationsShift (Word.mixers w).2.2.2 r + q + rotationsShift (Word.mixers w).2.2.1 p + x]
      | _, _, _ => []
    rounds ks (window ++ next) (round s k x)
  | _, _, s => s

def compress (ks : List w) (s : Chain w) (block : List w) : Chain w :=
  s.add (rounds ks block s)

/-- A number from its big-endian bytes. -/
def beNat (bs : List UInt8) : Nat := bs.foldl (fun n b => n * 256 + b.toNat) 0

/-- The last `count` big-endian bytes of a number. -/
def beBytes : Nat → Nat → List UInt8
  | 0, _ => []
  | count + 1, n => (n / 256 ^ count % 256).toUInt8 :: beBytes count n

/-- Pieces of `n + 1` elements; an incomplete last piece is dropped. -/
def pieces {α : Type} (n : Nat) (xs : List α) : List (List α) :=
  go xs.length xs
where
  go : Nat → List α → List (List α)
    | 0, _ => []
    | fuel + 1, xs =>
      if xs.length < n + 1 then [] else xs.take (n + 1) :: go fuel (xs.drop (n + 1))

/-- The message with a one bit, zeros and its length in bits, filling whole blocks. -/
def pad (wordBytes : Nat) (msg : List UInt8) : List UInt8 :=
  let block := 16 * wordBytes
  let used := (msg.length + 1 + 2 * wordBytes) % block
  let zeros := if used = 0 then 0 else block - used
  msg ++ 0x80 :: (List.replicate zeros 0 ++ beBytes (2 * wordBytes) (8 * msg.length))

/-- The chaining words after a whole message. -/
def digestChain (ks : List w) (start : Chain w) (msg : List UInt8) : Chain w :=
  let n := Word.bytes w
  (pieces (16 * n - 1) (pad n msg)).foldl
    (fun s block => compress ks s ((pieces (n - 1) block).map fun bs => Word.ofNat (beNat bs)))
    start

def digest (ks : List w) (start : Chain w) (msg : List UInt8) : List UInt8 :=
  (digestChain ks start msg).toList.flatMap fun x => beBytes (Word.bytes w) (Word.toNat x)

/-- The fractional parts of the cube roots of the first eighty primes. -/
def constants64 : List UInt64 := [
  0x428a2f98d728ae22, 0x7137449123ef65cd, 0xb5c0fbcfec4d3b2f, 0xe9b5dba58189dbbc,
  0x3956c25bf348b538, 0x59f111f1b605d019, 0x923f82a4af194f9b, 0xab1c5ed5da6d8118,
  0xd807aa98a3030242, 0x12835b0145706fbe, 0x243185be4ee4b28c, 0x550c7dc3d5ffb4e2,
  0x72be5d74f27b896f, 0x80deb1fe3b1696b1, 0x9bdc06a725c71235, 0xc19bf174cf692694,
  0xe49b69c19ef14ad2, 0xefbe4786384f25e3, 0x0fc19dc68b8cd5b5, 0x240ca1cc77ac9c65,
  0x2de92c6f592b0275, 0x4a7484aa6ea6e483, 0x5cb0a9dcbd41fbd4, 0x76f988da831153b5,
  0x983e5152ee66dfab, 0xa831c66d2db43210, 0xb00327c898fb213f, 0xbf597fc7beef0ee4,
  0xc6e00bf33da88fc2, 0xd5a79147930aa725, 0x06ca6351e003826f, 0x142929670a0e6e70,
  0x27b70a8546d22ffc, 0x2e1b21385c26c926, 0x4d2c6dfc5ac42aed, 0x53380d139d95b3df,
  0x650a73548baf63de, 0x766a0abb3c77b2a8, 0x81c2c92e47edaee6, 0x92722c851482353b,
  0xa2bfe8a14cf10364, 0xa81a664bbc423001, 0xc24b8b70d0f89791, 0xc76c51a30654be30,
  0xd192e819d6ef5218, 0xd69906245565a910, 0xf40e35855771202a, 0x106aa07032bbd1b8,
  0x19a4c116b8d2d0c8, 0x1e376c085141ab53, 0x2748774cdf8eeb99, 0x34b0bcb5e19b48a8,
  0x391c0cb3c5c95a63, 0x4ed8aa4ae3418acb, 0x5b9cca4f7763e373, 0x682e6ff3d6b2b8a3,
  0x748f82ee5defb2fc, 0x78a5636f43172f60, 0x84c87814a1f0ab72, 0x8cc702081a6439ec,
  0x90befffa23631e28, 0xa4506cebde82bde9, 0xbef9a3f7b2c67915, 0xc67178f2e372532b,
  0xca273eceea26619c, 0xd186b8c721c0c207, 0xeada7dd6cde0eb1e, 0xf57d4f7fee6ed178,
  0x06f067aa72176fba, 0x0a637dc5a2c898a6, 0x113f9804bef90dae, 0x1b710b35131c471b,
  0x28db77f523047d84, 0x32caab7b40c72493, 0x3c9ebe0a15c9bebc, 0x431d67c49c100d4c,
  0x4cc5d4becb3e42b6, 0x597f299cfc657e2a, 0x5fcb6fab3ad6faec, 0x6c44198c4a475817]

def constants32 : List UInt32 := (constants64.take 64).map fun (k : UInt64) => (k >>> 32).toUInt32

/-- The fractional parts of the square roots of the first eight primes. -/
def start512 : Chain UInt64 :=
  ⟨0x6a09e667f3bcc908, 0xbb67ae8584caa73b, 0x3c6ef372fe94f82b, 0xa54ff53a5f1d36f1,
    0x510e527fade682d1, 0x9b05688c2b3e6c1f, 0x1f83d9abfb41bd6b, 0x5be0cd19137e2179⟩

/-- The fractional parts of the square roots of the next eight primes. -/
def start384 : Chain UInt64 :=
  ⟨0xcbbb9d5dc1059ed8, 0x629a292a367cd507, 0x9159015a3070dd17, 0x152fecd8f70e5939,
    0x67332667ffc00b31, 0x8eb44a8768581511, 0xdb0c2e0d64f98fa7, 0x47b5481dbefa4fa4⟩

def start256 : Chain UInt32 :=
  let up (x : UInt64) : UInt32 := (x >>> 32).toUInt32
  ⟨up start512.a, up start512.b, up start512.c, up start512.d,
    up start512.e, up start512.f, up start512.g, up start512.h⟩

end Sha2

def sha256 (msg : List UInt8) : List UInt8 := Sha2.digest Sha2.constants32 Sha2.start256 msg

def sha384 (msg : List UInt8) : List UInt8 :=
  (Sha2.digest Sha2.constants64 Sha2.start384 msg).take 48

def sha512 (msg : List UInt8) : List UInt8 := Sha2.digest Sha2.constants64 Sha2.start512 msg

end Gatehouse.Hash
