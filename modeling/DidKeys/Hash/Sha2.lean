import DidKeys.Bytes
import DidKeys.Chunks

/-! # The SHA-2 family

SHA-256 and SHA-512 are one construction over words of 32 and 64 bits.

* A message is closed by the byte `0x80`, zeros, and its length in bits, up to whole blocks of
  sixteen words (`pad`).
* Each block is stretched to one word per round (`schedule`) and folded into the eight words of
  the state (`compress`).
* The digest is the last state, written big-endian (`hash`). -/

namespace DidKeys.Sha2

/-- The eight working words. -/
structure State (W : Type) where
  a : W
  b : W
  c : W
  d : W
  e : W
  f : W
  g : W
  h : W

/-- What distinguishes the members of the family: the word and the functions and constants on
it. -/
class Family (W : Type) extends Add W, AndOp W, XorOp W, Complement W where
  /-- The number of bytes in a word. -/
  wordSize : Nat
  ofNat : Nat → W
  toNat : W → Nat
  bigSigma0 : W → W
  bigSigma1 : W → W
  smallSigma0 : W → W
  smallSigma1 : W → W
  /-- One constant for each round. -/
  constants : List W
  /-- The state before the first block. -/
  initial : State W

open Family

/-! ### Blocks -/

/-- The number of bytes in a block of sixteen words. -/
def blockSize (W : Type) [Family W] : Nat := 16 * wordSize W

/-- The number of zero bytes between the closing byte and the length. -/
def paddingZeros (W : Type) [Family W] (length : Nat) : Nat :=
  (blockSize W - (length + 1 + 2 * wordSize W) % blockSize W) % blockSize W

/-- A message closed by `0x80`, zeros and its length in bits. -/
def pad (W : Type) [Family W] (message : Bytes) : Bytes :=
  message ++ 0x80 :: List.replicate (paddingZeros W message.length) 0 ++
    Bytes.ofNat (2 * wordSize W) (8 * message.length)

/-- The words of a block. -/
def words (W : Type) [Family W] (block : Bytes) : List W :=
  (chunks (wordSize W) block).map fun bs => ofNat (Bytes.toNat bs)

/-! ### Rounds -/

variable {W : Type}

/-- The next word of a schedule, from the words so far, the latest first. -/
@[specialize] def nextWord [Family W] (latest : List W) : W :=
  let word := fun i => latest.getD i (ofNat 0)
  smallSigma1 (word 1) + word 6 + smallSigma0 (word 14) + word 15

/-- Adds `count` words to a schedule that is held with the latest word first. -/
@[specialize] def extend [Family W] : Nat → List W → List W
  | 0, latest => latest
  | count + 1, latest => extend count (nextWord latest :: latest)

/-- The words of a block, stretched to one for each round. -/
@[specialize] def schedule [Family W] (block : List W) : List W :=
  (extend ((constants (W := W)).length - 16) block.reverse).reverse

/-- One round: a constant and a word of the schedule enter the state. -/
@[specialize] def State.round [Family W] (s : State W) (kw : W × W) : State W :=
  let choose := (s.e &&& s.f) ^^^ (~~~ s.e &&& s.g)
  let majority := (s.a &&& s.b) ^^^ (s.a &&& s.c) ^^^ (s.b &&& s.c)
  let t := s.h + bigSigma1 s.e + choose + kw.1 + kw.2
  ⟨t + (bigSigma0 s.a + majority), s.a, s.b, s.c, s.d + t, s.e, s.f, s.g⟩

/-- Word by word sum of two states. -/
def State.add [Family W] (s t : State W) : State W :=
  ⟨s.a + t.a, s.b + t.b, s.c + t.c, s.d + t.d, s.e + t.e, s.f + t.f, s.g + t.g, s.h + t.h⟩

/-- Folds one block into the state. -/
@[specialize] def compress [Family W] (s : State W) (block : List W) : State W :=
  s.add ((constants.zip (schedule block)).foldl State.round s)

/-! ### Digests -/

/-- The words of a state, written big-endian. -/
def State.toBytes [Family W] (s : State W) : Bytes :=
  [s.a, s.b, s.c, s.d, s.e, s.f, s.g, s.h].flatMap fun w => Bytes.ofNat (wordSize W) (toNat w)

/-- The digest of a message. -/
@[specialize] def hash (W : Type) [Family W] (message : Bytes) : Bytes :=
  ((chunks (blockSize W) (pad W message)).foldl (fun s block => compress s (words W block))
    initial).toBytes

@[simp] theorem State.length_toBytes [Family W] (s : State W) :
    s.toBytes.length = 8 * wordSize W := by
  simp [State.toBytes]; omega

/-- A digest has the length of eight words. -/
@[simp] theorem length_hash [Family W] (message : Bytes) :
    (hash W message).length = 8 * wordSize W := by
  simp [hash]

/-! ### Members -/

/-- Rotation to the right by fewer than 32 places. -/
def rotr32 (w k : UInt32) : UInt32 := (w >>> k) ||| (w <<< (32 - k))

/-- Rotation to the right by fewer than 64 places. -/
def rotr64 (w k : UInt64) : UInt64 := (w >>> k) ||| (w <<< (64 - k))

/-- The round constants of SHA-256: the first 32 fractional bits of the cube roots of the first 64
primes. -/
def constants32 : List UInt32 :=
  [
    0x428a2f98, 0x71374491, 0xb5c0fbcf, 0xe9b5dba5, 0x3956c25b, 0x59f111f1, 0x923f82a4, 0xab1c5ed5,
    0xd807aa98, 0x12835b01, 0x243185be, 0x550c7dc3, 0x72be5d74, 0x80deb1fe, 0x9bdc06a7, 0xc19bf174,
    0xe49b69c1, 0xefbe4786, 0x0fc19dc6, 0x240ca1cc, 0x2de92c6f, 0x4a7484aa, 0x5cb0a9dc, 0x76f988da,
    0x983e5152, 0xa831c66d, 0xb00327c8, 0xbf597fc7, 0xc6e00bf3, 0xd5a79147, 0x06ca6351, 0x14292967,
    0x27b70a85, 0x2e1b2138, 0x4d2c6dfc, 0x53380d13, 0x650a7354, 0x766a0abb, 0x81c2c92e, 0x92722c85,
    0xa2bfe8a1, 0xa81a664b, 0xc24b8b70, 0xc76c51a3, 0xd192e819, 0xd6990624, 0xf40e3585, 0x106aa070,
    0x19a4c116, 0x1e376c08, 0x2748774c, 0x34b0bcb5, 0x391c0cb3, 0x4ed8aa4a, 0x5b9cca4f, 0x682e6ff3,
    0x748f82ee, 0x78a5636f, 0x84c87814, 0x8cc70208, 0x90befffa, 0xa4506ceb, 0xbef9a3f7, 0xc67178f2]

/-- The round constants of SHA-512: the first 64 fractional bits of the cube roots of the first 80
primes. -/
def constants64 : List UInt64 :=
  [
    0x428a2f98d728ae22, 0x7137449123ef65cd, 0xb5c0fbcfec4d3b2f, 0xe9b5dba58189dbbc,
    0x3956c25bf348b538, 0x59f111f1b605d019, 0x923f82a4af194f9b, 0xab1c5ed5da6d8118,
    0xd807aa98a3030242, 0x12835b0145706fbe, 0x243185be4ee4b28c, 0x550c7dc3d5ffb4e2,
    0x72be5d74f27b896f, 0x80deb1fe3b1696b1, 0x9bdc06a725c71235, 0xc19bf174cf692694,
    0xe49b69c19ef14ad2, 0xefbe4786384f25e3, 0x0fc19dc68b8cd5b5, 0x240ca1cc77ac9c65,
    0x2de92c6f592b0275, 0x4a7484aa6ea6e483, 0x5cb0a9dcbd41fbd4, 0x76f988da831153b5,
    0x983e5152ee66dfab, 0xa831c66d2db43210, 0xb00327c898fb213f, 0xbf597fc7beef0ee4,
    0xc6e00bf33da88fc2, 0xd5a79147930aa725, 0x06ca6351e003826f, 0x142929670a0e6e70,
    0x27b70a8546d22ffc, 0x2e1b21385c26c926, 0x4d2c6dfc5ac42aed, 0x53380d139d95b3df,
    0x650a73548baf63de, 0x766a0abb3c77b2a8, 0x81c2c92e47edaee6, 0x92722c851482353b,
    0xa2bfe8a14cf10364, 0xa81a664bbc423001, 0xc24b8b70d0f89791, 0xc76c51a30654be30,
    0xd192e819d6ef5218, 0xd69906245565a910, 0xf40e35855771202a, 0x106aa07032bbd1b8,
    0x19a4c116b8d2d0c8, 0x1e376c085141ab53, 0x2748774cdf8eeb99, 0x34b0bcb5e19b48a8,
    0x391c0cb3c5c95a63, 0x4ed8aa4ae3418acb, 0x5b9cca4f7763e373, 0x682e6ff3d6b2b8a3,
    0x748f82ee5defb2fc, 0x78a5636f43172f60, 0x84c87814a1f0ab72, 0x8cc702081a6439ec,
    0x90befffa23631e28, 0xa4506cebde82bde9, 0xbef9a3f7b2c67915, 0xc67178f2e372532b,
    0xca273eceea26619c, 0xd186b8c721c0c207, 0xeada7dd6cde0eb1e, 0xf57d4f7fee6ed178,
    0x06f067aa72176fba, 0x0a637dc5a2c898a6, 0x113f9804bef90dae, 0x1b710b35131c471b,
    0x28db77f523047d84, 0x32caab7b40c72493, 0x3c9ebe0a15c9bebc, 0x431d67c49c100d4c,
    0x4cc5d4becb3e42b6, 0x597f299cfc657e2a, 0x5fcb6fab3ad6faec, 0x6c44198c4a475817]

/-- The words of SHA-256. -/
instance : Family UInt32 where
  wordSize := 4
  ofNat := UInt32.ofNat
  toNat := UInt32.toNat
  bigSigma0 w := rotr32 w 2 ^^^ rotr32 w 13 ^^^ rotr32 w 22
  bigSigma1 w := rotr32 w 6 ^^^ rotr32 w 11 ^^^ rotr32 w 25
  smallSigma0 w := rotr32 w 7 ^^^ rotr32 w 18 ^^^ (w >>> 3)
  smallSigma1 w := rotr32 w 17 ^^^ rotr32 w 19 ^^^ (w >>> 10)
  constants := constants32
  initial := ⟨0x6a09e667, 0xbb67ae85, 0x3c6ef372, 0xa54ff53a,
    0x510e527f, 0x9b05688c, 0x1f83d9ab, 0x5be0cd19⟩

/-- The words of SHA-512. -/
instance : Family UInt64 where
  wordSize := 8
  ofNat := UInt64.ofNat
  toNat := UInt64.toNat
  bigSigma0 w := rotr64 w 28 ^^^ rotr64 w 34 ^^^ rotr64 w 39
  bigSigma1 w := rotr64 w 14 ^^^ rotr64 w 18 ^^^ rotr64 w 41
  smallSigma0 w := rotr64 w 1 ^^^ rotr64 w 8 ^^^ (w >>> 7)
  smallSigma1 w := rotr64 w 19 ^^^ rotr64 w 61 ^^^ (w >>> 6)
  constants := constants64
  initial := ⟨0x6a09e667f3bcc908, 0xbb67ae8584caa73b,
    0x3c6ef372fe94f82b, 0xa54ff53a5f1d36f1,
    0x510e527fade682d1, 0x9b05688c2b3e6c1f,
    0x1f83d9abfb41bd6b, 0x5be0cd19137e2179⟩

end DidKeys.Sha2

namespace DidKeys

/-- The 64-byte SHA-512 digest of a message. -/
def sha512 (message : Bytes) : Bytes := Sha2.hash UInt64 message

@[simp] theorem length_sha512 (message : Bytes) : (sha512 message).length = 64 :=
  Sha2.length_hash message

end DidKeys
