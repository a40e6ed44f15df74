import DidKeys.Hash.Digest

/-! # Keyed hashes and key stretching

* `hmac` turns a hash over blocks into a keyed hash.
* `stretch` applies a keyed hash over and over and mixes all the results: one block of the
  password-based derivation that mnemonics use. -/

namespace DidKeys

/-- Byte by byte exclusive or, as long as both last. -/
def xorBytes (as bs : Bytes) : Bytes := as.zipWith (· ^^^ ·) bs

namespace Hmac

/-- A key at block length: long keys are hashed, short ones are filled up with zeros. -/
def keyBlock (blockSize : Nat) (hash : Bytes → Bytes) (key : Bytes) : Bytes :=
  let short := if key.length > blockSize then hash key else key
  short ++ List.replicate (blockSize - short.length) 0

end Hmac

/-- The keyed hash of a message, from a hash that reads blocks of `blockSize` bytes. -/
def hmac (blockSize : Nat) (hash : Bytes → Bytes) (key message : Bytes) : Bytes :=
  let block := Hmac.keyBlock blockSize hash key
  hash (block.map (· ^^^ 0x5c) ++ hash (block.map (· ^^^ 0x36) ++ message))

/-- The keyed hash over SHA-256. -/
def hmacSha256 (key message : Bytes) : Bytes := hmac 64 (fun m => (sha256 m).bytes) key message

/-- The keyed hash over SHA-512. -/
def hmacSha512 (key message : Bytes) : Bytes := hmac 128 sha512 key message

@[simp] theorem length_hmacSha256 (key message : Bytes) : (hmacSha256 key message).length = 32 := by
  simp [hmacSha256, hmac]

@[simp] theorem length_hmacSha512 (key message : Bytes) : (hmacSha512 key message).length = 64 := by
  simp [hmacSha512, hmac]

/-! ### Stretching -/

/-- `rounds` further applications of a keyed hash to `last`, each mixed into `mixed`. -/
def stretchFrom (keyed : Bytes → Bytes) : (rounds : Nat) → (last mixed : Bytes) → Bytes
  | 0, _, mixed => mixed
  | rounds + 1, last, mixed =>
    let next := keyed last
    stretchFrom keyed rounds next (xorBytes mixed next)

/-- The first block that a password and a salt are stretched to in `rounds` rounds. -/
def stretch (prf : Bytes → Bytes → Bytes) (rounds : Nat) (password salt : Bytes) : Bytes :=
  let first := prf password (salt ++ [0, 0, 0, 1])
  stretchFrom (prf password) (rounds - 1) first first

theorem length_stretchFrom {keyed : Bytes → Bytes} {n : Nat} (h : ∀ m, (keyed m).length = n)
    (rounds : Nat) (last mixed : Bytes) (hm : mixed.length = n) :
    (stretchFrom keyed rounds last mixed).length = n := by
  induction rounds generalizing last mixed with
  | zero => exact hm
  | succ rounds ih => exact ih _ _ (by simp [xorBytes, hm, h])

theorem length_stretch {prf : Bytes → Bytes → Bytes} {n : Nat}
    (h : ∀ k m, (prf k m).length = n) (rounds : Nat) (password salt : Bytes) :
    (stretch prf rounds password salt).length = n :=
  length_stretchFrom (h password) _ _ _ (h _ _)

end DidKeys
