import DidKeys.Hash.Hmac
import Mathlib.Logic.Function.Iterate

/-! # Password-based derivation

PBKDF2 makes as many bytes as are asked for out of a password and a salt, in blocks as wide as the
keyed hash.  A block is the sum of a chain: the salt and the number of the block under the keyed
hash, that under the keyed hash, and so on, one link for each round.

`stretch` adds up the links of the first chain as it goes, which is all there is to a derivation of
one block (`pbkdf2_eq_stretch`). -/

namespace DidKeys

namespace Pbkdf2
variable (prf : Bytes → Bytes → Bytes) (password salt : Bytes)

/-- A link of the chain of a block; links and blocks are counted from one. -/
def link (index round : Nat) : Bytes := (prf password)^[round] (salt ++ Bytes.ofNat 4 index)

/-- A block: the sum of the links of its chain. -/
def block (rounds index : Nat) : Bytes :=
  ((List.range' 2 (rounds - 1)).map (link prf password salt index)).foldl xorBytes
    (link prf password salt index 1)

end Pbkdf2

/-- The first `length` bytes of the blocks of a password and a salt, from a keyed hash that is
`width` bytes wide. -/
def pbkdf2 (prf : Bytes → Bytes → Bytes) (width rounds : Nat) (password salt : Bytes)
    (length : Nat) : Bytes :=
  ((List.range' 1 ((length + width - 1) / width)).flatMap
    (Pbkdf2.block prf password salt rounds)).take length

namespace Pbkdf2

theorem link_succ (prf : Bytes → Bytes → Bytes) (password salt : Bytes) (index round : Nat) :
    link prf password salt index (round + 1) =
      prf password (link prf password salt index round) :=
  Function.iterate_succ_apply' (prf password) round _

variable {prf : Bytes → Bytes → Bytes} {password salt : Bytes}

/-- Stretching goes on from a link by adding up the links behind it. -/
theorem stretchFrom_link (index rounds round : Nat) (mixed : Bytes) :
    stretchFrom (prf password) rounds (link prf password salt index round) mixed =
      ((List.range' (round + 1) rounds).map (link prf password salt index)).foldl xorBytes
        mixed := by
  induction rounds generalizing round mixed with
  | zero =>
      rfl
  | succ rounds ih =>
      rw [List.range'_succ, List.map_cons, List.foldl_cons, ← ih (round + 1), link_succ]
      rfl

theorem block_one (rounds : Nat) :
    block prf password salt rounds 1 = stretch prf rounds password salt :=
  (stretchFrom_link 1 (rounds - 1) 1 _).symm

end Pbkdf2

/-- A derivation of one block is stretching. -/
theorem pbkdf2_eq_stretch {prf : Bytes → Bytes → Bytes} {width : Nat} (hwidth : 0 < width)
    (hprf : ∀ key message, (prf key message).length = width) (rounds : Nat)
    (password salt : Bytes) :
    pbkdf2 prf width rounds password salt width = stretch prf rounds password salt := by
  have hblocks : (width + width - 1) / width = 1 :=
    Nat.div_eq_of_lt_le (by omega) (by omega)
  have hlength := length_stretch hprf rounds password salt
  rw [pbkdf2, hblocks, List.range'_one, List.flatMap_singleton, Pbkdf2.block_one,
    List.take_of_length_le (Nat.le_of_eq hlength)]

end DidKeys
