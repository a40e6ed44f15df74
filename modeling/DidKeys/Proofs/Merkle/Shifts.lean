import DidKeys.Proofs.Merkle.Ways
import Mathlib.Tactic.Ring

/-! # Proofs by shifts of a word

The index of a proof is a word of 32 bits.  Here it is built and read by shifts of that word, going
down the tree and up the siblings, and every shift by 32 or more places is refused:

* `Tree.proofsByShifts?` sets a bit of the index at each turn to the right;
* `InclusionProof.rootByShifts?` reads one bit for each sibling.

Trees of at most 32 levels never meet the refusal, and the answers are those of `Tree.proofs` and
`InclusionProof.derivedRoot` (`Tree.proofsByShifts?_eq`, `InclusionProof.rootByShifts?_eq`). -/

namespace DidKeys.Merkle

/-- The word with one bit set, unless the word has no such place. -/
def bitAt? (place : Nat) : Option UInt32 :=
  if place < 32 then some (1 <<< UInt32.ofNat place) else none

/-- The bit of a word at a place, unless the word has no such place. -/
def isSetAt? (index : UInt32) (place : Nat) : Option Bool :=
  if place < 32 then some ((index >>> UInt32.ofNat place) &&& 1 == 1) else none

/-- The proofs below a tree that is reached with some index over some siblings, the lowest one
first; each turn to the right sets the bit whose place is the number of siblings so far. -/
def Tree.proofsByShifts? (index : UInt32) (siblings : List Digest) :
    Tree → Option (List InclusionProof)
  | .leaf data => some [⟨data, index, siblings⟩]
  | .node left right => do
    let lefts ← left.proofsByShifts? index (right.hash :: siblings)
    let bit ← bitAt? siblings.length
    let rights ← right.proofsByShifts? (index ||| bit) (left.hash :: siblings)
    return lefts ++ rights

/-- The end of the way from a hash over some siblings, the lowest one first; the place read for a
sibling is the number of siblings above it. -/
def climbByShifts? (index : UInt32) : Digest → List Digest → Option Digest
  | hash, [] => some hash
  | hash, sibling :: siblings => do
    let right ← isSetAt? index siblings.length
    climbByShifts? index (Step.apply hash ⟨sibling, right⟩) siblings

/-- The root that a proof leads to. -/
def InclusionProof.rootByShifts? (proof : InclusionProof) : Option Digest :=
  climbByShifts? proof.index (leafHash proof.hash) proof.siblings

/-! ### Words and sides -/

/-- The word that some steps make. -/
def stepsIndex (steps : List Step) : UInt32 :=
  UInt32.ofNat (sidesToNat (steps.map Step.right).reverse)

theorem sidesToNat_concat (sides : List Bool) (side : Bool) :
    sidesToNat (sides ++ [side]) = sidesToNat sides + side.toNat * 2 ^ sides.length := by
  induction sides with
  | nil => simp [sidesToNat]
  | cons first sides ih =>
      simp only [List.cons_append, sidesToNat, ih, List.length_cons, Nat.pow_succ]
      ring

theorem stepsIndex_left (sibling : Digest) (steps : List Step) :
    stepsIndex (⟨sibling, false⟩ :: steps) = stepsIndex steps := by
  simp [stepsIndex, sidesToNat_concat]

theorem toNat_bit {place : Nat} (h : place < 32) :
    ((1 : UInt32) <<< UInt32.ofNat place).toNat = 2 ^ place := by
  have hlt : 2 ^ place < 2 ^ 32 := Nat.pow_lt_pow_right (by decide) h
  have hplace : (UInt32.ofNat place).toNat = place :=
    UInt32.toNat_ofNat_of_lt' (Nat.lt_trans h (by decide))
  rw [UInt32.toNat_shiftLeft, hplace, Nat.mod_eq_of_lt h, UInt32.toNat_one, Nat.one_shiftLeft,
    Nat.mod_eq_of_lt hlt]

/-- A turn to the right sets the bit above all bits of the steps so far. -/
theorem stepsIndex_right (sibling : Digest) {steps : List Step} (h : steps.length < 32) :
    stepsIndex (⟨sibling, true⟩ :: steps) =
      stepsIndex steps ||| 1 <<< UInt32.ofNat steps.length := by
  have hlt := sidesToNat_lt (steps.map Step.right).reverse
  rw [List.length_reverse, List.length_map] at hlt
  have hpow : 2 ^ (steps.length + 1) ≤ 2 ^ 32 := Nat.pow_le_pow_right (by decide) h
  rw [Nat.pow_succ] at hpow
  apply UInt32.toNat_inj.1
  rw [UInt32.toNat_or, toNat_bit h]
  simp only [stepsIndex, List.map_cons, List.reverse_cons, sidesToNat_concat,
    List.length_reverse, List.length_map, Bool.toNat_true, Nat.one_mul]
  rw [UInt32.toNat_ofNat_of_lt' (Nat.lt_of_lt_of_le (by omega) hpow),
    UInt32.toNat_ofNat_of_lt' (Nat.lt_of_lt_of_le (by omega) hpow),
    Nat.or_two_pow_eq_add_of_lt hlt]

theorem sidesOfNat_concat (count v : Nat) :
    sidesOfNat (count + 1) v = sidesOfNat count v ++ [v / 2 ^ count % 2 == 1] := by
  induction count generalizing v with
  | zero => simp [sidesOfNat]
  | succ count ih =>
      rw [sidesOfNat, ih, sidesOfNat, List.cons_append, Nat.div_div_eq_div_mul, Nat.pow_succ']

theorem isSetAt?_eq (index : UInt32) {place : Nat} (h : place < 32) :
    isSetAt? index place = some (index.toNat / 2 ^ place % 2 == 1) := by
  have hplace : (UInt32.ofNat place).toNat = place :=
    UInt32.toNat_ofNat_of_lt' (Nat.lt_trans h (by decide))
  have hbit : ((index >>> UInt32.ofNat place) &&& 1).toNat = index.toNat / 2 ^ place % 2 := by
    rw [UInt32.toNat_and, UInt32.toNat_shiftRight, hplace, Nat.mod_eq_of_lt h, UInt32.toNat_one,
      Nat.and_one_is_mod, Nat.shiftRight_eq_div_pow]
  rw [isSetAt?, if_pos h, ← hbit]
  congr 1
  rw [Bool.eq_iff_iff, beq_iff_eq, beq_iff_eq, ← UInt32.toNat_inj, UInt32.toNat_one]

/-! ### The same proofs and the same roots -/

theorem Tree.proofsByShifts?_eq (tree : Tree) (above : List Step)
    (h : above.length + tree.height ≤ 32) :
    tree.proofsByShifts? (stepsIndex above) (above.map Step.sibling) =
      some (tree.proofsBelow above) := by
  induction tree generalizing above with
  | leaf data => rfl
  | node left right ihl ihr =>
      rw [height] at h
      have hplace : above.length < 32 := by omega
      have hleft := ihl (⟨right.hash, false⟩ :: above) (by simp only [List.length_cons]; omega)
      have hright := ihr (⟨left.hash, true⟩ :: above) (by simp only [List.length_cons]; omega)
      rw [stepsIndex_left] at hleft
      rw [stepsIndex_right _ hplace] at hright
      simp only [List.map_cons] at hleft hright
      simp only [proofsByShifts?, hleft, bitAt?, List.length_map, if_pos hplace,
        Option.bind_eq_bind, Option.bind_some, hright, proofsBelow]
      rfl

theorem climbByShifts?_eq (index : UInt32) (hash : Digest) {siblings : List Digest}
    (h : siblings.length ≤ 32) :
    climbByShifts? index hash siblings = some (climb hash
      (siblings.zipWith Step.mk (sidesOfNat siblings.length index.toNat).reverse)) := by
  induction siblings generalizing hash with
  | nil => rfl
  | cons sibling siblings ih =>
      rw [List.length_cons] at h
      rw [climbByShifts?, isSetAt?_eq index (by omega), Option.bind_eq_bind, Option.bind_some,
        ih _ (by omega), List.length_cons, sidesOfNat_concat, List.reverse_append]
      rfl

theorem InclusionProof.rootByShifts?_eq {proof : InclusionProof}
    (h : proof.siblings.length ≤ 32) : proof.rootByShifts? = some proof.derivedRoot :=
  climbByShifts?_eq proof.index (leafHash proof.hash) h

end DidKeys.Merkle
