import DidKeys.Merkle.Tree

/-! # Inclusion proofs

A proof says that a digest is a leaf: it holds the sibling hashes on the way up, the lowest one
first, and a number whose bits say on which side the leaf is, the top level first.

* `steps` puts each sibling beside its side; `climb` hashes the way up.
* `ofSteps` is the proof that some steps make.
* `Tree.proofs` are the proofs of all leaves, in order; `prove` builds the tree first.
* `verifies` looks at the number of siblings and at the root, and at nothing else. -/

namespace DidKeys.Merkle

/-- A level of a way up: the sibling, and whether the leaf is on the right of it. -/
structure Step where
  sibling : Digest
  right : Bool
  deriving DecidableEq, Repr

/-- The hash one level up. -/
def Step.apply (hash : Digest) (step : Step) : Digest :=
  if step.right then nodeHash step.sibling hash else nodeHash hash step.sibling

/-- The hash at the end of a way up, the lowest step first. -/
def climb (hash : Digest) (steps : List Step) : Digest := steps.foldl Step.apply hash

/-! ### Sides as a number -/

/-- The number whose lowest bit is the first side. -/
def sidesToNat : List Bool → Nat
  | [] => 0
  | side :: sides => side.toNat + 2 * sidesToNat sides

/-- The lowest bits of a number, the lowest one first. -/
def sidesOfNat : (count : Nat) → Nat → List Bool
  | 0, _ => []
  | count + 1, v => (v % 2 == 1) :: sidesOfNat count (v / 2)

@[simp] theorem length_sidesOfNat (count v : Nat) : (sidesOfNat count v).length = count := by
  induction count generalizing v with
  | zero => rfl
  | succ count ih => simp [sidesOfNat, ih]

@[simp] theorem sidesOfNat_sidesToNat (sides : List Bool) :
    sidesOfNat sides.length (sidesToNat sides) = sides := by
  induction sides with
  | nil => rfl
  | cons side sides ih =>
    have hdiv : (side.toNat + 2 * sidesToNat sides) / 2 = sidesToNat sides := by
      cases side <;> simp only [Bool.toNat_true, Bool.toNat_false] <;> omega
    have hmod : (side.toNat + 2 * sidesToNat sides) % 2 = side.toNat := by
      cases side <;> simp only [Bool.toNat_true, Bool.toNat_false] <;> omega
    simp only [sidesToNat, List.length_cons, sidesOfNat, hdiv, hmod, ih]
    cases side <;> rfl

/-! ### Proofs -/

/-- A proof that a digest is a leaf under some root. -/
structure InclusionProof where
  hash : Digest
  index : UInt32
  siblings : List Digest
  deriving DecidableEq, Repr

namespace InclusionProof

/-- The most siblings of a proof that is looked at. -/
def maxLength : Nat := 30

/-- The siblings with their sides, the lowest one first. -/
def steps (proof : InclusionProof) : List Step :=
  proof.siblings.zipWith Step.mk (sidesOfNat proof.siblings.length proof.index.toNat).reverse

/-- The proof for a leaf that some steps make. -/
def ofSteps (hash : Digest) (steps : List Step) : InclusionProof where
  hash := hash
  index := UInt32.ofNat (sidesToNat (steps.map Step.right).reverse)
  siblings := steps.map Step.sibling

/-- The root that a proof leads to, which need not be the one that is trusted. -/
def derivedRoot (proof : InclusionProof) : Digest := climb (leafHash proof.hash) proof.steps

/-- Whether a proof leads to a root. -/
def verifies (proof : InclusionProof) (root : Digest) : Bool :=
  proof.siblings.length ≤ maxLength && proof.derivedRoot == root

end InclusionProof

/-- The proofs of all leaves of a tree, from left to right; `above` are the steps from its top on,
the lowest one first. -/
def Tree.proofsBelow (above : List Step) : Tree → List InclusionProof
  | .leaf data => [.ofSteps data above]
  | .node left right =>
    left.proofsBelow (⟨right.hash, false⟩ :: above) ++
      right.proofsBelow (⟨left.hash, true⟩ :: above)

/-- The proofs of all leaves of a tree, from left to right. -/
def Tree.proofs (tree : Tree) : List InclusionProof := tree.proofsBelow []

/-- A root with the proofs of all leaves below it. -/
structure Batch where
  root : Digest
  proofs : List InclusionProof
  deriving DecidableEq, Repr

/-- Why there is no tree, or no proof. -/
inductive MerkleError where
  /-- A batch has no leaves. -/
  | noLeaves
  /-- A text is no record of a proof. -/
  | badRecord
  /-- A digest in a record is not hexadecimal. -/
  | badDigest (cause : Hex.Error)
  deriving DecidableEq, Repr

/-- The text of a cause. -/
def MerkleError.message : MerkleError → String
  | .noLeaves => "cannot build a Merkle tree without leaves"
  | .badRecord => "invalid Merkle inclusion proof: json"
  | .badDigest cause => "invalid Merkle inclusion proof: " ++ cause.message

/-- The root and the proofs of a batch. -/
def prove (batch : List Digest) : Except MerkleError Batch :=
  match Tree.ofDigests? batch with
  | some tree => .ok ⟨tree.hash, tree.proofs⟩
  | none => .error .noLeaves

end DidKeys.Merkle
