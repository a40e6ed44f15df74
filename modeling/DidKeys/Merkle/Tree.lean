import DidKeys.Hash.Digest

/-! # Merkle trees

Leaves stand side by side in the order of the batch.  They are paired from left to right, level by
level, and an odd one at the end of a level is carried up as it is.

* `leafHash` and `nodeHash` hash what stands behind different first bytes, so a leaf is never read
  as a node.
* `Tree.ofDigests?` is the tree over a batch, `Tree.hash` its root.
* `Tree.leaves_ofDigests?`: the leaves are the batch. -/

namespace DidKeys.Merkle

/-- The hash of a leaf. -/
def leafHash (data : Digest) : Digest := sha256 (0 :: data.bytes)

/-- The hash of a node above two hashes. -/
def nodeHash (left right : Digest) : Digest := sha256 (1 :: (left.bytes ++ right.bytes))

/-- A tree of digests. -/
inductive Tree where
  | leaf (data : Digest)
  | node (left right : Tree)
  deriving DecidableEq, Repr

namespace Tree

/-- The hash at the top of a tree. -/
def hash : Tree → Digest
  | leaf data => leafHash data
  | node left right => nodeHash left.hash right.hash

/-- The digests at the leaves, from left to right. -/
def leaves : Tree → List Digest
  | leaf data => [data]
  | node left right => left.leaves ++ right.leaves

/-- The level above a level. -/
def pairUp : List Tree → List Tree
  | left :: right :: trees => node left right :: pairUp trees
  | trees => trees

theorem length_pairUp (level : List Tree) : (pairUp level).length = (level.length + 1) / 2 := by
  fun_induction pairUp level with
  | case1 left right trees ih => simp [ih]; omega
  | case2 trees h =>
    match trees with
    | [] => rfl
    | [_] => simp
    | left :: right :: trees => exact absurd rfl (h left right trees)

/-- The tree above a level. -/
def ofLevel? : List Tree → Option Tree
  | [] => none
  | [tree] => some tree
  | left :: right :: trees => ofLevel? (node left right :: pairUp trees)
termination_by level => level.length
decreasing_by
  have h := length_pairUp trees
  simp only [List.length_cons, h]
  omega

/-- The tree over a batch. -/
def ofDigests? (batch : List Digest) : Option Tree := ofLevel? (batch.map leaf)

/-! ### The leaves of a batch -/

theorem leaves_pairUp (level : List Tree) :
    (pairUp level).flatMap leaves = level.flatMap leaves := by
  fun_induction pairUp level with
  | case1 left right trees ih => simp [leaves, ih]
  | case2 => rfl

theorem leaves_ofLevel? {level : List Tree} {tree : Tree} (h : ofLevel? level = some tree) :
    tree.leaves = level.flatMap leaves := by
  fun_induction ofLevel? level with
  | case1 => simp at h
  | case2 t => simp_all
  | case3 left right trees ih => rw [ih h]; simp [leaves, leaves_pairUp]

theorem flatMap_leaves_leaf (batch : List Digest) : (batch.map leaf).flatMap leaves = batch := by
  induction batch with
  | nil => rfl
  | cons d batch ih => exact congrArg (d :: ·) ih

theorem leaves_ofDigests? {batch : List Digest} {tree : Tree} (h : ofDigests? batch = some tree) :
    tree.leaves = batch := by
  rw [leaves_ofLevel? h, flatMap_leaves_leaf]

end Tree
end DidKeys.Merkle
