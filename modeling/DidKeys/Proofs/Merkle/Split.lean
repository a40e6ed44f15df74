import DidKeys.Proofs.Merkle.Completeness
import Mathlib.Order.Bounds.Basic

/-! # The tree of a batch splits it

A tree is built from the leaves up, by pairing.  The same tree can be read from the top down: a
batch of two digests or more is cut behind the largest power of two below its length, and so are
both parts (`splitSize`).  `splitRoot` and `auditPath` hash a batch that way: they know no tree and
say byte by byte what is hashed.

In a level that was reached by pairing `depth` times, every tree but the last has `2 ^ depth`
leaves, and the last one has no more (`Tree.IsLevel`).  Pairing keeps that one depth up
(`Tree.IsLevel.pairUp`), and a node above a full tree and one that is not larger cuts its leaves at
a power of two; so the tree of a batch cuts everywhere where the batch is cut
(`Tree.isSplit_ofDigests?`).  Root and siblings follow by induction on the tree
(`prove_eq_split`). -/

namespace DidKeys.Merkle

/-! ### Where a batch is cut -/

/-- The number of digests in front of the cut. -/
def splitSize (count : Nat) : Nat := 2 ^ Nat.log 2 (count - 1)

theorem splitSize_pos (count : Nat) : 0 < splitSize count := Nat.two_pow_pos _

theorem splitSize_lt {count : Nat} (h : 2 ≤ count) : splitSize count < count := by
  have hle := Nat.pow_log_le_self 2 (x := count - 1) (by omega)
  rw [splitSize]
  omega

/-- The cut is behind the largest power of two below the length. -/
theorem isGreatest_splitSize {count : Nat} (h : 2 ≤ count) :
    IsGreatest {size | (∃ k, size = 2 ^ k) ∧ size < count} (splitSize count) := by
  refine ⟨⟨⟨_, rfl⟩, splitSize_lt h⟩, ?_⟩
  rintro _ ⟨⟨k, rfl⟩, hlt⟩
  exact Nat.pow_le_pow_right (by decide) (Nat.le_log_of_pow_le (by decide) (by omega))

/-- A power of two and no more than that are cut between both. -/
theorem splitSize_two_pow_add {depth rest : Nat} (hpos : 0 < rest) (hle : rest ≤ 2 ^ depth) :
    splitSize (2 ^ depth + rest) = 2 ^ depth := by
  have hpow := Nat.two_pow_pos depth
  refine (isGreatest_splitSize (by omega)).unique ⟨⟨⟨depth, rfl⟩, by omega⟩, ?_⟩
  rintro _ ⟨⟨k, rfl⟩, hlt⟩
  have hdepth : k < depth + 1 := by
    rw [← Nat.pow_lt_pow_iff_right (a := 2) (by decide), Nat.pow_succ]
    omega
  exact Nat.pow_le_pow_right (by decide) (Nat.le_of_lt_succ hdepth)

/-! ### Hashing by cuts -/

/-- The root of a batch, from the top down.  A zero byte stands in front of a digest that is hashed
alone, and a one in front of two roots.  No digests have the hash of no bytes. -/
def splitRoot (batch : List Digest) : Digest :=
  match batch with
  | [] => sha256 []
  | [data] => sha256 (0x00 :: data.bytes)
  | first :: second :: rest =>
    let size := splitSize (rest.length + 2)
    sha256 (0x01 :: ((splitRoot ((first :: second :: rest).take size)).bytes ++
      (splitRoot ((first :: second :: rest).drop size)).bytes))
termination_by batch.length
decreasing_by
  · have hsize : splitSize (rest.length + 2) < rest.length + 2 := splitSize_lt (by omega)
    simp only [List.length_take, List.length_cons]
    omega
  · have hpos := splitSize_pos (rest.length + 2)
    simp only [List.length_drop, List.length_cons]
    omega

/-- The siblings of the digest at a position, the lowest one first: those in its own part, and then
the root of the other part. -/
def auditPath (position : Nat) (batch : List Digest) : List Digest :=
  if batch.length < 2 then []
  else
    let size := splitSize batch.length
    if position < size then auditPath position (batch.take size) ++ [splitRoot (batch.drop size)]
    else auditPath (position - size) (batch.drop size) ++ [splitRoot (batch.take size)]
termination_by batch.length
decreasing_by
  · have hsize : splitSize batch.length < batch.length := splitSize_lt (by omega)
    simp only [List.length_take]
    omega
  · have hpos := splitSize_pos batch.length
    simp only [List.length_drop]
    omega

section parts
variable {left right : List Digest}

theorem splitRoot_append (hright : right ≠ [])
    (hcut : left.length = splitSize (left.length + right.length)) :
    splitRoot (left ++ right) =
      sha256 (0x01 :: ((splitRoot left).bytes ++ (splitRoot right).bytes)) := by
  have hpos := splitSize_pos (left.length + right.length)
  have hpos' := List.length_pos_iff.2 hright
  have hlen : (left ++ right).length = left.length + right.length := List.length_append
  match hall : left ++ right with
  | [] => simp [hall] at hlen; omega
  | [data] => simp [hall] at hlen; omega
  | first :: second :: rest =>
      have hsize : splitSize (rest.length + 2) = left.length := by
        rw [hall] at hlen
        rw [hcut, ← hlen]
        rfl
      rw [splitRoot, hsize, ← hall, List.take_left, List.drop_left]

theorem auditPath_append (position : Nat) (hright : right ≠ [])
    (hcut : left.length = splitSize (left.length + right.length)) :
    auditPath position (left ++ right) =
      if position < left.length then auditPath position left ++ [splitRoot right]
      else auditPath (position - left.length) right ++ [splitRoot left] := by
  have hpos := splitSize_pos (left.length + right.length)
  have hpos' := List.length_pos_iff.2 hright
  rw [auditPath, List.length_append, if_neg (by omega), ← hcut]
  dsimp only
  rw [List.take_left, List.drop_left]

end parts

namespace Tree

/-! ### Trees that are cut there -/

theorem leaves_ne_nil (tree : Tree) : tree.leaves ≠ [] := by
  induction tree with
  | leaf data => exact List.cons_ne_nil _ _
  | node left right ihl _ => exact List.append_ne_nil_of_left_ne_nil ihl _

theorem length_leaves_pos (tree : Tree) : 0 < tree.leaves.length :=
  List.length_pos_iff.2 tree.leaves_ne_nil

/-- Every node has its leaves cut where a batch of them is. -/
def IsSplit : Tree → Prop
  | leaf _ => True
  | node left right =>
    left.IsSplit ∧ right.IsSplit ∧
      left.leaves.length = splitSize (left.leaves.length + right.leaves.length)

/-- The trees of a level: all are cut right, all but the last have `2 ^ depth` leaves and the last
one no more. -/
inductive IsLevel (depth : Nat) : List Tree → Prop
  | last {tree : Tree} : tree.IsSplit → tree.leaves.length ≤ 2 ^ depth → IsLevel depth [tree]
  | cons {tree : Tree} {trees : List Tree} : tree.IsSplit → tree.leaves.length = 2 ^ depth →
      IsLevel depth trees → IsLevel depth (tree :: trees)

theorem isSplit_node {left right : Tree} {depth : Nat} (hleft : left.IsSplit)
    (hright : right.IsSplit) (hfull : left.leaves.length = 2 ^ depth)
    (hle : right.leaves.length ≤ 2 ^ depth) : (node left right).IsSplit := by
  refine ⟨hleft, hright, ?_⟩
  rw [hfull, splitSize_two_pow_add right.length_leaves_pos hle]

theorem length_leaves_node (left right : Tree) :
    (node left right).leaves.length = left.leaves.length + right.leaves.length :=
  List.length_append

/-- The level above a level. -/
theorem IsLevel.pairUp {level : List Tree} {depth : Nat} (h : IsLevel depth level) :
    IsLevel (depth + 1) (Tree.pairUp level) := by
  have hdouble : 2 ^ (depth + 1) = 2 ^ depth + 2 ^ depth := by rw [Nat.pow_succ, Nat.mul_two]
  fun_induction Tree.pairUp level with
  | case1 left right trees ih =>
      cases h with
      | cons hleft hfull htail =>
          cases htail with
          | last hright hle =>
              -- nothing is left behind this pair, so its node may be smaller than full
              refine .last (isSplit_node hleft hright hfull hle) ?_
              rw [length_leaves_node]
              omega
          | cons hright hfull' htrees =>
              refine .cons (isSplit_node hleft hright hfull hfull'.le) ?_ (ih htrees)
              rw [length_leaves_node]
              omega
  | case2 trees hodd =>
      cases h with
      | last htree hle =>
          -- carried up as it is, the odd tree has fewer leaves than the next level allows
          exact .last htree (by omega)
      | @cons first trees _ _ htrees =>
          cases htrees with
          | last => exact absurd rfl (hodd _ _ _)
          | cons => exact absurd rfl (hodd _ _ _)

theorem IsLevel.isSplit {level : List Tree} {depth : Nat} {tree : Tree} (h : IsLevel depth level)
    (htree : ofLevel? level = some tree) : tree.IsSplit := by
  fun_induction ofLevel? level generalizing depth with
  | case1 => cases h
  | case2 t =>
      obtain rfl : t = tree := by simpa using htree
      cases h with
      | last hsplit _ => exact hsplit
      | cons hsplit _ _ => exact hsplit
  | case3 left right trees ih => exact ih h.pairUp htree

theorem isLevel_leaves {batch : List Digest} (h : batch ≠ []) : IsLevel 0 (batch.map leaf) := by
  induction batch with
  | nil => exact absurd rfl h
  | cons data batch ih =>
      cases batch with
      | nil => exact .last trivial (Nat.le_refl 1)
      | cons next rest => exact .cons trivial rfl (ih (List.cons_ne_nil _ _))

/-- The tree of a batch cuts it like `splitSize`. -/
theorem isSplit_ofDigests? {batch : List Digest} {tree : Tree}
    (h : ofDigests? batch = some tree) : tree.IsSplit := by
  have hne : batch ≠ [] := by
    rintro rfl
    simp [ofDigests?, ofLevel?] at h
  exact (isLevel_leaves hne).isSplit h

/-! ### The same root and the same siblings -/

theorem hash_eq_splitRoot {tree : Tree} (h : tree.IsSplit) : tree.hash = splitRoot tree.leaves := by
  induction tree with
  | leaf data => rw [leaves, splitRoot, hash, leafHash]
  | node left right ihl ihr =>
      obtain ⟨hleft, hright, hcut⟩ := h
      rw [hash, leaves, splitRoot_append right.leaves_ne_nil hcut, nodeHash, ihl hleft, ihr hright]

/-- The way of a position leads through the part that the position is in. -/
theorem getElem?_ways_node (left right : Tree) (position : Nat) :
    (node left right).ways[position]? =
      if position < left.leaves.length then
        left.ways[position]?.map (extendWay ⟨right.hash, false⟩)
      else
        right.ways[position - left.leaves.length]?.map (extendWay ⟨left.hash, true⟩) := by
  rw [ways, List.getElem?_append, List.length_map, length_ways, List.getElem?_map,
    List.getElem?_map]

theorem map_sibling_of_getElem?_ways {tree : Tree} {position : Nat} {way : Digest × List Step}
    (h : tree.IsSplit) (hway : tree.ways[position]? = some way) :
    way.2.map Step.sibling = auditPath position tree.leaves := by
  induction tree generalizing position way with
  | leaf data =>
      obtain ⟨_, rfl⟩ := List.getElem?_eq_some_iff.1 hway
      simp [ways, leaves, auditPath]
  | node left right ihl ihr =>
      obtain ⟨hleft, hright, hcut⟩ := h
      rw [leaves, auditPath_append position right.leaves_ne_nil hcut]
      rw [getElem?_ways_node] at hway
      split at hway
      · next hlt =>
        obtain ⟨lower, hlower, rfl⟩ := Option.map_eq_some_iff.1 hway
        rw [if_pos hlt, extendWay, List.map_append, ihl hleft hlower, List.map_singleton,
          hash_eq_splitRoot hright]
      · next hge =>
        obtain ⟨lower, hlower, rfl⟩ := Option.map_eq_some_iff.1 hway
        rw [if_neg hge, extendWay, List.map_append, ihr hright hlower, List.map_singleton,
          hash_eq_splitRoot hleft]

end Tree

/-- A batch that is not empty has the root that it has by cuts at the largest powers of two, and
the siblings of each digest are those on the way up through the cuts. -/
theorem prove_eq_split {batch : List Digest} (hne : batch ≠ []) :
    ∃ result, prove batch = .ok result ∧ result.root = splitRoot batch ∧
      result.proofs.length = batch.length ∧
      ∀ position proof, result.proofs[position]? = some proof →
        proof.siblings = auditPath position batch := by
  obtain ⟨tree, htree⟩ := Tree.exists_ofDigests? hne
  have hsplit := Tree.isSplit_ofDigests? htree
  have hleaves := Tree.leaves_ofDigests? htree
  refine ⟨⟨tree.hash, tree.proofs⟩, prove_eq htree, ?_, ?_, ?_⟩
  · rw [← hleaves]
    exact Tree.hash_eq_splitRoot hsplit
  · rw [Tree.length_proofs, hleaves]
  · intro position proof hproof
    obtain ⟨way, hway, rfl⟩ := Tree.getElem?_proofs_eq_some_iff.1 hproof
    rw [← hleaves]
    exact Tree.map_sibling_of_getElem?_ways hsplit hway

/-- Five digests are cut behind the fourth; the fifth was carried up twice and has one sibling. -/
theorem prove_eq_split_five :
    let one := repeatedDigest 1
    let two := repeatedDigest 2
    let leaf := fun data : Digest => sha256 (0x00 :: data.bytes)
    let node := fun left right : Digest => sha256 (0x01 :: (left.bytes ++ right.bytes))
    let four := node (node (leaf one) (leaf two)) (node (leaf one) (leaf two))
    [one, two, one, two, one] ≠ [] ∧
      ∃ result, prove [one, two, one, two, one] = .ok result ∧
        result.root = node four (leaf one) ∧
        ∃ proof, result.proofs[4]? = some proof ∧ proof.siblings = [four] := by
  intro one two leaf node four
  have hne : [one, two, one, two, one] ≠ [] := List.cons_ne_nil _ _
  have hsingle : ∀ data, splitRoot [data] = leaf data := fun data => by rw [splitRoot]
  have htwo : splitRoot ([one] ++ [two]) = node (leaf one) (leaf two) := by
    rw [splitRoot_append (List.cons_ne_nil _ _) (by decide), hsingle, hsingle]
  have hfour : splitRoot ([one, two] ++ [one, two]) = four := by
    rw [splitRoot_append (List.cons_ne_nil _ _) (by decide)]
    exact congrArg₂ node htwo htwo
  have hroot : splitRoot ([one, two, one, two] ++ [one]) = node four (leaf one) := by
    rw [splitRoot_append (List.cons_ne_nil _ _) (by decide), hsingle]
    exact congrArg (node · (leaf one)) hfour
  have hpath : auditPath 4 ([one, two, one, two] ++ [one]) = [four] := by
    rw [auditPath_append 4 (List.cons_ne_nil _ _) (by decide), if_neg (by decide), auditPath,
      if_pos (by decide)]
    exact congrArg (fun root => [root]) hfour
  obtain ⟨result, hprove, hsplit, hlen, hpaths⟩ := prove_eq_split hne
  have hlast : 4 < result.proofs.length := by
    rw [hlen]
    decide
  have hproof := List.getElem?_eq_getElem hlast
  exact ⟨hne, result, hprove, hsplit.trans hroot, _, hproof, (hpaths 4 _ hproof).trans hpath⟩

end DidKeys.Merkle
