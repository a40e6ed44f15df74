import DidKeys.Proofs.Merkle.Shifts

/-! # Every leaf has its proof

A batch that an index can number has one proof for each digest, in order, and each of them leads to
the root (`prove_complete`).  A proof has no more siblings than the binary logarithm of the number
of digests, rounded up, and the first proof has exactly that many; so all proofs pass `verifies` up
to `2³⁰` digests and not beyond. -/

namespace DidKeys.Merkle

theorem prove_eq {batch : List Digest} {tree : Tree} (h : Tree.ofDigests? batch = some tree) :
    prove batch = .ok ⟨tree.hash, tree.proofs⟩ := by
  rw [prove, h]

namespace Tree

/-- The way of the digest at a position. -/
theorem exists_way_getElem? {tree : Tree} {j : Nat} {digest : Digest}
    (h : tree.leaves[j]? = some digest) :
    ∃ way ∈ tree.ways, tree.ways[j]? = some way ∧ way.1 = digest := by
  rw [← map_fst_ways, List.getElem?_map] at h
  obtain ⟨way, hway, hdigest⟩ := Option.map_eq_some_iff.1 h
  exact ⟨way, List.mem_of_getElem? hway, hway, hdigest⟩

theorem derivedRoot_of_mem_ways {tree : Tree} {way : Digest × List Step} (hway : way ∈ tree.ways)
    (h : tree.height ≤ 32) :
    (InclusionProof.ofSteps way.1 way.2).derivedRoot = tree.hash := by
  have hlen := length_le_height hway
  rw [InclusionProof.derivedRoot, InclusionProof.steps_ofSteps _ (by omega)]
  exact climb_of_mem_ways hway

theorem length_siblings_ofSteps (hash : Digest) (steps : List Step) :
    (InclusionProof.ofSteps hash steps).siblings.length = steps.length := by
  simp [InclusionProof.ofSteps]

/-- The proofs of a tree that an index can number all pass, as long as none is too long. -/
theorem verifies_of_mem_proofs {tree : Tree} {proof : InclusionProof} (hproof : proof ∈ tree.proofs)
    (h : tree.height ≤ InclusionProof.maxLength) : proof.verifies tree.hash = true := by
  rw [proofs_eq, List.mem_map] at hproof
  obtain ⟨way, hway, rfl⟩ := hproof
  have hlen := length_le_height hway
  have hroot := derivedRoot_of_mem_ways hway (Nat.le_trans h (by decide))
  rw [InclusionProof.verifies, length_siblings_ofSteps, hroot, beq_self_eq_true, Bool.and_true,
    decide_eq_true_eq]
  omega

/-- The first proof has one sibling for each level. -/
theorem exists_head_proofs (tree : Tree) :
    ∃ proof ∈ tree.proofs, tree.proofs[0]? = some proof ∧
      proof.siblings.length = tree.leftDepth := by
  obtain ⟨way, hhead, hlen⟩ := exists_head?_ways tree
  rw [List.head?_eq_getElem?] at hhead
  refine ⟨.ofSteps way.1 way.2, ?_, ?_, ?_⟩
  · rw [proofs_eq]
    exact List.mem_map_of_mem (List.mem_of_getElem? hhead)
  · rw [proofs_eq, List.getElem?_map, hhead, Option.map_some]
  · rw [length_siblings_ofSteps, hlen]

theorem proofsByShifts?_zero {tree : Tree} (h : tree.height ≤ 32) :
    tree.proofsByShifts? 0 [] = some tree.proofs :=
  proofsByShifts?_eq tree [] (by simpa using h)

end Tree

/-- A batch of at most `2³²` digests has a root and one proof for each digest, in order.  Each proof
is of its digest, leads to the root, and has at most `⌈log₂ n⌉` siblings, the first one exactly that
many; building them by shifts and climbing them by shifts never shifts by 32 places or more, and
gives the same proofs and the same root.  All of them verify exactly up to `2³⁰` digests. -/
theorem prove_complete {batch : List Digest} (hne : batch ≠ []) (hsize : batch.length ≤ 2 ^ 32) :
    ∃ tree result, Tree.ofDigests? batch = some tree ∧ prove batch = .ok result ∧
      result.root = tree.hash ∧ tree.proofsByShifts? 0 [] = some result.proofs ∧
      result.proofs.length = batch.length ∧
      (∀ j digest, batch[j]? = some digest → ∃ proof, result.proofs[j]? = some proof ∧
        proof.hash = digest ∧ proof.derivedRoot = result.root ∧
        proof.rootByShifts? = some result.root ∧
        proof.siblings.length ≤ Nat.clog 2 batch.length ∧
        (j = 0 → proof.siblings.length = Nat.clog 2 batch.length)) ∧
      ((∀ proof ∈ result.proofs, proof.verifies result.root = true) ↔ batch.length ≤ 2 ^ 30) := by
  obtain ⟨tree, htree⟩ := Tree.exists_ofDigests? hne
  have hheight := Tree.height_ofDigests?_le htree
  have hleft := Tree.leftDepth_ofDigests? htree
  have hleaves := Tree.leaves_ofDigests? htree
  have hlog : Nat.clog 2 batch.length ≤ 32 := (Nat.clog_le_iff_le_pow (by decide)).2 hsize
  have hfits : tree.height ≤ 32 := Nat.le_trans hheight hlog
  obtain ⟨first, hfirst, hfirst0, hfirstLen⟩ := Tree.exists_head_proofs tree
  refine ⟨tree, ⟨tree.hash, tree.proofs⟩, htree, prove_eq htree, rfl,
    Tree.proofsByShifts?_zero hfits, ?_, ?_, ?_⟩
  · rw [Tree.proofs_eq, List.length_map, Tree.length_ways, hleaves]
  · intro j digest hj
    rw [← hleaves] at hj
    obtain ⟨way, hmem, hway, rfl⟩ := Tree.exists_way_getElem? hj
    have hlen := Tree.length_le_height hmem
    have hroot := Tree.derivedRoot_of_mem_ways hmem hfits
    have hproof : tree.proofs[j]? = some (.ofSteps way.1 way.2) := by
      rw [Tree.proofs_eq, List.getElem?_map, hway, Option.map_some]
    refine ⟨.ofSteps way.1 way.2, hproof, rfl, hroot, ?_, ?_, ?_⟩
    · rw [InclusionProof.rootByShifts?_eq (by rw [Tree.length_siblings_ofSteps]; omega), hroot]
    · rw [Tree.length_siblings_ofSteps]
      omega
    · rintro rfl
      rw [hfirst0, Option.some.injEq] at hproof
      rw [← hproof, hfirstLen, hleft]
  · constructor
    · intro hall
      have hpass := hall first hfirst
      rw [InclusionProof.verifies, Bool.and_eq_true, decide_eq_true_eq, hfirstLen, hleft] at hpass
      exact (Nat.clog_le_iff_le_pow (by decide)).1 hpass.1
    · intro hsmall proof hproof
      refine Tree.verifies_of_mem_proofs hproof (Nat.le_trans hheight ?_)
      exact (Nat.clog_le_iff_le_pow (by decide)).2 hsmall

/-- A digest of one byte, repeated. -/
def repeatedDigest (b : UInt8) : Digest := ⟨List.replicate 32 b, List.length_replicate⟩

/-- Three digests make a tree whose last leaf is carried up, and all three proofs verify. -/
theorem prove_complete_three :
    [repeatedDigest 1, repeatedDigest 2, repeatedDigest 3] ≠ [] ∧
      [repeatedDigest 1, repeatedDigest 2, repeatedDigest 3].length ≤ 2 ^ 32 ∧
      ∃ result, prove [repeatedDigest 1, repeatedDigest 2, repeatedDigest 3] = .ok result ∧
        result.proofs.length = 3 ∧ ∀ proof ∈ result.proofs, proof.verifies result.root = true := by
  have hne : [repeatedDigest 1, repeatedDigest 2, repeatedDigest 3] ≠ [] := by simp
  have hsize : [repeatedDigest 1, repeatedDigest 2, repeatedDigest 3].length ≤ 2 ^ 32 := by simp
  obtain ⟨_, result, _, hprove, _, _, hlen, _, hiff⟩ := prove_complete hne hsize
  exact ⟨hne, hsize, result, hprove, hlen, hiff.2 (by simp)⟩

end DidKeys.Merkle
