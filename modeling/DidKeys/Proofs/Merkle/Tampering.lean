import DidKeys.Proofs.Merkle.Soundness
import Mathlib.Data.List.Nodup

/-! # Proofs with another index

Whether a proof verifies depends on its index only as far as the index holds turns: one bit for each
sibling.  In a batch without repeated digests a proof that was given another index passes exactly if
these bits are the same, or two of the messages hashed for the tree and for the proof are a
collision (`verifies_with_index`).  The bits beyond the siblings are not looked at, so a proof can
be given another index and still pass (`verifies_with_unread_bit`). -/

namespace DidKeys.Merkle

/-- Only as many bits are read as are asked for. -/
theorem sidesOfNat_mod (count v : Nat) : sidesOfNat count (v % 2 ^ count) = sidesOfNat count v := by
  have hread := sidesOfNat_sidesToNat (sidesOfNat count v)
  rwa [length_sidesOfNat, sidesToNat_sidesOfNat] at hread

/-- Two numbers have the same lowest bits. -/
theorem sidesOfNat_eq_iff {count v w : Nat} :
    sidesOfNat count v = sidesOfNat count w ↔ v % 2 ^ count = w % 2 ^ count := by
  constructor
  · intro h
    rw [← sidesToNat_sidesOfNat, h, sidesToNat_sidesOfNat]
  · intro h
    rw [← sidesOfNat_mod, h, sidesOfNat_mod]

namespace InclusionProof

theorem steps_with_index_eq_iff (proof : InclusionProof) (index : UInt32) :
    { proof with index := index }.steps = proof.steps ↔
      index.toNat % 2 ^ proof.siblings.length =
        proof.index.toNat % 2 ^ proof.siblings.length := by
  rw [← sidesOfNat_eq_iff]
  constructor
  · intro h
    have hturns := congrArg (List.map Step.right) h
    rwa [map_right_steps, map_right_steps, List.reverse_inj] at hturns
  · intro h
    rw [steps, h, steps]

theorem verifies_with_index_of_steps {proof : InclusionProof} {index : UInt32}
    (h : { proof with index := index }.steps = proof.steps) (root : Digest) :
    { proof with index := index }.verifies root = proof.verifies root := by
  rw [verifies, derivedRoot, h, verifies, derivedRoot]

end InclusionProof

namespace Tree
variable {tree : Tree}

/-- Different digests are on different ways. -/
theorem steps_eq_of_mem_ways {data : Digest} {first second : List Step} (h : tree.leaves.Nodup)
    (hfirst : (data, first) ∈ tree.ways) (hsecond : (data, second) ∈ tree.ways) :
    first = second := by
  rw [← map_fst_ways] at h
  exact (Prod.mk.inj (List.inj_on_of_nodup_map h hfirst hsecond rfl)).2

/-- A proof of a tree that an index can number holds one of its ways and no other bits. -/
theorem mem_ways_of_mem_proofs {proof : InclusionProof} (h : proof ∈ tree.proofs)
    (hheight : tree.height ≤ 32) :
    (proof.hash, proof.steps) ∈ tree.ways ∧
      proof.index.toNat < 2 ^ proof.siblings.length := by
  rw [proofs_eq, List.mem_map] at h
  obtain ⟨way, hway, rfl⟩ := h
  have hfits : way.2.length ≤ 32 := Nat.le_trans (length_le_height hway) hheight
  constructor
  · rw [InclusionProof.steps_ofSteps _ hfits]
    exact hway
  · rw [length_siblings_ofSteps, InclusionProof.toNat_index_ofSteps _ hfits]
    simpa using sidesToNat_lt (way.2.map Step.right).reverse

end Tree

/-- A proof from a batch of at most `2³⁰` different digests, with any other index: it verifies if
the bits that stand for its siblings are those of its own index, and if they are not, it is refused
or two of the messages hashed for the tree and for the proof are a collision. -/
theorem verifies_with_index {batch : List Digest} {result : Batch} {proof : InclusionProof}
    (hnodup : batch.Nodup) (hsize : batch.length ≤ 2 ^ 30) (hprove : prove batch = .ok result)
    (hproof : proof ∈ result.proofs) :
    ∃ tree, Tree.ofDigests? batch = some tree ∧
      proof.index.toNat < 2 ^ proof.siblings.length ∧
      ∀ index : UInt32,
        (index.toNat % 2 ^ proof.siblings.length = proof.index.toNat →
          { proof with index := index }.verifies result.root = true) ∧
        (index.toNat % 2 ^ proof.siblings.length ≠ proof.index.toNat →
          { proof with index := index }.verifies result.root = false ∨
            Collision (tree.messages ++ { proof with index := index }.messages)) := by
  have hne : batch ≠ [] := by
    rintro rfl
    simp [prove, Tree.ofDigests?, Tree.ofLevel?] at hprove
  obtain ⟨tree, htree⟩ := Tree.exists_ofDigests? hne
  rw [prove_eq htree, Except.ok.injEq] at hprove
  subst hprove
  have hheight : tree.height ≤ InclusionProof.maxLength :=
    Nat.le_trans (Tree.height_ofDigests?_le htree) ((Nat.clog_le_iff_le_pow (by decide)).2 hsize)
  obtain ⟨hway, hindex⟩ :=
    Tree.mem_ways_of_mem_proofs hproof (Nat.le_trans hheight (by decide))
  have hturns := proof.steps_with_index_eq_iff
  rw [Nat.mod_eq_of_lt hindex] at hturns
  refine ⟨tree, htree, hindex, fun index => ⟨fun hsame => ?_, fun hother => ?_⟩⟩
  · rw [InclusionProof.verifies_with_index_of_steps ((hturns index).2 hsame)]
    exact Tree.verifies_of_mem_proofs hproof hheight
  · cases hverdict : { proof with index := index }.verifies tree.hash with
    | false => exact .inl rfl
    | true =>
        obtain ⟨_, hclimb⟩ := (InclusionProof.verifies_iff _ _).1 hverdict
        rcases Tree.mem_ways_of_climb hclimb with hway' | hcol
        · -- the digest has one way only, so the turns have not changed
          rw [← Tree.leaves_ofDigests? htree] at hnodup
          have hsteps := Tree.steps_eq_of_mem_ways hnodup hway' hway
          exact absurd ((hturns index).1 hsteps) hother
        · exact .inr hcol

/-- The proof of the second of three digests has index 2 and two siblings; it passes with index 6
too, and with index 3 only by a collision. -/
theorem verifies_with_index_six :
    let batch := [repeatedDigest 1, repeatedDigest 2, repeatedDigest 3]
    let proof : InclusionProof :=
      ⟨repeatedDigest 2, 2, [leafHash (repeatedDigest 1), leafHash (repeatedDigest 3)]⟩
    batch.Nodup ∧ batch.length ≤ 2 ^ 30 ∧
      ∃ tree result, Tree.ofDigests? batch = some tree ∧ prove batch = .ok result ∧
        proof ∈ result.proofs ∧ { proof with index := 6 }.verifies result.root = true ∧
        ({ proof with index := 3 }.verifies result.root = false ∨
          Collision (tree.messages ++ { proof with index := 3 }.messages)) := by
  intro batch proof
  have hnodup : batch.Nodup := by decide
  have hsize : batch.length ≤ 2 ^ 30 := by decide
  have htree : Tree.ofDigests? batch = some (.node (.node (.leaf (repeatedDigest 1))
      (.leaf (repeatedDigest 2))) (.leaf (repeatedDigest 3))) := by
    simp [batch, Tree.ofDigests?, Tree.ofLevel?, Tree.pairUp]
  have hprove := prove_eq htree
  have hproof : proof ∈ Tree.proofs (.node (.node (.leaf (repeatedDigest 1))
      (.leaf (repeatedDigest 2))) (.leaf (repeatedDigest 3))) :=
    List.mem_of_getElem? (i := 1) rfl
  obtain ⟨tree, htree', _, hall⟩ := verifies_with_index hnodup hsize hprove hproof
  exact ⟨hnodup, hsize, tree, _, htree', hprove, hproof, (hall 6).1 (by decide),
    (hall 3).2 (by decide)⟩

/-- The proof of a single digest has no siblings, so any index will do: nothing but the one message
of that leaf is hashed, and there is no collision. -/
theorem verifies_with_unread_bit :
    let data := repeatedDigest 1
    let proof : InclusionProof := ⟨data, 0, []⟩
    let altered : InclusionProof := { proof with index := 1 }
    [data].Nodup ∧ [data].length ≤ 2 ^ 30 ∧
      ∃ tree result, Tree.ofDigests? [data] = some tree ∧ prove [data] = .ok result ∧
        proof ∈ result.proofs ∧ altered.index ≠ proof.index ∧
        altered.verifies result.root = true ∧ ¬ Collision (tree.messages ++ altered.messages) := by
  intro data proof altered
  have htree : Tree.ofDigests? [data] = some (.leaf data) := by
    simp [Tree.ofDigests?, Tree.ofLevel?]
  refine ⟨List.nodup_singleton _, by decide, _, _, htree, prove_eq htree,
    List.mem_singleton.2 rfl, by decide, ?_, ?_⟩
  · exact (InclusionProof.verifies_iff _ _).2 ⟨by decide, rfl⟩
  · rintro ⟨first, hfirst, second, hsecond, hne, _⟩
    have hall : ∀ message ∈ [leafMessage data, leafMessage data], message = leafMessage data := by
      simp
    exact hne ((hall first hfirst).trans (hall second hsecond).symm)

end DidKeys.Merkle
