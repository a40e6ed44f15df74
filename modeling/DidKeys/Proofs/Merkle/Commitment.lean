import DidKeys.Proofs.Merkle.Soundness

/-! # A root commits to its batch

Two batches with one root are the same batch, digest by digest, or two messages hashed for their
trees are a collision (`batch_eq_of_root_eq`).  The lengths need not agree beforehand.

Two trees with one hash are compared from the top down.  Their first bytes say whether both are
leaves or both are nodes; a node says the hashes of both parts, so the parts are compared in
turn.  A leaf that was carried up is still the leaf it was, so no batch passes for another one by
repeating its last digest. -/

namespace DidKeys.Merkle

namespace Tree

theorem message_leaf_ne_node (data : Digest) (left right : Tree) :
    (leaf data).message ≠ (node left right).message :=
  leafMessage_ne_nodeMessage data left.hash right.hash

/-- Two trees with one hash were made from one message, or there is a collision. -/
theorem message_eq_of_hash_eq {first second : Tree} (h : first.hash = second.hash) :
    first.message = second.message ∨ Collision (first.messages ++ second.messages) := by
  have hfirst := message_mem_messages first
  have hsecond := message_mem_messages second
  rw [hash_eq, hash_eq] at h
  exact eq_or_collision (List.mem_append_left _ hfirst) (List.mem_append_right _ hsecond) h

/-- A tree is known by its hash. -/
theorem eq_of_hash_eq {first second : Tree} (h : first.hash = second.hash) :
    first = second ∨ Collision (first.messages ++ second.messages) := by
  induction first generalizing second with
  | leaf data =>
      rcases message_eq_of_hash_eq h with heq | hcol
      · cases second with
        | leaf other =>
            left
            rw [leafMessage_inj heq]
        | node left right =>
            exact absurd heq (message_leaf_ne_node data left right)
      · exact .inr hcol
  | node left right ihl ihr =>
      rcases message_eq_of_hash_eq h with heq | hcol
      · cases second with
        | leaf other =>
            exact absurd heq.symm (message_leaf_ne_node other left right)
        | node left' right' =>
            obtain ⟨hleft, hright⟩ := nodeMessage_inj heq
            rcases ihl hleft with rfl | hcol
            · rcases ihr hright with rfl | hcol
              · exact .inl rfl
              · right
                exact hcol.append (messages_right_subset left right)
                  (messages_right_subset left right')
            · right
              exact hcol.append (messages_left_subset left right)
                (messages_left_subset left' right')
      · exact .inr hcol

end Tree

/-- Any two batches that are not empty have their roots, and these are equal only if the batches
are, or if two of the messages hashed for the leaves and nodes of both trees are a collision. -/
theorem batch_eq_of_root_eq {first second : List Digest} (hfirst : first ≠ [])
    (hsecond : second ≠ []) :
    ∃ (firstTree secondTree : Tree) (firstResult secondResult : Batch),
      Tree.ofDigests? first = some firstTree ∧ Tree.ofDigests? second = some secondTree ∧
      prove first = .ok firstResult ∧ prove second = .ok secondResult ∧
      (firstResult.root = secondResult.root →
        first = second ∨ Collision (firstTree.messages ++ secondTree.messages)) := by
  obtain ⟨firstTree, htree⟩ := Tree.exists_ofDigests? hfirst
  obtain ⟨secondTree, htree'⟩ := Tree.exists_ofDigests? hsecond
  refine ⟨firstTree, secondTree, _, _, htree, htree', prove_eq htree, prove_eq htree', ?_⟩
  intro hroot
  rcases Tree.eq_of_hash_eq hroot with rfl | hcol
  · left
    rw [← Tree.leaves_ofDigests? htree, Tree.leaves_ofDigests? htree']
  · exact .inr hcol

/-- Three digests, and the same three with the last one repeated: a tree that filled up its levels
that way would have one root for both. -/
theorem batch_eq_of_root_eq_three :
    [repeatedDigest 1, repeatedDigest 2, repeatedDigest 3] ≠ [] ∧
      [repeatedDigest 1, repeatedDigest 2, repeatedDigest 3, repeatedDigest 3] ≠ [] ∧
      ∃ (firstTree secondTree : Tree) (firstResult secondResult : Batch),
        Tree.ofDigests? [repeatedDigest 1, repeatedDigest 2, repeatedDigest 3] = some firstTree ∧
        Tree.ofDigests? [repeatedDigest 1, repeatedDigest 2, repeatedDigest 3, repeatedDigest 3] =
          some secondTree ∧
        prove [repeatedDigest 1, repeatedDigest 2, repeatedDigest 3] = .ok firstResult ∧
        prove [repeatedDigest 1, repeatedDigest 2, repeatedDigest 3, repeatedDigest 3] =
          .ok secondResult ∧
        (firstResult.root = secondResult.root →
          Collision (firstTree.messages ++ secondTree.messages)) := by
  have hfirst : [repeatedDigest 1, repeatedDigest 2, repeatedDigest 3] ≠ [] := by simp
  have hsecond :
      [repeatedDigest 1, repeatedDigest 2, repeatedDigest 3, repeatedDigest 3] ≠ [] := by simp
  obtain ⟨firstTree, secondTree, firstResult, secondResult, htree, htree', hprove, hprove', hall⟩ :=
    batch_eq_of_root_eq hfirst hsecond
  refine ⟨hfirst, hsecond, firstTree, secondTree, firstResult, secondResult, htree, htree', hprove,
    hprove', ?_⟩
  intro hroot
  rcases hall hroot with heq | hcol
  · simp at heq
  · exact hcol

end DidKeys.Merkle
