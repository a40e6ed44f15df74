import DidKeys.Proofs.Hash.Collision
import DidKeys.Proofs.Merkle.Completeness
import Mathlib.Data.Nat.ModEq

/-! # A proof that verifies is one of the proofs

Whoever made a proof: if it verifies under the root of a batch, then it shows a digest of the batch
by the siblings of its own proof, on the same sides, or among the messages hashed for the tree and
for the proof two are a collision (`exists_position_of_verifies`).

The messages are those of the leaves and nodes of the tree (`Tree.messages`) and those on the way up
that the proof describes (`InclusionProof.messages`).  The first byte tells leaves from nodes, so
the way and the tree are compared from the top down: either both branch and the parts agree, or one
is at a leaf where the other is at a node. -/

namespace DidKeys.Merkle

/-- The message behind the hash of a leaf. -/
def leafMessage (data : Digest) : Bytes := 0 :: data.bytes

/-- The message behind the hash of a node. -/
def nodeMessage (left right : Digest) : Bytes := 1 :: (left.bytes ++ right.bytes)

theorem leafMessage_inj {d e : Digest} (h : leafMessage d = leafMessage e) : d = e :=
  Digest.eq_of_bytes (List.cons.inj h).2

theorem nodeMessage_inj {l l' r r' : Digest} (h : nodeMessage l r = nodeMessage l' r') :
    l = l' ∧ r = r' := by
  have hlen : l.bytes.length = l'.bytes.length := by simp
  obtain ⟨hl, hr⟩ := List.append_inj (List.cons.inj h).2 hlen
  exact ⟨Digest.eq_of_bytes hl, Digest.eq_of_bytes hr⟩

theorem leafMessage_ne_nodeMessage (d l r : Digest) : leafMessage d ≠ nodeMessage l r := by
  intro h
  exact absurd (List.cons.inj h).1 (by decide)

/-- The message behind a step up from a hash. -/
def Step.message (hash : Digest) (step : Step) : Bytes :=
  if step.right then nodeMessage step.sibling hash else nodeMessage hash step.sibling

theorem Step.apply_eq (hash : Digest) (step : Step) :
    step.apply hash = sha256 (step.message hash) := by
  cases step with
  | mk sibling right => cases right <;> rfl

/-- The messages hashed on a way up, the lowest step first. -/
def climbMessages : Digest → List Step → List Bytes
  | _, [] => []
  | hash, step :: steps => step.message hash :: climbMessages (step.apply hash) steps

theorem climbMessages_concat (hash : Digest) (steps : List Step) (step : Step) :
    climbMessages hash (steps ++ [step]) =
      climbMessages hash steps ++ [step.message (climb hash steps)] := by
  induction steps generalizing hash with
  | nil => rfl
  | cons first steps ih =>
      rw [List.cons_append, climbMessages, ih, climbMessages, List.cons_append]
      rfl

/-- The messages hashed for a digest at the lower end of a way up. -/
def wayMessages (data : Digest) (steps : List Step) : List Bytes :=
  leafMessage data :: climbMessages (leafHash data) steps

/-- The messages hashed to see where a proof leads. -/
def InclusionProof.messages (proof : InclusionProof) : List Bytes :=
  wayMessages proof.hash proof.steps

namespace Tree

/-- The message behind the hash of a tree. -/
def message : Tree → Bytes
  | leaf data => leafMessage data
  | node left right => nodeMessage left.hash right.hash

theorem hash_eq (tree : Tree) : tree.hash = sha256 tree.message := by
  cases tree <;> rfl

/-- The messages hashed to build a tree. -/
def messages : Tree → List Bytes
  | leaf data => [leafMessage data]
  | node left right => nodeMessage left.hash right.hash :: (left.messages ++ right.messages)

theorem message_mem_messages (tree : Tree) : tree.message ∈ tree.messages := by
  cases tree <;> exact List.mem_cons_self

theorem messages_left_subset (left right : Tree) :
    left.messages ⊆ (node left right).messages := by
  intro message hmem
  exact List.mem_cons_of_mem _ (List.mem_append_left _ hmem)

theorem messages_right_subset (left right : Tree) :
    right.messages ⊆ (node left right).messages := by
  intro message hmem
  exact List.mem_cons_of_mem _ (List.mem_append_right _ hmem)

end Tree

/-! ### The top of a way -/

/-- The message behind the hash at the end of a way up. -/
def topMessage (data : Digest) (steps : List Step) : Bytes :=
  match steps.getLast? with
  | none => leafMessage data
  | some step => step.message (climb (leafHash data) steps.dropLast)

theorem topMessage_concat (data : Digest) (steps : List Step) (step : Step) :
    topMessage data (steps ++ [step]) = step.message (climb (leafHash data) steps) := by
  simp [topMessage]

theorem climb_eq_sha256 (data : Digest) (steps : List Step) :
    climb (leafHash data) steps = sha256 (topMessage data steps) := by
  rcases List.eq_nil_or_concat steps with rfl | ⟨lower, step, rfl⟩
  · rfl
  · rw [List.concat_eq_append, climb_concat, topMessage_concat, Step.apply_eq]

theorem wayMessages_concat (data : Digest) (steps : List Step) (step : Step) :
    wayMessages data (steps ++ [step]) =
      wayMessages data steps ++ [step.message (climb (leafHash data) steps)] := by
  rw [wayMessages, climbMessages_concat, wayMessages, List.cons_append]

theorem wayMessages_subset_concat (data : Digest) (steps : List Step) (step : Step) :
    wayMessages data steps ⊆ wayMessages data (steps ++ [step]) := by
  rw [wayMessages_concat]
  exact List.subset_append_left _ _

theorem topMessage_mem_wayMessages (data : Digest) (steps : List Step) :
    topMessage data steps ∈ wayMessages data steps := by
  rcases List.eq_nil_or_concat steps with rfl | ⟨lower, step, rfl⟩
  · exact List.mem_cons_self
  · rw [List.concat_eq_append, topMessage_concat, wayMessages_concat]
    exact List.mem_append_right _ (List.mem_singleton.2 rfl)

/-- A step up that ends in the message of a node goes past one of its parts from the other. -/
theorem Step.message_eq_nodeMessage {step : Step} {hash left right : Digest}
    (h : step.message hash = nodeMessage left right) :
    (hash = left ∧ step = ⟨right, false⟩) ∨ (hash = right ∧ step = ⟨left, true⟩) := by
  cases step with
  | mk sibling side =>
      cases side with
      | false =>
          obtain ⟨rfl, rfl⟩ := nodeMessage_inj (l := hash) (r := sibling) h
          exact .inl ⟨rfl, rfl⟩
      | true =>
          obtain ⟨rfl, rfl⟩ := nodeMessage_inj (l := sibling) (r := hash) h
          exact .inr ⟨rfl, rfl⟩

theorem Step.message_ne_leafMessage (step : Step) (hash data : Digest) :
    step.message hash ≠ leafMessage data := by
  intro h
  cases step with
  | mk sibling side => cases side <;> exact leafMessage_ne_nodeMessage _ _ _ h.symm

/-! ### Down the tree -/

/-- A way up that ends at the hash of a tree is one of its ways. -/
theorem Tree.mem_ways_of_climb {tree : Tree} {data : Digest} {steps : List Step}
    (h : climb (leafHash data) steps = tree.hash) :
    (data, steps) ∈ tree.ways ∨ Collision (tree.messages ++ wayMessages data steps) := by
  induction tree generalizing steps with
  | leaf d =>
      have hd := message_mem_messages (leaf d)
      have htop := topMessage_mem_wayMessages data steps
      rw [climb_eq_sha256, hash_eq] at h
      rcases eq_or_collision (List.mem_append_right _ htop) (List.mem_append_left _ hd) h with
        heq | hcol
      · rcases List.eq_nil_or_concat steps with rfl | ⟨lower, step, rfl⟩
        · left
          rw [ways, leafMessage_inj heq]
          exact List.mem_singleton.2 rfl
        · rw [List.concat_eq_append, topMessage_concat] at heq
          exact absurd heq (step.message_ne_leafMessage _ _)
      · exact .inr hcol
  | node left right ihl ihr =>
      have hnode := message_mem_messages (node left right)
      have htop := topMessage_mem_wayMessages data steps
      rw [climb_eq_sha256, hash_eq] at h
      rcases eq_or_collision (List.mem_append_right _ htop) (List.mem_append_left _ hnode) h with
        heq | hcol
      · rcases List.eq_nil_or_concat steps with rfl | ⟨lower, step, rfl⟩
        · exact absurd heq (leafMessage_ne_nodeMessage _ _ _)
        · rw [List.concat_eq_append, topMessage_concat] at heq
          rw [List.concat_eq_append]
          -- the step goes to one side; the rest of the way is compared with the tree on that side
          rcases Step.message_eq_nodeMessage heq with ⟨hdown, rfl⟩ | ⟨hdown, rfl⟩
          · rcases ihl hdown with hway | hcol
            · exact .inl (mem_ways_node.2 (.inl ⟨_, hway, rfl⟩))
            · right
              exact hcol.append (messages_left_subset left right)
                (wayMessages_subset_concat data _ _)
          · rcases ihr hdown with hway | hcol
            · exact .inl (mem_ways_node.2 (.inr ⟨_, hway, rfl⟩))
            · right
              exact hcol.append (messages_right_subset left right)
                (wayMessages_subset_concat data _ _)
      · exact .inr hcol

/-! ### The position of a proof -/

theorem sidesToNat_sidesOfNat (count v : Nat) :
    sidesToNat (sidesOfNat count v) = v % 2 ^ count := by
  induction count generalizing v with
  | zero => simp [sidesOfNat, sidesToNat, Nat.mod_one]
  | succ count ih =>
      have hbit : (v % 2 == 1).toNat = v % 2 := by
        rcases Nat.mod_two_eq_zero_or_one v with h | h <;> simp [h]
      rw [sidesOfNat, sidesToNat, ih, hbit, Nat.pow_succ', Nat.mod_mul]

namespace InclusionProof

theorem map_zipWith_mk {siblings : List Digest} {sides : List Bool}
    (h : siblings.length = sides.length) :
    (siblings.zipWith Step.mk sides).map Step.sibling = siblings ∧
      (siblings.zipWith Step.mk sides).map Step.right = sides := by
  induction siblings generalizing sides with
  | nil =>
      rw [List.eq_nil_of_length_eq_zero h.symm]
      exact ⟨rfl, rfl⟩
  | cons sibling siblings ih =>
      cases sides with
      | nil => simp at h
      | cons side sides =>
          obtain ⟨hs, hr⟩ := ih (Nat.succ.inj h)
          exact ⟨congrArg (sibling :: ·) hs, congrArg (side :: ·) hr⟩

theorem map_sibling_steps (proof : InclusionProof) :
    proof.steps.map Step.sibling = proof.siblings :=
  (map_zipWith_mk (by simp)).1

theorem map_right_steps (proof : InclusionProof) :
    proof.steps.map Step.right =
      (sidesOfNat proof.siblings.length proof.index.toNat).reverse :=
  (map_zipWith_mk (by simp)).2

theorem length_steps (proof : InclusionProof) : proof.steps.length = proof.siblings.length := by
  rw [← map_sibling_steps, List.length_map]

/-- The proof made of the steps of a proof has its siblings, and its index up to the bits that
nobody reads. -/
theorem ofSteps_steps (proof : InclusionProof) (h : proof.siblings.length ≤ 32) :
    (ofSteps proof.hash proof.steps).siblings = proof.siblings ∧
      (ofSteps proof.hash proof.steps).index.toNat =
        proof.index.toNat % 2 ^ proof.siblings.length := by
  refine ⟨map_sibling_steps proof, ?_⟩
  rw [toNat_index_ofSteps _ (by rw [length_steps]; exact h), map_right_steps, List.reverse_reverse,
    sidesToNat_sidesOfNat]

theorem verifies_iff (proof : InclusionProof) (root : Digest) :
    proof.verifies root = true ↔
      proof.siblings.length ≤ maxLength ∧ climb (leafHash proof.hash) proof.steps = root := by
  rw [verifies, Bool.and_eq_true, decide_eq_true_eq, beq_iff_eq]
  rfl

end InclusionProof

/-- Every proof that verifies under the root of a batch agrees with the proof at some position, up
to bits of the index that nobody reads, or two messages hashed for the tree and for that proof are a
collision. -/
theorem exists_position_of_verifies {batch : List Digest} (hne : batch ≠ []) :
    ∃ (tree : Tree) (result : Batch), Tree.ofDigests? batch = some tree ∧
      prove batch = .ok result ∧
      ∀ forged : InclusionProof, forged.verifies result.root = true →
        (∃ (j : Nat) (proof : InclusionProof), batch[j]? = some forged.hash ∧
          result.proofs[j]? = some proof ∧
          forged.siblings = proof.siblings ∧
          forged.index.toNat ≡ proof.index.toNat [MOD 2 ^ forged.siblings.length]) ∨
        Collision (tree.messages ++ forged.messages) := by
  obtain ⟨tree, htree⟩ := Tree.exists_ofDigests? hne
  refine ⟨tree, ⟨tree.hash, tree.proofs⟩, htree, prove_eq htree, ?_⟩
  intro forged hpass
  obtain ⟨hlen, hclimb⟩ := (InclusionProof.verifies_iff _ _).1 hpass
  rcases Tree.mem_ways_of_climb hclimb with hway | hcol
  · left
    obtain ⟨j, hj⟩ := List.getElem?_of_mem hway
    have hfits : forged.siblings.length ≤ 32 := Nat.le_trans hlen (by decide)
    obtain ⟨hsiblings, hindex⟩ := forged.ofSteps_steps hfits
    refine ⟨j, .ofSteps forged.hash forged.steps, ?_, ?_, hsiblings.symm, ?_⟩
    · rw [← Tree.leaves_ofDigests? htree, ← Tree.map_fst_ways, List.getElem?_map, hj,
        Option.map_some]
    · rw [Tree.proofs_eq, List.getElem?_map, hj, Option.map_some]
    · rw [hindex]
      exact (Nat.mod_modEq _ _).symm
  · exact .inr hcol

/-- A proof whose index has a bit that nobody reads still passes, and agrees with the first one. -/
theorem exists_position_of_verifies_three :
    [repeatedDigest 1, repeatedDigest 2, repeatedDigest 3] ≠ [] ∧
      ∃ (tree : Tree) (result : Batch),
        Tree.ofDigests? [repeatedDigest 1, repeatedDigest 2, repeatedDigest 3] = some tree ∧
        prove [repeatedDigest 1, repeatedDigest 2, repeatedDigest 3] = .ok result ∧
        let forged : InclusionProof :=
          ⟨repeatedDigest 1, 4, [leafHash (repeatedDigest 2), leafHash (repeatedDigest 3)]⟩
        forged.verifies result.root = true ∧
        ((∃ (j : Nat) (proof : InclusionProof),
            [repeatedDigest 1, repeatedDigest 2, repeatedDigest 3][j]? = some forged.hash ∧
            result.proofs[j]? = some proof ∧ forged.siblings = proof.siblings ∧
            forged.index.toNat ≡ proof.index.toNat [MOD 2 ^ forged.siblings.length]) ∨
          Collision (tree.messages ++ forged.messages)) := by
  have hne : [repeatedDigest 1, repeatedDigest 2, repeatedDigest 3] ≠ [] := by simp
  obtain ⟨tree, result, htree, hprove, hall⟩ := exists_position_of_verifies hne
  have htree' : Tree.ofDigests? [repeatedDigest 1, repeatedDigest 2, repeatedDigest 3] =
      some (.node (.node (.leaf (repeatedDigest 1)) (.leaf (repeatedDigest 2)))
        (.leaf (repeatedDigest 3))) := by
    simp [Tree.ofDigests?, Tree.ofLevel?, Tree.pairUp]
  rw [prove_eq htree', Except.ok.injEq] at hprove
  have hpass : InclusionProof.verifies
      ⟨repeatedDigest 1, 4, [leafHash (repeatedDigest 2), leafHash (repeatedDigest 3)]⟩
      result.root = true := by
    rw [InclusionProof.verifies_iff, ← hprove]
    exact ⟨by decide, rfl⟩
  refine ⟨hne, tree, result, htree, ?_, hpass, hall _ hpass⟩
  rw [prove_eq htree', hprove]

end DidKeys.Merkle
