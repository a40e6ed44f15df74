import DidKeys.Proofs.Merkle.Split
import Mathlib.Data.List.Lex

/-! # Where a proof points to

The index of a proof holds one turn for each sibling, the one at the top in the lowest bit
(`InclusionProof.turns`).  The turns to a leaf follow from its position and the number of leaves
alone (`turnsTo`), and those to a later leaf part from them somewhere by going right where they go
left (`LeftOf`); so the leaves of a batch are told apart and ordered by their turns, whatever their
digests are (`prove_turns`).  The index alone would not do: leaves stand at different depths. -/

namespace DidKeys.Merkle

/-- The turns to a proof's leaf from the top on; `true` is a turn to the right. -/
def InclusionProof.turns (proof : InclusionProof) : List Bool :=
  sidesOfNat proof.siblings.length proof.index.toNat

/-- The turns to a position among so many leaves. -/
def turnsTo (position count : Nat) : List Bool :=
  if count < 2 then []
  else
    let size := splitSize count
    if position < size then false :: turnsTo position size
    else true :: turnsTo (position - size) (count - size)
termination_by count
decreasing_by
  · exact splitSize_lt (by omega)
  · have hpos := splitSize_pos count
    omega

section cut
variable {position count : Nat}

theorem turnsTo_of_lt (hcount : 2 ≤ count) (h : position < splitSize count) :
    turnsTo position count = false :: turnsTo position (splitSize count) := by
  rw [turnsTo, if_neg (by omega)]
  exact if_pos h

theorem turnsTo_of_le (hcount : 2 ≤ count) (h : splitSize count ≤ position) :
    turnsTo position count =
      true :: turnsTo (position - splitSize count) (count - splitSize count) := by
  rw [turnsTo, if_neg (by omega)]
  exact if_neg (by omega)

end cut

/-! ### Order -/

/-- Where two rows of turns part, the first one goes left and the second one right. -/
def LeftOf (first second : List Bool) : Prop :=
  ∃ common lower lower', first = common ++ false :: lower ∧ second = common ++ true :: lower'

namespace LeftOf
variable {first second : List Bool}

theorem cons (turn : Bool) (h : LeftOf first second) : LeftOf (turn :: first) (turn :: second) := by
  obtain ⟨common, lower, lower', rfl, rfl⟩ := h
  exact ⟨turn :: common, lower, lower', rfl, rfl⟩

/-- Neither of the two begins the other. -/
theorem not_prefix_either (h : LeftOf first second) : ¬ first <+: second ∧ ¬ second <+: first := by
  obtain ⟨common, lower, lower', rfl, rfl⟩ := h
  simp [List.prefix_append_right_inj, List.cons_prefix_cons]

theorem ne (h : LeftOf first second) : first ≠ second := by
  rintro rfl
  exact h.not_prefix_either.1 (List.prefix_refl _)

theorem lex (h : LeftOf first second) : List.Lex (· < ·) first second := by
  obtain ⟨common, lower, lower', rfl, rfl⟩ := h
  exact List.Lex.append_left _ (.rel (by decide)) common

end LeftOf

/-- A later position is on the right. -/
theorem turnsTo_leftOf {position later count : Nat} (hlt : position < later)
    (hcount : later < count) : LeftOf (turnsTo position count) (turnsTo later count) := by
  induction count using Nat.strongRecOn generalizing position later with
  | ind count ih =>
      -- the cut parts the two positions, or leaves both in one part
      have hmany : 2 ≤ count := by omega
      have hsize := splitSize_lt hmany
      have hpos := splitSize_pos count
      rcases Nat.lt_or_ge position (splitSize count) with hleft | hright
      · rw [turnsTo_of_lt hmany hleft]
        rcases Nat.lt_or_ge later (splitSize count) with hleft' | hright'
        · rw [turnsTo_of_lt hmany hleft']
          exact (ih _ hsize hlt hleft').cons false
        · rw [turnsTo_of_le hmany hright']
          exact ⟨[], _, _, rfl, rfl⟩
      · rw [turnsTo_of_le hmany hright, turnsTo_of_le hmany (by omega)]
        exact (ih _ (by omega) (by omega) (by omega)).cons true

/-! ### The turns of a proof -/

namespace InclusionProof

theorem turns_ofSteps {steps : List Step} (hash : Digest) (h : steps.length ≤ 32) :
    (ofSteps hash steps).turns = (steps.map Step.right).reverse := by
  have hlen : (ofSteps hash steps).siblings.length = (steps.map Step.right).reverse.length := by
    simp [ofSteps]
  rw [turns, toNat_index_ofSteps hash h, hlen, sidesOfNat_sidesToNat]

theorem length_turns (proof : InclusionProof) : proof.turns.length = proof.siblings.length :=
  length_sidesOfNat _ _

/-- Number of siblings and index together say the turns. -/
theorem turns_congr {proof other : InclusionProof}
    (h : (proof.siblings.length, proof.index) = (other.siblings.length, other.index)) :
    proof.turns = other.turns := by
  obtain ⟨hlen, hindex⟩ := Prod.mk.inj h
  rw [turns, hlen, hindex, turns]

end InclusionProof

theorem Tree.reverse_map_right_of_getElem?_ways {tree : Tree} {position : Nat}
    {way : Digest × List Step} (h : tree.IsSplit) (hway : tree.ways[position]? = some way) :
    (way.2.map Step.right).reverse = turnsTo position tree.leaves.length := by
  induction tree generalizing position way with
  | leaf data =>
      obtain ⟨_, rfl⟩ := List.getElem?_eq_some_iff.1 hway
      simp [ways, leaves, turnsTo]
  | node left right ihl ihr =>
      obtain ⟨hleft, hright, hcut⟩ := h
      have hposl := left.length_leaves_pos
      have hposr := right.length_leaves_pos
      rw [length_leaves_node]
      rw [getElem?_ways_node] at hway
      split at hway
      · next hlt =>
        obtain ⟨lower, hlower, rfl⟩ := Option.map_eq_some_iff.1 hway
        rw [turnsTo_of_lt (by omega) (by omega), ← hcut, ← ihl hleft hlower]
        simp [extendWay]
      · next hge =>
        obtain ⟨lower, hlower, rfl⟩ := Option.map_eq_some_iff.1 hway
        rw [turnsTo_of_le (by omega) (by omega), ← hcut, Nat.add_sub_cancel_left,
          ← ihr hright hlower]
        simp [extendWay]

/-- The index of a proof of a tree that an index can number holds the turns to its position and no
other bits. -/
theorem Tree.turns_of_getElem?_proofs {tree : Tree} {position : Nat} {proof : InclusionProof}
    (h : tree.IsSplit) (hheight : tree.height ≤ 32)
    (hproof : tree.proofs[position]? = some proof) :
    proof.turns = turnsTo position tree.leaves.length ∧
      proof.index.toNat = sidesToNat proof.turns := by
  obtain ⟨way, hway, rfl⟩ := getElem?_proofs_eq_some_iff.1 hproof
  have hfits : way.2.length ≤ 32 :=
    Nat.le_trans (length_le_height (List.mem_of_getElem? hway)) hheight
  rw [InclusionProof.turns_ofSteps _ hfits, InclusionProof.toNat_index_ofSteps _ hfits]
  exact ⟨reverse_map_right_of_getElem?_ways h hway, rfl⟩

/-- In a batch of at most `2³²` digests, the number of siblings of a proof and its index follow from
its position and the number of digests; the index has no bits beyond its turns.  Of two positions
neither has turns that begin those of the other, and the turns of the first come first in
alphabetical order, left before right; so no two positions have as many siblings and one index. -/
theorem prove_turns {batch : List Digest} (hne : batch ≠ []) (hsize : batch.length ≤ 2 ^ 32) :
    ∃ result, prove batch = .ok result ∧ result.proofs.length = batch.length ∧
      (∀ position proof, result.proofs[position]? = some proof →
        proof.turns = turnsTo position batch.length ∧
        proof.siblings.length = (turnsTo position batch.length).length ∧
        proof.index.toNat = sidesToNat (turnsTo position batch.length) ∧
        proof.index.toNat < 2 ^ proof.siblings.length) ∧
      ∀ (position later : Nat) (proof other : InclusionProof), position < later →
        result.proofs[position]? = some proof → result.proofs[later]? = some other →
        ¬ proof.turns <+: other.turns ∧ ¬ other.turns <+: proof.turns ∧
        List.Lex (· < ·) proof.turns other.turns ∧
        (proof.siblings.length, proof.index) ≠ (other.siblings.length, other.index) := by
  obtain ⟨tree, htree⟩ := Tree.exists_ofDigests? hne
  have hsplit := Tree.isSplit_ofDigests? htree
  have hleaves := Tree.leaves_ofDigests? htree
  have hlog : Nat.clog 2 batch.length ≤ 32 := (Nat.clog_le_iff_le_pow (by decide)).2 hsize
  have hheight : tree.height ≤ 32 := Nat.le_trans (Tree.height_ofDigests?_le htree) hlog
  have hlen : tree.proofs.length = batch.length := by rw [Tree.length_proofs, hleaves]
  have hturns : ∀ position proof, tree.proofs[position]? = some proof →
      proof.turns = turnsTo position batch.length ∧
        proof.index.toNat = sidesToNat proof.turns := by
    intro position proof hproof
    rw [← hleaves]
    exact Tree.turns_of_getElem?_proofs hsplit hheight hproof
  refine ⟨⟨tree.hash, tree.proofs⟩, prove_eq htree, hlen, ?_, ?_⟩
  · intro position proof hproof
    obtain ⟨hword, hindex⟩ := hturns position proof hproof
    refine ⟨hword, ?_, ?_, ?_⟩
    · rw [← hword, InclusionProof.length_turns]
    · rw [hindex, hword]
    · rw [hindex, ← InclusionProof.length_turns]
      exact sidesToNat_lt _
  · intro position later proof other hlt hproof hother
    have hlater : later < batch.length := by
      rw [← hlen]
      exact (List.getElem?_eq_some_iff.1 hother).1
    have horder := turnsTo_leftOf hlt hlater
    rw [← (hturns position proof hproof).1, ← (hturns later other hother).1] at horder
    obtain ⟨hfirst, hsecond⟩ := horder.not_prefix_either
    exact ⟨hfirst, hsecond, horder.lex, fun hsame => horder.ne (InclusionProof.turns_congr hsame)⟩

/-- Three times one digest: the last leaf was carried up, and the indices are 0, 2 and 1. -/
theorem prove_turns_three :
    let data := repeatedDigest 1
    [data, data, data] ≠ [] ∧ [data, data, data].length ≤ 2 ^ 32 ∧
      ∃ first second third result, prove [data, data, data] = .ok result ∧
        result.proofs = [first, second, third] ∧
        first.turns = [false, false] ∧ first.index.toNat = 0 ∧
        second.turns = [false, true] ∧ second.index.toNat = 2 ∧
        third.turns = [true] ∧ third.index.toNat = 1 := by
  intro data
  have hne : [data, data, data] ≠ [] := List.cons_ne_nil _ _
  have hsize : [data, data, data].length ≤ 2 ^ 32 := by decide
  have htwo : splitSize 2 = 1 := by decide
  have hthree : splitSize 3 = 2 := by decide
  have hleft : turnsTo 0 3 = [false, false] := by simp [turnsTo, htwo, hthree]
  have hmiddle : turnsTo 1 3 = [false, true] := by simp [turnsTo, htwo, hthree]
  have hright : turnsTo 2 3 = [true] := by simp [turnsTo, hthree]
  obtain ⟨result, hprove, hlen, hall, _⟩ := prove_turns hne hsize
  obtain ⟨first, second, third, hproofs⟩ := List.length_eq_three.1 hlen
  rw [hproofs] at hall
  obtain ⟨hfirst, _, hindex, _⟩ := hall 0 first rfl
  obtain ⟨hsecond, _, hindex', _⟩ := hall 1 second rfl
  obtain ⟨hthird, _, hindex'', _⟩ := hall 2 third rfl
  refine ⟨hne, hsize, first, second, third, result, hprove, hproofs, hfirst.trans hleft, ?_,
    hsecond.trans hmiddle, ?_, hthird.trans hright, ?_⟩
  · exact hindex.trans (congrArg sidesToNat hleft)
  · exact hindex'.trans (congrArg sidesToNat hmiddle)
  · exact hindex''.trans (congrArg sidesToNat hright)

end DidKeys.Merkle
