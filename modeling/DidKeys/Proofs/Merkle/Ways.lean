import DidKeys.Merkle.Proof
import Mathlib.Algebra.Group.Nat.Defs
import Mathlib.Data.Nat.Log

/-! # Ways up a tree

`Tree.ways` lists the leaves of a tree, each with the steps from it up to the top.  The proofs of a
tree are its ways, written down (`Tree.proofs_eq`), so what holds of all ways holds of all proofs.

* Every way climbs to the hash of the tree (`climb_of_mem_ways`).
* No way is longer than the tree is high, and the tree over a batch is as high as the batch is
  long on a logarithmic scale (`height_ofDigests?_le`); its first leaf is that deep
  (`leftDepth_ofDigests?`).
* Steps that fit into an index are read back from the proof (`InclusionProof.steps_ofSteps`). -/

namespace DidKeys.Merkle

/-- A leaf with its way up, one step further. -/
def extendWay (step : Step) (way : Digest × List Step) : Digest × List Step :=
  (way.1, way.2 ++ [step])

namespace Tree

/-- The leaves from left to right, each with its way up to the top, the lowest step first. -/
def ways : Tree → List (Digest × List Step)
  | leaf data => [(data, [])]
  | node left right =>
    left.ways.map (extendWay ⟨right.hash, false⟩) ++ right.ways.map (extendWay ⟨left.hash, true⟩)

theorem map_fst_ways (tree : Tree) : tree.ways.map Prod.fst = tree.leaves := by
  have key : ∀ step, Prod.fst ∘ extendWay step = Prod.fst := fun _ => rfl
  induction tree with
  | leaf data => rfl
  | node left right ihl ihr => simp [ways, leaves, key, ihl, ihr]

theorem length_ways (tree : Tree) : tree.ways.length = tree.leaves.length := by
  rw [← map_fst_ways, List.length_map]

theorem proofsBelow_eq (tree : Tree) (above : List Step) :
    tree.proofsBelow above =
      tree.ways.map fun way => InclusionProof.ofSteps way.1 (way.2 ++ above) := by
  induction tree generalizing above with
  | leaf data => rfl
  | node left right ihl ihr =>
      rw [proofsBelow, ihl, ihr, ways, List.map_append, List.map_map, List.map_map]
      simp [Function.comp_def, extendWay]

/-- The proofs of a tree are its ways. -/
theorem proofs_eq (tree : Tree) :
    tree.proofs = tree.ways.map fun way => InclusionProof.ofSteps way.1 way.2 := by
  simp [proofs, proofsBelow_eq]

theorem length_proofs (tree : Tree) : tree.proofs.length = tree.leaves.length := by
  rw [proofs_eq, List.length_map, length_ways]

/-- The proof at a position holds the way at that position. -/
theorem getElem?_proofs_eq_some_iff {tree : Tree} {position : Nat} {proof : InclusionProof} :
    tree.proofs[position]? = some proof ↔
      ∃ way, tree.ways[position]? = some way ∧ InclusionProof.ofSteps way.1 way.2 = proof := by
  rw [proofs_eq, List.getElem?_map, Option.map_eq_some_iff]

theorem mem_ways_node {left right : Tree} {way : Digest × List Step} :
    way ∈ (node left right).ways ↔
      (∃ w ∈ left.ways, extendWay ⟨right.hash, false⟩ w = way) ∨
        ∃ w ∈ right.ways, extendWay ⟨left.hash, true⟩ w = way := by
  simp [ways]

end Tree

/-! ### Climbing -/

theorem climb_concat (hash : Digest) (steps : List Step) (step : Step) :
    climb hash (steps ++ [step]) = step.apply (climb hash steps) := by
  simp [climb]

/-- Every way leads to the hash of the tree. -/
theorem Tree.climb_of_mem_ways {tree : Tree} {way : Digest × List Step} (h : way ∈ tree.ways) :
    climb (leafHash way.1) way.2 = tree.hash := by
  induction tree generalizing way with
  | leaf data =>
      rw [ways, List.mem_singleton] at h
      subst h
      rfl
  | node left right ihl ihr =>
      rcases mem_ways_node.1 h with ⟨w, hw, rfl⟩ | ⟨w, hw, rfl⟩
      · rw [extendWay, climb_concat, ihl hw]; rfl
      · rw [extendWay, climb_concat, ihr hw]; rfl

/-! ### Depth -/

namespace Tree

/-- The number of levels above the leaves. -/
def height : Tree → Nat
  | leaf _ => 0
  | node left right => max left.height right.height + 1

/-- The number of levels above the first leaf. -/
def leftDepth : Tree → Nat
  | leaf _ => 0
  | node left _ => left.leftDepth + 1

theorem length_le_height {tree : Tree} {way : Digest × List Step} (h : way ∈ tree.ways) :
    way.2.length ≤ tree.height := by
  induction tree generalizing way with
  | leaf data =>
      rw [ways, List.mem_singleton] at h
      subst h
      exact Nat.le_refl 0
  | node left right ihl ihr =>
      rcases mem_ways_node.1 h with ⟨w, hw, rfl⟩ | ⟨w, hw, rfl⟩
      · have := ihl hw
        simp only [extendWay, List.length_append, List.length_singleton, height]
        omega
      · have := ihr hw
        simp only [extendWay, List.length_append, List.length_singleton, height]
        omega

/-- The first way is that of the leftmost leaf. -/
theorem exists_head?_ways (tree : Tree) :
    ∃ way, tree.ways.head? = some way ∧ way.2.length = tree.leftDepth := by
  induction tree with
  | leaf data => exact ⟨(data, []), rfl, rfl⟩
  | node left right ihl _ =>
      obtain ⟨way, hhead, hlen⟩ := ihl
      refine ⟨extendWay ⟨right.hash, false⟩ way, ?_, ?_⟩
      · simp [ways, hhead]
      · simp [extendWay, leftDepth, hlen]

/-- Halving a level takes one off its logarithm. -/
theorem clog_halved (count : Nat) (h : 2 ≤ count) :
    Nat.clog 2 count = Nat.clog 2 ((count + 1) / 2) + 1 :=
  Nat.clog_of_two_le (by decide) h

theorem height_le_of_mem_pairUp {level : List Tree} {bound : Nat}
    (h : ∀ tree ∈ level, tree.height ≤ bound) : ∀ tree ∈ pairUp level, tree.height ≤ bound + 1 := by
  fun_induction pairUp level with
  | case1 left right trees ih =>
      simp only [List.mem_cons, forall_eq_or_imp] at h ⊢
      obtain ⟨hleft, hright, htrees⟩ := h
      refine ⟨?_, ih htrees⟩
      rw [height]
      omega
  | case2 trees => exact fun tree htree => Nat.le_succ_of_le (h tree htree)

theorem height_ofLevel?_le {level : List Tree} {tree : Tree} {bound : Nat}
    (h : ofLevel? level = some tree) (hlevel : ∀ t ∈ level, t.height ≤ bound) :
    tree.height ≤ bound + Nat.clog 2 level.length := by
  fun_induction ofLevel? level generalizing bound with
  | case1 => simp at h
  | case2 t =>
      obtain rfl : t = tree := by simpa using h
      simpa using hlevel t (by simp)
  | case3 left right trees ih =>
      have hnext := ih h (height_le_of_mem_pairUp hlevel)
      have hlog := clog_halved (left :: right :: trees).length (by simp)
      rw [← pairUp, length_pairUp] at hnext
      omega

theorem leftDepth_ofLevel? {first tree : Tree} {level : List Tree}
    (h : ofLevel? (first :: level) = some tree) :
    tree.leftDepth = first.leftDepth + Nat.clog 2 (first :: level).length := by
  generalize hall : first :: level = all at h
  fun_induction ofLevel? all generalizing first level with
  | case1 => simp at hall
  | case2 t =>
      obtain rfl : t = tree := by simpa using h
      obtain rfl : first = t := (List.cons.inj hall).1
      simp
  | case3 left right trees ih =>
      obtain rfl : first = left := (List.cons.inj hall).1
      have hnext := ih rfl h
      have hlog := clog_halved (first :: right :: trees).length (by simp)
      rw [← pairUp, length_pairUp, leftDepth] at hnext
      omega

theorem exists_ofLevel? {level : List Tree} (h : level ≠ []) :
    ∃ tree, ofLevel? level = some tree := by
  fun_induction ofLevel? level with
  | case1 => exact absurd rfl h
  | case2 t => exact ⟨t, rfl⟩
  | case3 left right trees ih => exact ih (by simp)

/-! ### The tree over a batch -/

theorem exists_ofDigests? {batch : List Digest} (h : batch ≠ []) :
    ∃ tree, ofDigests? batch = some tree :=
  exists_ofLevel? (by simpa using h)

theorem height_ofDigests?_le {batch : List Digest} {tree : Tree}
    (h : ofDigests? batch = some tree) :
    tree.height ≤ Nat.clog 2 batch.length := by
  have hleaves : ∀ t ∈ batch.map leaf, t.height ≤ 0 := by
    intro t ht
    obtain ⟨data, _, rfl⟩ := List.mem_map.1 ht
    exact Nat.le_refl 0
  simpa using height_ofLevel?_le h hleaves

theorem leftDepth_ofDigests? {batch : List Digest} {tree : Tree}
    (h : ofDigests? batch = some tree) :
    tree.leftDepth = Nat.clog 2 batch.length := by
  cases batch with
  | nil => simp [ofDigests?, ofLevel?] at h
  | cons data batch =>
      have hlevel : ofLevel? (leaf data :: batch.map leaf) = some tree := h
      simpa [leftDepth] using leftDepth_ofLevel? hlevel

end Tree

/-! ### Reading a proof -/

theorem sidesToNat_lt (sides : List Bool) : sidesToNat sides < 2 ^ sides.length := by
  induction sides with
  | nil =>
      exact Nat.one_pos
  | cons side sides ih =>
      have hside : side.toNat ≤ 1 := side.toNat_le
      rw [sidesToNat, List.length_cons, Nat.pow_succ]
      omega

namespace InclusionProof

/-- The number of steps that an index can tell apart. -/
theorem toNat_index_ofSteps {steps : List Step} (hash : Digest) (h : steps.length ≤ 32) :
    (ofSteps hash steps).index.toNat = sidesToNat (steps.map Step.right).reverse := by
  have hlt := sidesToNat_lt (steps.map Step.right).reverse
  rw [List.length_reverse, List.length_map] at hlt
  have hpow : 2 ^ steps.length ≤ 2 ^ 32 := Nat.pow_le_pow_right (by decide) h
  exact UInt32.toNat_ofNat_of_lt' (Nat.lt_of_lt_of_le hlt hpow)

theorem zipWith_steps (steps : List Step) :
    List.zipWith Step.mk (steps.map Step.sibling) (steps.map Step.right) = steps := by
  induction steps with
  | nil => rfl
  | cons step steps ih => simp [ih]

/-- Steps that fit into an index are read back. -/
theorem steps_ofSteps {steps : List Step} (hash : Digest) (h : steps.length ≤ 32) :
    (ofSteps hash steps).steps = steps := by
  have hlen : (ofSteps hash steps).siblings.length = (steps.map Step.right).reverse.length := by
    simp [ofSteps]
  rw [InclusionProof.steps, toNat_index_ofSteps hash h, hlen, sidesOfNat_sidesToNat,
    List.reverse_reverse]
  exact zipWith_steps steps

end InclusionProof
end DidKeys.Merkle
