import DidKeys.Proofs.Curve.Primality
import Mathlib.AlgebraicGeometry.EllipticCurve.Affine.Point

/-! # The group of points

The points of the curve form a group, that of the Weierstrass curve `curve` over the field of
coordinates.  `Point.ofGroup` forgets the proof that a point lies on the curve.

* `Point.ofGroup_add`: chords and tangents add in the group.
* `Point.ofGroup_nsmul`: doubling and adding finds the multiples of the group.
* `Point.exists_ofGroup`: every valid point stands for an element. -/

namespace DidKeys

instance : Field Coord := Residue.field fieldPrime prime_fieldPrime

/-- The curve over the field of coordinates. -/
def curve : WeierstrassCurve.Affine Coord := ⟨0, 0, 0, 0, 7⟩

/-! ### The equation -/

theorem equation_iff_onCurve (x y : Coord) : curve.Equation x y ↔ OnCurve x y := by
  rw [WeierstrassCurve.Affine.equation_iff]
  unfold OnCurve curve
  have hleft : y ^ 2 + 0 * x * y + 0 * y = y * y := by ring
  have hright : x ^ 3 + 0 * x ^ 2 + 0 * x + 7 = x * x * x + 7 := by ring
  rw [hleft, hright]

theorem discriminant_ne_zero : curve.Δ ≠ 0 := by
  unfold WeierstrassCurve.Δ WeierstrassCurve.b₂ WeierstrassCurve.b₄ WeierstrassCurve.b₆
    WeierstrassCurve.b₈ curve
  decide

theorem nonsingular_iff_onCurve (x y : Coord) : curve.Nonsingular x y ↔ OnCurve x y := by
  rw [← curve.equation_iff_nonsingular_of_Δ_ne_zero discriminant_ne_zero, equation_iff_onCurve]

/-! ### Slopes -/

@[simp] theorem negY_curve (x y : Coord) : curve.negY x y = -y := by
  unfold WeierstrassCurve.Affine.negY curve
  ring

theorem eq_negY_iff {x y₁ y₂ : Coord} : y₁ = curve.negY x y₂ ↔ y₁ + y₂ = 0 := by
  rw [negY_curve]
  exact eq_neg_iff_add_eq_zero

theorem slope_chord {x₁ x₂ : Coord} (y₁ y₂ : Coord) (hx : x₁ ≠ x₂) :
    curve.slope x₁ x₂ y₁ y₂ = (y₂ - y₁) * Residue.inverse (x₂ - x₁) := by
  rw [WeierstrassCurve.Affine.slope_of_X_ne hx, div_eq_mul_inv, ← neg_sub y₂, ← neg_sub x₂,
    inv_neg, neg_mul_neg]
  rfl

theorem slope_tangent {x y : Coord} (hy : y + y ≠ 0) :
    curve.slope x x y y = 3 * x * x * Residue.inverse (2 * y) := by
  have hne : y ≠ curve.negY x y := fun h => hy (eq_negY_iff.mp h)
  rw [WeierstrassCurve.Affine.slope_of_Y_ne rfl hne, div_eq_mul_inv, negY_curve]
  have hnumerator : 3 * x ^ 2 + 2 * curve.a₂ * x + curve.a₄ - curve.a₁ * y = 3 * x * x := by
    unfold curve
    ring
  have hdenominator : y - -y = 2 * y := by ring
  rw [hnumerator, hdenominator]
  rfl

namespace Point

/-! ### Points as elements -/

/-- The coordinates of an element of the group. -/
def ofGroup : curve.Point → Point
  | .zero => .infinity
  | .some x y _ => .affine x y

@[simp] theorem ofGroup_zero : ofGroup 0 = .infinity := rfl

@[simp] theorem ofGroup_some {x y : Coord} (h : curve.Nonsingular x y) :
    ofGroup (.some x y h) = .affine x y := rfl

theorem ofGroup_injective : Function.Injective ofGroup := by
  intro P Q h
  cases P with
  | zero =>
      cases Q with
      | zero =>
          rfl
      | some x y hQ =>
          cases h
  | some x y hP =>
      cases Q with
      | zero =>
          cases h
      | some x' y' hQ =>
          cases h
          rfl

theorem ofGroup_eq_infinity_iff {P : curve.Point} : ofGroup P = .infinity ↔ P = 0 := by
  rw [← ofGroup_zero, ofGroup_injective.eq_iff]

theorem exists_ofGroup {p : Point} (hp : p.Valid) : ∃ P, ofGroup P = p := by
  cases p with
  | infinity =>
      exact ⟨0, rfl⟩
  | affine x y =>
      exact ⟨.some x y ((nonsingular_iff_onCurve x y).mpr hp), rfl⟩

/-! ### The chord and tangent law -/

theorem affine_add_affine {x₁ x₂ : Coord} (y₁ y₂ : Coord) (hx : x₁ ≠ x₂) :
    (affine x₁ y₁).add (affine x₂ y₂) =
      along ((y₂ - y₁) * Residue.inverse (x₂ - x₁)) x₁ y₁ x₂ := if_neg hx

theorem affine_add_self (x : Coord) {y : Coord} (hy : y + y ≠ 0) :
    (affine x y).add (affine x y) = along (3 * x * x * Residue.inverse (2 * y)) x y x := by
  simp only [add, if_pos, if_neg hy]

theorem affine_add_opposite (x : Coord) {y₁ y₂ : Coord} (hy : y₁ + y₂ = 0) :
    (affine x y₁).add (affine x y₂) = .infinity := by
  simp only [add, if_pos, if_pos hy]

/-- The sum of two elements that are not opposite lies on the line through them. -/
theorem ofGroup_some_add_some {x₁ y₁ x₂ y₂ : Coord} (h₁ : curve.Nonsingular x₁ y₁)
    (h₂ : curve.Nonsingular x₂ y₂) (hxy : ¬(x₁ = x₂ ∧ y₁ = curve.negY x₂ y₂)) :
    ofGroup (.some x₁ y₁ h₁ + .some x₂ y₂ h₂) =
      along (curve.slope x₁ x₂ y₁ y₂) x₁ y₁ x₂ := by
  rw [WeierstrassCurve.Affine.Point.add_some hxy, ofGroup_some]
  unfold along
  have hX : curve.addX x₁ x₂ (curve.slope x₁ x₂ y₁ y₂) =
      curve.slope x₁ x₂ y₁ y₂ * curve.slope x₁ x₂ y₁ y₂ - x₁ - x₂ := by
    unfold WeierstrassCurve.Affine.addX
    generalize curve.slope x₁ x₂ y₁ y₂ = slope
    unfold curve
    ring
  rw [WeierstrassCurve.Affine.addY, negY_curve, WeierstrassCurve.Affine.negAddY, hX]
  congr 1
  ring

theorem ofGroup_add (P Q : curve.Point) : ofGroup (P + Q) = (ofGroup P).add (ofGroup Q) := by
  cases P with
  | zero =>
      rw [← WeierstrassCurve.Affine.Point.zero_def, zero_add, ofGroup_zero, infinity_add]
  | some x₁ y₁ h₁ =>
    cases Q with
    | zero =>
        rw [← WeierstrassCurve.Affine.Point.zero_def, add_zero, ofGroup_zero, add_infinity]
    | some x₂ y₂ h₂ =>
        rw [ofGroup_some, ofGroup_some]
        by_cases hx : x₁ = x₂
        · subst hx
          by_cases hy : y₁ + y₂ = 0
          · rw [affine_add_opposite x₁ hy,
              WeierstrassCurve.Affine.Point.add_of_Y_eq rfl (eq_negY_iff.mpr hy), ofGroup_zero]
          · have hne : y₁ ≠ curve.negY x₁ y₂ := fun h => hy (eq_negY_iff.mp h)
            -- over one first coordinate there is only a point and its opposite
            have hsame : y₁ = y₂ := by
              refine WeierstrassCurve.Affine.Y_eq_of_Y_ne ?_ ?_ rfl hne
              · exact h₁.left
              · exact h₂.left
            subst hsame
            rw [affine_add_self x₁ hy, ofGroup_some_add_some h₁ h₂ (fun h => hne h.2),
              slope_tangent hy]
        · rw [affine_add_affine y₁ y₂ hx, ofGroup_some_add_some h₁ h₂ (fun h => hx h.1),
            slope_chord y₁ y₂ hx]

theorem ofGroup_nsmul (k : Nat) (P : curve.Point) : ofGroup (k • P) = smul k (ofGroup P) := by
  induction k using Nat.strongRecOn with
  | ind k ih =>
      unfold smul
      by_cases hk : k = 0
      · rw [if_pos hk, hk, zero_nsmul, ofGroup_zero]
      · have hhalf := ih (k / 2) (Nat.div_lt_self (Nat.pos_of_ne_zero hk) Nat.one_lt_two)
        rw [if_neg hk, ← hhalf]
        dsimp only
        rw [← ofGroup_add, ← add_nsmul]
        by_cases hodd : k % 2 = 1
        · have hsum : k / 2 + k / 2 + 1 = k := by omega
          rw [if_pos hodd, ← ofGroup_add, ← succ_nsmul, hsum]
        · have hsum : k / 2 + k / 2 = k := by omega
          rw [if_neg hodd, hsum]

end Point
end DidKeys
