import DidKeys.Proofs.Curve.Group
import Mathlib.FieldTheory.Finite.Basic

/-! # The two points over a first coordinate

Over a first coordinate there are no points of the curve, or two: a point and its opposite.  Their
second coordinates differ in parity, so one bit tells them apart.

* `squareRoot?_mul_self`: a square has its root found, up to the sign.
* `ne_zero_of_onCurve`: no point is its own opposite, since minus seven is not a cube.
* `liftX?_eq_some_iff`: the point of the wanted parity is found if there is one. -/

namespace DidKeys

/-! ### Roots -/

theorem pow_fieldPrime_sub_one {y : Coord} (hy : y ≠ 0) : y ^ (fieldPrime - 1) = 1 := by
  have hcard : Fintype.card Coord = fieldPrime := Fintype.card_fin _
  have hfermat := FiniteField.pow_card_sub_one_eq_one y hy
  rw [hcard] at hfermat
  exact hfermat

/-- An exponent that fits twice into half a round of the group of units gives roots of squares. -/
theorem power_mul_power_of_square (y : Coord) {exponent : Nat}
    (hexponent : 2 * (exponent + exponent) = fieldPrime - 1 + 2) :
    Residue.power (y * y) exponent * Residue.power (y * y) exponent = y * y := by
  rw [Residue.power_eq_pow, ← pow_add, ← pow_two, ← pow_mul, hexponent]
  by_cases hy : y = 0
  · rw [hy, zero_pow (Nat.succ_ne_zero _), zero_pow two_ne_zero]
  · rw [pow_add, pow_fieldPrime_sub_one hy, one_mul]

/-- A square has one of its two roots found. -/
theorem squareRoot?_mul_self (y : Coord) :
    ∃ root, squareRoot? (y * y) = some root ∧ (root = y ∨ root = 0 - y) := by
  -- the prime is three modulo four
  have hroot := power_mul_power_of_square y
    (show 2 * ((fieldPrime + 1) / 4 + (fieldPrime + 1) / 4) = fieldPrime - 1 + 2 by decide)
  refine ⟨_, if_pos hroot, ?_⟩
  rw [zero_sub]
  exact mul_self_eq_mul_self_iff.mp hroot

theorem mul_self_of_squareRoot? {a root : Coord} (h : squareRoot? a = some root) :
    root * root = a := by
  unfold squareRoot? at h
  dsimp only at h
  split at h
  · next hroot =>
      cases h
      exact hroot
  · cases h

/-! ### Opposites -/

theorem power_neg_seven_ne_one : Residue.power (0 - 7 : Coord) ((fieldPrime - 1) / 3) ≠ 1 := by
  decide +kernel

/-- A cube other than zero goes once around the group of units in a third of a round. -/
theorem power_cube {x : Coord} (hx : x ≠ 0) {exponent : Nat}
    (hexponent : 3 * exponent = fieldPrime - 1) : Residue.power (x ^ 3) exponent = 1 := by
  rw [Residue.power_eq_pow, ← pow_mul, hexponent, pow_fieldPrime_sub_one hx]

/-- Minus seven is not a cube, so no point of the curve has a second coordinate of zero. -/
theorem ne_zero_of_onCurve {x y : Coord} (h : OnCurve x y) : y ≠ 0 := by
  rintro rfl
  have hcube : (0 - 7 : Coord) = x ^ 3 := by
    unfold OnCurve at h
    linear_combination h
  have hx : x ≠ 0 := by
    rintro rfl
    have hseven : (0 - 7 : Coord) ≠ 0 := by decide
    exact hseven (hcube.trans (zero_pow three_ne_zero))
  apply power_neg_seven_ne_one
  rw [hcube]
  exact power_cube hx (by decide)

theorem onCurve_zero_sub {x y : Coord} : OnCurve x (0 - y) ↔ OnCurve x y := by
  have hsquare : (0 - y) * (0 - y) = y * y := by ring
  unfold OnCurve
  rw [hsquare]

/-- The opposite point has the other parity. -/
theorem parity_zero_sub {x y : Coord} (h : OnCurve x y) :
    ((0 - y).val % 2 == 1) = !(y.val % 2 == 1) := by
  have hflip := Residue.val_zero_sub_mod_two (by decide) (ne_zero_of_onCurve h)
  rw [hflip]
  rcases Nat.mod_two_eq_zero_or_one y.val with hy | hy
  · rw [hy]
    rfl
  · rw [hy]
    rfl

/-! ### Lifting -/

/-- The second coordinate of the wanted parity is found just when it makes a point. -/
theorem liftX?_eq_some_iff {x y : Coord} {odd : Bool} :
    liftX? x odd = some y ↔ OnCurve x y ∧ (y.val % 2 == 1) = odd := by
  constructor
  · intro h
    obtain ⟨root, hroot, rfl⟩ := Option.map_eq_some_iff.1 h
    have hon : OnCurve x root := mul_self_of_squareRoot? hroot
    split
    · next hparity =>
        exact ⟨hon, beq_iff_eq.1 hparity⟩
    · next hparity =>
        refine ⟨onCurve_zero_sub.2 hon, ?_⟩
        rw [parity_zero_sub hon]
        revert hparity
        cases root.val % 2 == 1 <;> cases odd <;> decide
  · rintro ⟨hon, hparity⟩
    obtain ⟨root, hroot, hsame⟩ := squareRoot?_mul_self y
    unfold OnCurve at hon
    rw [liftX?, ← hon, hroot, Option.map_some, Option.some.injEq]
    rcases hsame with rfl | rfl
    · rw [if_pos (beq_iff_eq.2 hparity)]
    · rw [parity_zero_sub hon, hparity, if_neg (by cases odd <;> decide)]
      ring

end DidKeys
