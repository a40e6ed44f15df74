import DidKeys.Proofs.Curve.Group
import Mathlib.GroupTheory.OrderOfElement

/-! # The order of the generator

The generator has order `groupOrder`.  That so many steps lead back to zero is computed; to divide
only once, the computation is done with numerators over a common denominator `z`: the coordinates
are `x / z²` and `y / z³`.

* `Jacobian.represents_double`, `Jacobian.represents_addGenerator`: one step of doubling and adding.
  A denominator that becomes zero stays zero, so only the last one has to be looked at.
* `Jacobian.represents_multiple`: what a whole run computes.
* `nsmul_generator_eq_zero_iff`: which multiples of the generator vanish. -/

namespace DidKeys

/-! ### Common denominators -/

/-- A point of the plane with its coordinates over the square and the cube of `z`. -/
structure Jacobian where
  x : Coord
  y : Coord
  z : Coord
  deriving DecidableEq

namespace Jacobian

/-- The numerators and the denominator are those of a point. -/
inductive Represents (j : Jacobian) : Point → Prop
  | affine {x y : Coord} (z_ne_zero : j.z ≠ 0) (x_eq : j.x = x * j.z * j.z)
      (y_eq : j.y = y * j.z * j.z * j.z) : Represents j (.affine x y)

theorem represents_affine_iff {j : Jacobian} {x y : Coord} :
    j.Represents (.affine x y) ↔
      j.z ≠ 0 ∧ j.x = x * j.z * j.z ∧ j.y = y * j.z * j.z * j.z := by
  constructor
  · rintro ⟨hz, hx, hy⟩
    exact ⟨hz, hx, hy⟩
  · rintro ⟨hz, hx, hy⟩
    exact .affine hz hx hy

instance (j : Jacobian) (x y : Coord) : Decidable (j.Represents (.affine x y)) :=
  decidable_of_iff _ represents_affine_iff.symm

theorem Represents.z_ne_zero {j : Jacobian} {p : Point} (h : j.Represents p) : j.z ≠ 0 := by
  obtain ⟨hz, _, _⟩ := h
  exact hz

theorem represents_unique {j : Jacobian} {p q : Point} (hp : j.Represents p)
    (hq : j.Represents q) : p = q := by
  obtain @⟨x, y, hz, hx, hy⟩ := hp
  obtain @⟨x', y', _, hx', hy'⟩ := hq
  have hxx : x = x' := by
    apply mul_right_cancel₀ hz
    apply mul_right_cancel₀ hz
    rw [← hx, ← hx']
  have hyy : y = y' := by
    apply mul_right_cancel₀ hz
    apply mul_right_cancel₀ hz
    apply mul_right_cancel₀ hz
    rw [← hy, ← hy']
  rw [hxx, hyy]

/-- The third point on a line, once the slope has the denominator `z` and the numerator `m`. -/
theorem represents_along {j : Jacobian} {slope m x₁ y₁ x₂ : Coord} (hz : j.z ≠ 0)
    (hm : slope * j.z = m) (hx : j.x = m * m - (x₁ + x₂) * j.z * j.z)
    (hy : j.y = m * (x₁ * j.z * j.z - j.x) - y₁ * j.z * j.z * j.z) :
    j.Represents (Point.along slope x₁ y₁ x₂) := by
  subst hm
  refine ⟨hz, ?_, ?_⟩
  · rw [hx]
    ring
  · rw [hy, hx]
    ring

/-! ### Steps -/

/-- The first coordinate of the generator. -/
def generatorX : Coord :=
  Fin.ofNat _ 0x79be667ef9dcbbac55a06295ce870b07029bfcdb2dce28d959f2815b16f81798

/-- The second coordinate of the generator. -/
def generatorY : Coord :=
  Fin.ofNat _ 0x483ada7726a3c4655da4fbfc0e1108a8fd17b448a68554199c47d08ffb10d4b8

/-- Twice a point. -/
def double (j : Jacobian) : Jacobian :=
  let m := 3 * j.x * j.x
  let yy := j.y * j.y
  let s := 4 * j.x * yy
  let x := m * m - 2 * s
  ⟨x, m * (s - x) - 8 * yy * yy, 2 * j.y * j.z⟩

/-- A point and the generator. -/
def addGenerator (j : Jacobian) : Jacobian :=
  let zz := j.z * j.z
  let h := generatorX * zz - j.x
  let m := generatorY * zz * j.z - j.y
  let hh := h * h
  let v := j.x * hh
  let x := m * m - h * hh - 2 * v
  ⟨x, m * (v - x) - j.y * (h * hh), j.z * h⟩

theorem represents_double {j : Jacobian} {p : Point} (h : j.Represents p) (hz : j.double.z ≠ 0) :
    j.double.Represents (p.add p) := by
  obtain @⟨x, y, _, hx, hy⟩ := h
  have hyz : 2 * j.y * j.z ≠ 0 := hz
  have hy₀ : 2 * y ≠ 0 := by
    intro h₀
    apply hyz
    rw [hy]
    linear_combination j.z * j.z * j.z * j.z * h₀
  have hyy : y + y ≠ 0 := by
    rw [← two_mul]
    exact hy₀
  have hinv : Residue.inverse (2 * y) * (2 * y) = 1 := inv_mul_cancel₀ hy₀
  rw [Point.affine_add_self x hyy]
  refine represents_along (m := 3 * j.x * j.x) hz ?_ ?_ ?_
  · simp only [double]
    rw [hx, hy]
    linear_combination 3 * x * x * j.z * j.z * j.z * j.z * hinv
  · simp only [double]
    rw [hx]
    ring
  · simp only [double]
    rw [hx, hy]
    ring

theorem represents_addGenerator {j : Jacobian} {p : Point} (h : j.Represents p)
    (hz : j.addGenerator.z ≠ 0) : j.addGenerator.Represents (p.add Point.generator) := by
  obtain @⟨x, y, _, hx, hy⟩ := h
  have hzh : j.z * (generatorX * (j.z * j.z) - j.x) ≠ 0 := hz
  have hx₀ : generatorX - x ≠ 0 := by
    intro h₀
    apply hzh
    rw [hx]
    linear_combination j.z * j.z * j.z * h₀
  have hne : x ≠ generatorX := fun heq => hx₀ (by rw [heq, sub_self])
  have hinv : Residue.inverse (generatorX - x) * (generatorX - x) = 1 := inv_mul_cancel₀ hx₀
  have hgenerator : Point.generator = .affine generatorX generatorY := rfl
  rw [hgenerator, Point.affine_add_affine y generatorY hne]
  refine represents_along (m := generatorY * (j.z * j.z) * j.z - j.y) hz ?_ ?_ ?_
  · simp only [addGenerator]
    rw [hx, hy]
    linear_combination (generatorY - y) * j.z * j.z * j.z * hinv
  · simp only [addGenerator]
    rw [hx]
    ring
  · simp only [addGenerator]
    rw [hx, hy]
    ring

theorem z_ne_zero_of_double {j : Jacobian} (hz : j.double.z ≠ 0) : j.z ≠ 0 := by
  intro h
  apply hz
  simp only [double]
  rw [h, mul_zero]

theorem z_ne_zero_of_addGenerator {j : Jacobian} (hz : j.addGenerator.z ≠ 0) : j.z ≠ 0 := by
  intro h
  apply hz
  simp only [addGenerator]
  rw [h, zero_mul]

/-! ### Runs -/

/-- The generator times `k`, a number of `count + 1` bits. -/
def multiple : Nat → Nat → Jacobian
  | 0, _ => ⟨generatorX, generatorY, 1⟩
  | count + 1, k =>
    let even := (multiple count (k / 2)).double
    if k % 2 = 1 then even.addGenerator else even

end Jacobian

/-- The generator as an element of the group. -/
def generatorElement : curve.Point :=
  .some Jacobian.generatorX Jacobian.generatorY
    ((nonsingular_iff_onCurve _ _).mpr Point.valid_generator)

@[simp] theorem ofGroup_generatorElement : Point.ofGroup generatorElement = .generator := rfl

theorem Jacobian.represents_multiple (count k : Nat) (hk : k / 2 ^ count = 1)
    (hz : (multiple count k).z ≠ 0) :
    (multiple count k).Represents (Point.ofGroup (k • generatorElement)) := by
  induction count generalizing k with
  | zero =>
      have hone : k = 1 := by simpa using hk
      rw [hone, one_nsmul]
      refine ⟨hz, ?_, ?_⟩
      · exact ((mul_one _).trans (mul_one _)).symm
      · exact (((mul_one _).trans (mul_one _)).trans (mul_one _)).symm
  | succ count ih =>
      have hhalf : k / 2 / 2 ^ count = 1 := by
        rw [Nat.div_div_eq_div_mul, ← Nat.pow_succ']
        exact hk
      have hdouble : (multiple count (k / 2)).double.z ≠ 0 →
          (multiple count (k / 2)).double.Represents
            (Point.ofGroup ((k / 2 + k / 2) • generatorElement)) := by
        intro hz
        rw [add_nsmul, Point.ofGroup_add]
        exact represents_double (ih (k / 2) hhalf (z_ne_zero_of_double hz)) hz
      unfold multiple at hz ⊢
      dsimp only at hz ⊢
      by_cases hodd : k % 2 = 1
      · have hsum : k / 2 + k / 2 + 1 = k := by omega
        have hstep : k • generatorElement =
            (k / 2 + k / 2) • generatorElement + generatorElement := by
          rw [← succ_nsmul, hsum]
        rw [if_pos hodd] at hz ⊢
        rw [hstep, Point.ofGroup_add, ofGroup_generatorElement]
        exact represents_addGenerator (hdouble (z_ne_zero_of_addGenerator hz)) hz
      · have hsum : k / 2 + k / 2 = k := by omega
        have hstep : k • generatorElement = (k / 2 + k / 2) • generatorElement := by
          rw [hsum]
        rw [if_neg hodd] at hz ⊢
        rw [hstep]
        exact hdouble hz

/-- The multiple that was computed is the point that it represents. -/
theorem Jacobian.ofGroup_nsmul_of_represents {count k : Nat} {p : Point} (hk : k / 2 ^ count = 1)
    (h : (multiple count k).Represents p) : Point.ofGroup (k • generatorElement) = p :=
  represents_unique (represents_multiple count k hk h.z_ne_zero) h

/-! ### The order -/

/-- One step before the order, the multiple is the opposite of the generator. -/
theorem represents_pred_order :
    (Jacobian.multiple 255 (groupOrder - 1)).Represents
      (.affine Jacobian.generatorX (0 - Jacobian.generatorY)) := by
  decide +kernel

theorem ofGroup_neg_generator :
    Point.ofGroup (-generatorElement) =
      .affine Jacobian.generatorX (0 - Jacobian.generatorY) := by
  unfold generatorElement
  rw [WeierstrassCurve.Affine.Point.neg_some, Point.ofGroup_some, negY_curve, zero_sub]

theorem groupOrder_nsmul_generator : groupOrder • generatorElement = 0 := by
  have hbits : (groupOrder - 1) / 2 ^ 255 = 1 := by norm_num [groupOrder]
  have hopposite : (groupOrder - 1) • generatorElement = -generatorElement := by
    apply Point.ofGroup_injective
    rw [ofGroup_neg_generator]
    exact Jacobian.ofGroup_nsmul_of_represents hbits represents_pred_order
  have hsum : groupOrder - 1 + 1 = groupOrder := by decide
  rw [← hsum, succ_nsmul, hopposite, neg_add_cancel]

theorem addOrderOf_generator : addOrderOf generatorElement = groupOrder := by
  have : Fact groupOrder.Prime := ⟨prime_groupOrder⟩
  exact addOrderOf_eq_prime groupOrder_nsmul_generator
    (WeierstrassCurve.Affine.Point.some_ne_zero _)

theorem nsmul_generator_eq_zero_iff (k : Nat) :
    k • generatorElement = 0 ↔ groupOrder ∣ k := by
  rw [← addOrderOf_generator]
  exact addOrderOf_dvd_iff_nsmul_eq_zero.symm

theorem mod_nsmul_generator (k : Nat) :
    (k % groupOrder) • generatorElement = k • generatorElement := by
  rw [← addOrderOf_generator]
  exact mod_addOrderOf_nsmul generatorElement k

end DidKeys
