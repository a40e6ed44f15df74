import DidKeys.Curve.Residue
import Mathlib.Algebra.Field.Basic
import Mathlib.Algebra.Ring.Parity
import Mathlib.Data.ZMod.Basic
import Mathlib.Tactic.LinearCombination

/-! # Residues as a ring, and as a field

`Fin m` is a ring, and a field when `m` is prime.

* `power_eq_pow`: repeated squaring finds the power of the ring.
* `inverse_mul_self`: the Euclidean algorithm finds the inverse.  Both remainders stay the
  multiples of the argument that their cofactors say, and their greatest common divisor stays one.
* `field`: division by `inverse` is that of a field. -/

namespace DidKeys.Residue

open scoped Fin.CommRing

section ring
variable {m : Nat} [NeZero m]

/-! ### Powers -/

theorem power_eq_pow (a : Fin m) (exponent : Nat) : power a exponent = a ^ exponent := by
  fun_induction power a exponent with
  | case1 =>
      rw [pow_zero]
  | case2 exponent _ half hodd ih =>
      have hsum : exponent = exponent / 2 + exponent / 2 + 1 := by omega
      rw [hsum, pow_succ, pow_add, ← ih]
  | case3 exponent _ half heven ih =>
      have hsum : exponent = exponent / 2 + exponent / 2 := by omega
      rw [hsum, pow_add, ← ih]

/-! ### Inverses -/

theorem inverseFrom_mul (a : Fin m) (r₀ r₁ : Nat) (t₀ t₁ : Fin m) (h₀ : (r₀ : Fin m) = t₀ * a)
    (h₁ : (r₁ : Fin m) = t₁ * a) :
    inverseFrom r₀ r₁ t₀ t₁ * a = ((Nat.gcd r₀ r₁ : Nat) : Fin m) := by
  fun_induction inverseFrom r₀ r₁ t₀ t₁ with
  | case1 r₀ t₀ t₁ =>
      rw [Nat.gcd_zero_right, h₀]
  | case2 r₀ r₁ t₀ t₁ hr _ ih =>
      have hnext : ((r₀ % r₁ : Nat) : Fin m) = (t₀ - Fin.ofNat m (r₀ / r₁) * t₁) * a := by
        have hdiv : (r₀ : Fin m) = (r₁ : Fin m) * ((r₀ / r₁ : Nat) : Fin m) + (r₀ % r₁ : Nat) := by
          rw [← Nat.cast_mul, ← Nat.cast_add, Nat.div_add_mod]
        have hquotient : Fin.ofNat m (r₀ / r₁) = ((r₀ / r₁ : Nat) : Fin m) := rfl
        rw [hquotient]
        linear_combination h₀ - ((r₀ / r₁ : Nat) : Fin m) * h₁ - hdiv
      rw [ih h₁ hnext, Nat.gcd_comm r₁, ← Nat.gcd_rec, Nat.gcd_comm]

theorem inverse_mul_self (a : Fin m) (ha : Nat.Coprime m a.val) : inverse a * a = 1 := by
  have hm : ((m : Nat) : Fin m) = 0 * a := by
    rw [zero_mul]
    exact Fin.natCast_self m
  have hval : ((a.val : Nat) : Fin m) = 1 * a := by
    rw [one_mul]
    exact Fin.cast_val_eq_self a
  unfold inverse
  rw [inverseFrom_mul a m a.val 0 1 hm hval, ha, Nat.cast_one]

@[simp] theorem inverse_zero : inverse (0 : Fin m) = 0 := by
  unfold inverse
  rw [Fin.val_zero, inverseFrom, dif_pos rfl]

/-! ### Opposites -/

theorem val_zero_sub {a : Fin m} (ha : a ≠ 0) : (0 - a).val = m - a.val := by
  have hpos : 0 < a.val := Nat.pos_of_ne_zero fun h => ha (Fin.ext h)
  have hlt := a.isLt
  rw [Fin.val_sub, Fin.val_zero, Nat.add_zero, Nat.mod_eq_of_lt (by omega)]

/-- Modulo an odd number, opposites other than zero differ in parity. -/
theorem val_zero_sub_mod_two {a : Fin m} (hm : m % 2 = 1) (ha : a ≠ 0) :
    (0 - a).val % 2 = 1 - a.val % 2 := by
  have hlt := a.isLt
  rw [val_zero_sub ha]
  omega

end ring

/-- The residues modulo a prime, with `inverse`. -/
@[reducible] def field (p : Nat) [NeZero p] (hp : p.Prime) : Field (Fin p) where
  inv := inverse
  div := fun a b => a * inverse b
  exists_pair_ne := ⟨0, 1, fun h => by
    have hval := congrArg Fin.val h
    rw [Fin.val_zero, Fin.val_one', Nat.mod_eq_of_lt hp.one_lt] at hval
    exact Nat.zero_ne_one hval⟩
  mul_inv_cancel := fun a ha => by
    have hpos : 0 < a.val := Nat.pos_of_ne_zero fun h => ha (Fin.ext h)
    have hcop : Nat.Coprime p a.val :=
      (Nat.Prime.coprime_iff_not_dvd hp).mpr fun h => Nat.not_le_of_lt a.isLt (Nat.le_of_dvd hpos h)
    rw [mul_comm]
    exact inverse_mul_self a hcop
  inv_zero := inverse_zero
  nnqsmul := _
  nnqsmul_def := fun _ _ => rfl
  qsmul := _
  qsmul_def := fun _ _ => rfl

end DidKeys.Residue
