/-! # Residues

Arithmetic modulo `m` is that of `Fin m`.  This module adds what signatures and curve points need
beyond sums and products.

* `inverse`: the inverse of a unit, by the extended Euclidean algorithm with the cofactors kept
  modulo `m`; zero for zero.
* `power`: powers by repeated squaring. -/

namespace DidKeys.Residue

-- the zero is spelled out, since a number can have several
variable {m : Nat} [@NeZero Nat Zero.ofOfNat0 m]

/-- The remainders `r₀`, `r₁` of the Euclidean algorithm for `m` and `a`, and cofactors with
`r₀ = t₀ * a` and `r₁ = t₁ * a` modulo `m`; the cofactor of the last remainder that is not zero. -/
def inverseFrom (r₀ r₁ : Nat) (t₀ t₁ : Fin m) : Fin m :=
  if h : r₁ = 0 then t₀
  else
    have : r₀ % r₁ < r₁ := Nat.mod_lt _ (Nat.pos_of_ne_zero h)
    inverseFrom r₁ (r₀ % r₁) t₁ (t₀ - Fin.ofNat m (r₀ / r₁) * t₁)
termination_by r₁

/-- The inverse of a unit. -/
def inverse (a : Fin m) : Fin m := inverseFrom m a.val 0 1

/-- The power of a residue. -/
def power (a : Fin m) (exponent : Nat) : Fin m :=
  if exponent = 0 then 1
  else
    let half := power a (exponent / 2)
    if exponent % 2 = 1 then half * half * a else half * half
termination_by exponent

end DidKeys.Residue
