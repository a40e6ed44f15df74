import DidKeys.Curve.Residue

/-! # The curve secp256k1

All keys are points of the curve `y² = x³ + 7` over the integers modulo `fieldPrime`.

* `Coord` is a coordinate, `Scalar` a number modulo the order of the group.
* `Point` is a point with affine coordinates or the point at infinity; `add` is the chord and
  tangent law, `smul` repeated addition by doubling.
* `squareRoot?` finds the other coordinate of a compressed point. -/

namespace DidKeys

/-! ### Parameters -/

/-- The name of the curve wherever a curve is named. -/
def curveName : String := "secp256k1"

/-- The prime over which the curve is defined. -/
def fieldPrime : Nat := 0xfffffffffffffffffffffffffffffffffffffffffffffffffffffffefffffc2f

/-- The order of the group of points. -/
def groupOrder : Nat := 0xfffffffffffffffffffffffffffffffebaaedce6af48a03bbfd25e8cd0364141

instance : @NeZero Nat Zero.ofOfNat0 fieldPrime := ⟨by decide⟩

instance : @NeZero Nat Zero.ofOfNat0 groupOrder := ⟨by decide⟩

/-- A coordinate of a point. -/
abbrev Coord := Fin fieldPrime

/-- A number modulo the order of the group. -/
abbrev Scalar := Fin groupOrder

/-- The scalar that a number is, if it is below the order of the group. -/
def Scalar.ofNat? (v : Nat) : Option Scalar :=
  if h : v < groupOrder then some ⟨v, h⟩ else none

/-- The coordinate that a number is, if it is below the prime. -/
def Coord.ofNat? (v : Nat) : Option Coord :=
  if h : v < fieldPrime then some ⟨v, h⟩ else none

theorem Scalar.ofNat?_eq_some_iff {v : Nat} {k : Scalar} :
    Scalar.ofNat? v = some k ↔ v = k.val := by
  unfold Scalar.ofNat?
  split
  · simp [Fin.ext_iff]
  · next h => simp; intro hv; exact h (hv ▸ k.isLt)

theorem Scalar.ofNat?_eq_none_iff {v : Nat} : Scalar.ofNat? v = none ↔ groupOrder ≤ v := by
  unfold Scalar.ofNat?
  split
  · next h => exact iff_of_false (Option.some_ne_none _) (Nat.not_le.mpr h)
  · next h => exact iff_of_true rfl (Nat.not_lt.mp h)

theorem Coord.ofNat?_eq_some_iff {v : Nat} {x : Coord} : Coord.ofNat? v = some x ↔ v = x.val := by
  unfold Coord.ofNat?
  split
  · simp [Fin.ext_iff]
  · next h => simp; intro hv; exact h (hv ▸ x.isLt)

/-- The equation of the curve. -/
def OnCurve (x y : Coord) : Prop := y * y = x * x * x + 7

instance (x y : Coord) : Decidable (OnCurve x y) := inferInstanceAs (Decidable (_ = _))

/-! ### The group -/

/-- A point of the plane, or the point at infinity, which is the zero of the group. -/
inductive Point where
  | infinity
  | affine (x y : Coord)
  deriving DecidableEq

namespace Point

/-- The third point on the line of slope `slope` through `(x₁, y₁)` and a point over `x₂`,
reflected. -/
def along (slope x₁ y₁ x₂ : Coord) : Point :=
  let x := slope * slope - x₁ - x₂
  .affine x (slope * (x₁ - x) - y₁)

/-- The sum of two points: the chord through them, or the tangent where they agree. -/
def add : Point → Point → Point
  | .infinity, q => q
  | p, .infinity => p
  | .affine x₁ y₁, .affine x₂ y₂ =>
    if x₁ = x₂ then
      if y₁ + y₂ = 0 then .infinity
      else along (3 * x₁ * x₁ * Residue.inverse (2 * y₁)) x₁ y₁ x₂
    else along ((y₂ - y₁) * Residue.inverse (x₂ - x₁)) x₁ y₁ x₂

/-- The `k`-fold sum of a point. -/
def smul (k : Nat) (p : Point) : Point :=
  if k = 0 then .infinity
  else
    let half := smul (k / 2) p
    let even := half.add half
    if k % 2 = 1 then even.add p else even
termination_by k

/-- The point whose multiples the group consists of. -/
def generator : Point :=
  .affine
    (Fin.ofNat _ 0x79be667ef9dcbbac55a06295ce870b07029bfcdb2dce28d959f2815b16f81798)
    (Fin.ofNat _ 0x483ada7726a3c4655da4fbfc0e1108a8fd17b448a68554199c47d08ffb10d4b8)

/-- The point is at infinity or satisfies the equation of the curve. -/
def Valid : Point → Prop
  | .infinity => True
  | .affine x y => OnCurve x y

theorem valid_generator : generator.Valid := by
  show OnCurve _ _
  decide

@[simp] theorem add_infinity (p : Point) : p.add .infinity = p := by
  cases p <;> rfl

@[simp] theorem infinity_add (p : Point) : Point.infinity.add p = p := by
  cases p <;> rfl

@[simp] theorem smul_zero (p : Point) : smul 0 p = .infinity := by
  rw [smul]; rfl

end Point

/-! ### Square roots -/

/-- A square root of a coordinate, if it has one; the prime is three modulo four, so a power finds
it. -/
def squareRoot? (a : Coord) : Option Coord :=
  let root := Residue.power a ((fieldPrime + 1) / 4)
  if root * root = a then some root else none

/-- The coordinate `y` of the wanted parity over `x`, if `x` is the coordinate of a point. -/
def liftX? (x : Coord) (odd : Bool) : Option Coord :=
  (squareRoot? (x * x * x + 7)).map fun root =>
    if (root.val % 2 == 1) == odd then root else 0 - root

end DidKeys
