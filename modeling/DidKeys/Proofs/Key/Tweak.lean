import DidKeys.Key.Private
import DidKeys.Proofs.Curve.Order
import DidKeys.Proofs.Except

/-! # Tweaks of private and public keys

Multiplying the generator turns sums of scalars into sums of points.  So a private key and the
public key that belongs to it can be tweaked on their own.

* `PrivateKey.publicKey_eq_ok_iff`: the public key of a private key, as an element of the group.
* `PrivateKey.exists_publicKey`: there always is one.
* `PublicKey.tweak_of_publicKey`: both tweaks lead to the same key, and fail together.
* `PublicKey.tweak_eq_error_iff`: they fail for tweaks that are too large or lead to infinity. -/

namespace DidKeys

theorem smul_generator (k : Nat) :
    Point.smul k .generator = Point.ofGroup (k • generatorElement) := by
  rw [Point.ofGroup_nsmul, ofGroup_generatorElement]

namespace PublicKey

theorem ofPoint?_eq_some_iff {p : Point} {key : PublicKey} :
    ofPoint? p = some key ↔ key.point = p := by
  constructor
  · intro h
    unfold ofPoint? at h
    split at h
    · cases h
    · next x y =>
      split at h
      · cases h
        rfl
      · cases h
  · rintro rfl
    exact ofPoint?_point key

theorem ofPoint?_ofGroup_eq_none_iff {P : curve.Point} :
    ofPoint? (Point.ofGroup P) = none ↔ P = 0 := by
  cases P with
  | zero =>
      exact iff_of_true rfl rfl
  | some x y h =>
      refine iff_of_false ?_ (WeierstrassCurve.Affine.Point.some_ne_zero h)
      have hon := (nonsingular_iff_onCurve x y).mp h
      rw [Point.ofGroup_some, ofPoint?, dif_pos hon]
      exact Option.some_ne_none _

theorem eq_tweak_of_tweak_eq_error {key : PublicKey} {tweak : Nat} {cause : KeyError}
    (h : key.tweak tweak = .error cause) : cause = .tweak := by
  unfold PublicKey.tweak at h
  split at h
  · cases h
    rfl
  · split at h
    · cases h
    · cases h
      rfl

end PublicKey

namespace PrivateKey

theorem publicKey_eq_ok_iff {key : PrivateKey} {publicKey : PublicKey} :
    key.publicKey = .ok publicKey ↔
      publicKey.point = Point.ofGroup (key.scalar.val • generatorElement) := by
  unfold PrivateKey.publicKey
  rw [smul_generator, ← PublicKey.ofPoint?_eq_some_iff]
  cases PublicKey.ofPoint? (Point.ofGroup (key.scalar.val • generatorElement)) with
  | none =>
      exact iff_of_false (fun h => nomatch h) (fun h => nomatch h)
  | some point =>
      dsimp only
      rw [Except.ok.injEq, Option.some.injEq]

/-- No scalar but zero leads to infinity. -/
theorem scalar_nsmul_ne_zero (key : PrivateKey) : key.scalar.val • generatorElement ≠ 0 := by
  rw [Ne, nsmul_generator_eq_zero_iff]
  intro hdvd
  have hzero : key.scalar.val = 0 := Nat.eq_zero_of_dvd_of_lt hdvd key.scalar.isLt
  exact key.ne_zero (Fin.ext hzero)

theorem exists_publicKey (key : PrivateKey) : ∃ publicKey, key.publicKey = .ok publicKey := by
  have hne : PublicKey.ofPoint? (Point.ofGroup (key.scalar.val • generatorElement)) ≠ none := by
    rw [Ne, PublicKey.ofPoint?_ofGroup_eq_none_iff]
    exact key.scalar_nsmul_ne_zero
  obtain ⟨publicKey, h⟩ := Option.ne_none_iff_exists'.mp hne
  exact ⟨publicKey, publicKey_eq_ok_iff.mpr (PublicKey.ofPoint?_eq_some_iff.mp h)⟩

theorem ofScalar?_eq_some_iff {k : Scalar} {key : PrivateKey} :
    ofScalar? k = some key ↔ key.scalar = k := by
  constructor
  · intro h
    unfold ofScalar? at h
    split at h
    · cases h
      rfl
    · cases h
  · rintro rfl
    exact ofScalar?_scalar key

theorem ofScalar?_eq_none_iff {k : Scalar} : ofScalar? k = none ↔ k = 0 := by
  unfold ofScalar?
  split
  · next h => exact iff_of_false (Option.some_ne_none _) h
  · next h => exact iff_of_true rfl (not_not.mp h)

theorem eq_tweak_of_tweak_eq_error {key : PrivateKey} {tweak : Nat} {cause : KeyError}
    (h : key.tweak tweak = .error cause) : cause = .tweak := by
  unfold PrivateKey.tweak at h
  split at h
  · cases h
    rfl
  · split at h
    · cases h
    · cases h
      rfl

end PrivateKey

/-! ### Sums -/

/-- The scalar of a sum, times the generator. -/
theorem val_add_nsmul_generator (a b : Scalar) :
    (a + b).val • generatorElement = b.val • generatorElement + a.val • generatorElement := by
  rw [Fin.val_add, mod_nsmul_generator, add_nsmul, add_comm]

/-- Tweaking a public key gives the public key of the tweaked private key, or fails like it. -/
theorem PublicKey.tweak_of_publicKey {key : PrivateKey} {publicKey : PublicKey}
    (h : key.publicKey = .ok publicKey) (tweak : Nat) :
    publicKey.tweak tweak = key.tweak tweak >>= PrivateKey.publicKey := by
  unfold PublicKey.tweak PrivateKey.tweak
  cases Scalar.ofNat? tweak with
  | none =>
      rfl
  | some t =>
      have hpoint : (Point.smul t.val .generator).add publicKey.point =
          Point.ofGroup ((key.scalar + t).val • generatorElement) := by
        rw [smul_generator, PrivateKey.publicKey_eq_ok_iff.mp h, ← Point.ofGroup_add,
          val_add_nsmul_generator]
      dsimp only
      rw [hpoint]
      cases hchild : PrivateKey.ofScalar? (key.scalar + t) with
      | none =>
          -- the sum of the scalars is zero, so the sum of the points is at infinity
          have hzero : (key.scalar + t).val • generatorElement = 0 := by
            rw [PrivateKey.ofScalar?_eq_none_iff.mp hchild, Fin.val_zero, zero_nsmul]
          rw [PublicKey.ofPoint?_ofGroup_eq_none_iff.mpr hzero]
          rfl
      | some child =>
          obtain ⟨childKey, hkey⟩ := child.exists_publicKey
          have hscalar := PrivateKey.ofScalar?_eq_some_iff.mp hchild
          have hsame := PrivateKey.publicKey_eq_ok_iff.mp hkey
          rw [hscalar] at hsame
          rw [PublicKey.ofPoint?_eq_some_iff.mpr hsame]
          exact hkey.symm

/-! ### Tweaks without a result -/

/-- A tweak of a public key is too large, or it leads to infinity. -/
theorem PublicKey.tweak_eq_error_iff {key : PublicKey} {tweak : Nat} :
    key.tweak tweak = .error .tweak ↔
      groupOrder ≤ tweak ∨ (Point.smul tweak .generator).add key.point = .infinity := by
  unfold PublicKey.tweak
  cases hscalar : Scalar.ofNat? tweak with
  | none =>
      exact iff_of_true rfl (.inl (Scalar.ofNat?_eq_none_iff.mp hscalar))
  | some t =>
      obtain rfl := Scalar.ofNat?_eq_some_iff.mp hscalar
      have hsmall : ¬groupOrder ≤ t.val := Nat.not_le.mpr t.isLt
      obtain ⟨P, hP⟩ := Point.exists_ofGroup (p := key.point) key.on_curve
      have hsum : (Point.smul t.val .generator).add key.point =
          Point.ofGroup (t.val • generatorElement + P) := by
        rw [smul_generator, ← hP, Point.ofGroup_add]
      dsimp only
      rw [or_iff_right hsmall, hsum, Point.ofGroup_eq_infinity_iff,
        ← PublicKey.ofPoint?_ofGroup_eq_none_iff]
      cases PublicKey.ofPoint? (Point.ofGroup (t.val • generatorElement + P)) with
      | none =>
          exact iff_of_true rfl rfl
      | some child =>
          exact iff_of_false (fun h => nomatch h) (Option.some_ne_none child)

/-- The private half of a key has a sum with a tweak just when the public half has. -/
theorem PrivateKey.tweak_eq_error_iff {key : PrivateKey} {publicKey : PublicKey} {tweak : Nat}
    (h : key.publicKey = .ok publicKey) :
    key.tweak tweak = .error .tweak ↔ publicKey.tweak tweak = .error .tweak := by
  rw [PublicKey.tweak_of_publicKey h, bind_eq_error_iff]
  constructor
  · exact .inl
  · rintro (herror | ⟨child, _, hchild⟩)
    · exact herror
    · obtain ⟨childKey, hkey⟩ := child.exists_publicKey
      rw [hkey] at hchild
      cases hchild

end DidKeys
