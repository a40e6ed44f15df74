import DidKeys.Proofs.Key.Tweak
import DidKeys.Signature.Ecdsa

/-! # Signatures verify

A signature by a nonce `k` is the residue `r` of `k` times the generator, and the smaller of `s` and
its opposite, where `s` times `k` is the signed number plus `r` times the private key.  Verifying
divides by the second number, and so comes back to `k` times the generator, or to its opposite,
which has the same residue (`accepts_of_signWith?`).

* `exists_of_sign`: what is signed is such a pair, for the nonce that was drawn.
* `verify_of_sign`: the public key that belongs to the private one takes it. -/

namespace DidKeys

instance : Field Scalar := Residue.field groupOrder prime_groupOrder

/-! ### Multiples of the generator -/

/-- The scalar of a product, times the generator. -/
theorem val_mul_nsmul_generator (a b : Scalar) :
    (a * b).val • generatorElement = a.val • b.val • generatorElement := by
  rw [Fin.val_mul, mod_nsmul_generator, mul_nsmul']

/-- The scalar of an opposite, times the generator. -/
theorem val_zero_sub_nsmul_generator (a : Scalar) :
    (0 - a).val • generatorElement = -(a.val • generatorElement) := by
  apply eq_neg_of_add_eq_zero_left
  rw [add_comm, ← val_add_nsmul_generator, sub_add_cancel, Fin.val_zero, zero_nsmul]

/-- Opposite elements have one first coordinate. -/
theorem Point.residue?_ofGroup_neg (P : curve.Point) :
    (Point.ofGroup (-P)).residue? = (Point.ofGroup P).residue? := by
  cases P with
  | zero =>
      rfl
  | some x y h =>
      rw [WeierstrassCurve.Affine.Point.neg_some, Point.ofGroup_some, Point.ofGroup_some]
      rfl

/-! ### The second number -/

namespace Scalar

theorem low_eq_or (s : Scalar) : low s = s ∨ low s = 0 - s := by
  unfold low
  split
  · exact .inl rfl
  · exact .inr rfl

/-- The smaller of the two is in the lower half. -/
theorem val_low_le (s : Scalar) : (low s).val ≤ groupOrder / 2 := by
  unfold low
  split
  · next h => exact h
  · next h =>
    have hne : s ≠ 0 := by
      rintro rfl
      exact h (Nat.zero_le _)
    rw [Residue.val_zero_sub hne]
    omega

theorem low_low (s : Scalar) : low (low s) = low s := if_pos (val_low_le s)

theorem low_ne_zero {s : Scalar} (hs : s ≠ 0) : low s ≠ 0 := by
  rcases low_eq_or s with h | h
  · rw [h]
    exact hs
  · rw [h, zero_sub]
    exact neg_ne_zero.mpr hs

end Scalar

namespace Signature

theorem unit?_val {k : Scalar} (hk : k ≠ 0) : unit? k.val = some k := by
  have hkey : PrivateKey.ofScalar? k = some ⟨k, hk⟩ :=
    PrivateKey.ofScalar?_eq_some_iff.mpr rfl
  rw [unit?, Scalar.ofNat?_eq_some_iff.mpr rfl]
  show (do return (← PrivateKey.ofScalar? k).scalar) = _
  rw [hkey]
  rfl

theorem toNat_r_ofScalars (r s : Scalar) : (ofScalars r s).r.toNat = r.val :=
  Nat.mod_eq_of_lt (Nat.lt_trans r.isLt (by decide))

theorem toNat_s_ofScalars (r s : Scalar) : (ofScalars r s).s.toNat = s.val :=
  Nat.mod_eq_of_lt (Nat.lt_trans s.isLt (by decide))

/-- The two scalars of a signature are read back. -/
theorem scalars?_ofScalars {r s : Scalar} (hr : r ≠ 0) (hs : s ≠ 0) :
    (ofScalars r s).scalars? = some (r, s) := by
  rw [scalars?, toNat_r_ofScalars, toNat_s_ofScalars, unit?_val hr, unit?_val hs]
  rfl

end Signature

/-! ### Signing and verifying with one nonce -/

section pair
variable {key : PrivateKey} {publicKey : PublicKey} {digest nonce r s : Scalar}

theorem PrivateKey.signWith?_eq_some_iff :
    key.signWith? digest nonce = some (r, s) ↔
      (Point.ofGroup (nonce.val • generatorElement)).residue? = some r ∧ r ≠ 0 ∧
        ∃ full, full = Residue.inverse nonce * (digest + r * key.scalar) ∧ full ≠ 0 ∧
          s = Scalar.low full := by
  unfold signWith?
  rw [smul_generator, Option.bind_eq_bind, Option.bind_eq_some_iff]
  constructor
  · rintro ⟨r', hresidue, h⟩
    dsimp only at h
    split at h
    · cases h
    · next hne =>
      cases h
      exact ⟨hresidue, fun hr => hne (.inl hr), _, rfl, fun hs => hne (.inr hs), rfl⟩
  · rintro ⟨hresidue, hr, full, hfull, hs, hlow⟩
    refine ⟨r, hresidue, ?_⟩
    dsimp only
    rw [← hfull, hlow]
    exact if_neg (not_or.mpr ⟨hr, hs⟩)

/-- Verifying looks for the residue of one multiple of the generator. -/
theorem PublicKey.accepts_iff (hpublic : key.publicKey = .ok publicKey) :
    publicKey.accepts digest r s = true ↔
      (Point.ofGroup (((digest + r * key.scalar) * Residue.inverse s).val •
        generatorElement)).residue? = some r := by
  have hsum : (Point.smul (digest * Residue.inverse s).val .generator).add
      (Point.smul (r * Residue.inverse s).val publicKey.point) =
        Point.ofGroup (((digest + r * key.scalar) * Residue.inverse s).val •
          generatorElement) := by
    have hscalar : (digest + r * key.scalar) * Residue.inverse s =
        r * Residue.inverse s * key.scalar + digest * Residue.inverse s := by ring
    rw [smul_generator, PrivateKey.publicKey_eq_ok_iff.mp hpublic, ← Point.ofGroup_nsmul,
      ← Point.ofGroup_add, ← val_mul_nsmul_generator, ← val_add_nsmul_generator, hscalar]
  unfold accepts
  dsimp only
  rw [hsum, beq_iff_eq]

/-- The multiple that verifying looks at, without dividing. -/
theorem PublicKey.accepts_iff_of_mul_eq (hpublic : key.publicKey = .ok publicKey) (hs : s ≠ 0)
    {multiple : Scalar} (h : multiple * s = digest + r * key.scalar) :
    publicKey.accepts digest r s = true ↔
      (Point.ofGroup (multiple.val • generatorElement)).residue? = some r := by
  have hdivided : (digest + r * key.scalar) * Residue.inverse s = multiple := by
    rw [← h]
    exact mul_inv_cancel_right₀ hs multiple
  rw [accepts_iff hpublic, hdivided]

/-- The second number leads to the nonce, and its opposite to the opposite. -/
theorem PublicKey.accepts_of_signWith? (hpublic : key.publicKey = .ok publicKey)
    (h : key.signWith? digest nonce = some (r, s)) : publicKey.accepts digest r s = true := by
  obtain ⟨hresidue, _, full, hfull, hne, rfl⟩ := PrivateKey.signWith?_eq_some_iff.mp h
  have hnonce : nonce ≠ 0 := by
    rintro rfl
    have hinverse : Residue.inverse (0 : Scalar) = 0 := inv_zero
    rw [hinverse, zero_mul] at hfull
    exact hne hfull
  have hnumber : nonce * full = digest + r * key.scalar := by
    rw [hfull]
    exact mul_inv_cancel_left₀ hnonce _
  -- the signature holds the full number or its opposite
  rcases Scalar.low_eq_or full with hlow | hlow
  · rw [hlow, accepts_iff_of_mul_eq hpublic hne hnumber]
    exact hresidue
  · have hopposite : (0 - nonce) * (0 - full) = digest + r * key.scalar := by
      rw [zero_sub, zero_sub, neg_mul_neg, hnumber]
    have hne' : 0 - full ≠ 0 := by
      rw [zero_sub]
      exact neg_ne_zero.mpr hne
    rw [hlow, accepts_iff_of_mul_eq hpublic hne' hopposite, val_zero_sub_nsmul_generator,
      Point.residue?_ofGroup_neg]
    exact hresidue

end pair

/-! ### Messages -/

section message
variable {key : PrivateKey} {publicKey : PublicKey} {message : Bytes} {sig : Signature}

-- said of the function, not of its values: comparing these makes the kernel draw nonces
theorem PrivateKey.sign_eq : sign = fun key message =>
    let digest := signedNumber message
    match (Nonce.find? key digest).bind (key.signWith? digest) with
    | some (r, s) => .ok (.ofScalars r s)
    | none => .error .privateKeyRange := rfl

theorem PrivateKey.exists_of_sign (h : key.sign message = .ok sig) :
    ∃ nonce r s, Nonce.find? key (signedNumber message) = some nonce ∧
      key.signWith? (signedNumber message) nonce = some (r, s) ∧ sig = .ofScalars r s := by
  rw [sign_eq] at h
  dsimp only at h
  generalize signedNumber message = digest at h ⊢
  cases hpair : (Nonce.find? key digest).bind (key.signWith? digest) with
  | none =>
      rw [hpair] at h
      cases h
  | some pair =>
      obtain ⟨nonce, hnonce, hsigned⟩ := Option.bind_eq_some_iff.mp hpair
      rw [hpair] at h
      cases h
      exact ⟨nonce, pair.1, pair.2, hnonce, hsigned, rfl⟩

/-- Two scalars are judged with the smaller of the second one and its opposite. -/
theorem PublicKey.verify_ofScalars {r s : Scalar} (hr : r ≠ 0) (hs : s ≠ 0) :
    publicKey.verify message (.ofScalars r s) =
      publicKey.accepts (signedNumber message) r (Scalar.low s) := by
  unfold verify
  rw [Signature.scalars?_ofScalars hr hs]

/-- What a private key signs is taken by the public key that belongs to it. -/
theorem PublicKey.verify_of_sign (hpublic : key.publicKey = .ok publicKey)
    (h : key.sign message = .ok sig) : publicKey.verify message sig = true := by
  obtain ⟨nonce, r, s, _, hsigned, rfl⟩ := PrivateKey.exists_of_sign h
  obtain ⟨_, hr, full, _, hfull, hlow⟩ := PrivateKey.signWith?_eq_some_iff.mp hsigned
  have hs : s ≠ 0 := by
    rw [hlow]
    exact Scalar.low_ne_zero hfull
  have hsame : Scalar.low s = s := by rw [hlow, Scalar.low_low]
  rw [verify_ofScalars hr hs, hsame]
  exact accepts_of_signWith? hpublic hsigned

end message
end DidKeys
