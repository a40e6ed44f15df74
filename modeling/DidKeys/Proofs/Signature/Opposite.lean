import DidKeys.Proofs.Bytes.Utf8
import DidKeys.Proofs.Signature.Verification

/-! # Signatures and their opposites

A signature has an opposite, with the negative of its second number modulo the order of the group.
Signing gives the one of both whose second number is in the lower half, and verifying does not tell
them apart (`verify_opposite`).  A signature with a number that is no scalar, or zero, is never
valid (`verify_eq_false_of_not_inRange`). -/

namespace DidKeys

/-! ### The lower half -/

/-- A scalar and its negative have the same smaller one: the order of the group is odd, so exactly
one of both is in the lower half. -/
theorem Scalar.low_zero_sub (s : Scalar) : low (0 - s) = low s := by
  by_cases hs : s = 0
  · rw [hs, sub_zero]
  have hlt := s.isLt
  have hopposite : (0 - s).val = groupOrder - s.val := Residue.val_zero_sub hs
  have hodd : groupOrder % 2 = 1 := by decide
  unfold low
  by_cases hlow : s.val ≤ groupOrder / 2
  · rw [if_pos hlow, if_neg (by omega), sub_sub_cancel]
  · rw [if_neg hlow, if_pos (by omega)]

namespace Signature

/-! ### Numbers of a signature -/

theorem unit?_eq_some_iff {v : Nat} {k : Scalar} : unit? v = some k ↔ v = k.val ∧ k ≠ 0 := by
  constructor
  · intro h
    obtain ⟨scalar, hscalar, hrest⟩ := Option.bind_eq_some_iff.mp h
    obtain ⟨key, hkey, hvalue⟩ := Option.bind_eq_some_iff.mp hrest
    cases hvalue
    have heq : key.scalar = scalar := PrivateKey.ofScalar?_eq_some_iff.mp hkey
    rw [heq]
    exact ⟨Scalar.ofNat?_eq_some_iff.mp hscalar, heq ▸ key.ne_zero⟩
  · rintro ⟨rfl, hk⟩
    exact unit?_val hk

/-- Both numbers are scalars other than zero. -/
structure InRange (sig : Signature) : Prop where
  r_pos : 0 < sig.r.toNat
  r_lt : sig.r.toNat < groupOrder
  s_pos : 0 < sig.s.toNat
  s_lt : sig.s.toNat < groupOrder

/-- The signature with the negative of the second number. -/
def opposite (sig : Signature) : Signature := ⟨sig.r, .ofNat 256 (groupOrder - sig.s.toNat)⟩

theorem inRange_ofScalars {r s : Scalar} (hr : r ≠ 0) (hs : s ≠ 0) : (ofScalars r s).InRange where
  r_pos := by
    rw [toNat_r_ofScalars]
    exact Nat.pos_of_ne_zero fun hzero => hr (Fin.ext hzero)
  r_lt := by
    rw [toNat_r_ofScalars]
    exact r.isLt
  s_pos := by
    rw [toNat_s_ofScalars]
    exact Nat.pos_of_ne_zero fun hzero => hs (Fin.ext hzero)
  s_lt := by
    rw [toNat_s_ofScalars]
    exact s.isLt

/-- The signatures in range are those of two scalars other than zero. -/
theorem InRange.exists_ofScalars {sig : Signature} (h : sig.InRange) :
    ∃ r s : Scalar, r ≠ 0 ∧ s ≠ 0 ∧ sig = .ofScalars r s := by
  obtain ⟨hr, hrLt, hs, hsLt⟩ := h
  refine ⟨⟨sig.r.toNat, hrLt⟩, ⟨sig.s.toNat, hsLt⟩, ?_, ?_, ?_⟩
  · exact fun hzero => Nat.ne_of_gt hr (congrArg Fin.val hzero)
  · exact fun hzero => Nat.ne_of_gt hs (congrArg Fin.val hzero)
  · rw [ofScalars, BitVec.ofNat_toNat, BitVec.ofNat_toNat, BitVec.setWidth_eq, BitVec.setWidth_eq]

theorem inRange_of_scalars? {sig : Signature} {pair : Scalar × Scalar}
    (h : sig.scalars? = some pair) : sig.InRange := by
  obtain ⟨r, hr, hrest⟩ := Option.bind_eq_some_iff.mp h
  obtain ⟨s, hs, _⟩ := Option.bind_eq_some_iff.mp hrest
  obtain ⟨hrValue, hr₀⟩ := unit?_eq_some_iff.mp hr
  obtain ⟨hsValue, hs₀⟩ := unit?_eq_some_iff.mp hs
  have hrange := inRange_ofScalars hr₀ hs₀
  rw [ofScalars, ← hrValue, ← hsValue] at hrange
  simpa using hrange

theorem opposite_ofScalars (r : Scalar) {s : Scalar} (hs : s ≠ 0) :
    (ofScalars r s).opposite = .ofScalars r (0 - s) := by
  rw [opposite, toNat_s_ofScalars, ofScalars, ofScalars, Residue.val_zero_sub hs]

end Signature

/-! ### Verifying -/

section verify
variable {publicKey : PublicKey} {message : Bytes} {sig : Signature}

theorem PublicKey.verify_eq_false_of_not_inRange (h : ¬ sig.InRange) :
    publicKey.verify message sig = false := by
  unfold verify
  split
  · next hscalars => exact absurd (Signature.inRange_of_scalars? hscalars) h
  · rfl

/-- A signature and its opposite get one verdict. -/
theorem PublicKey.verify_opposite (h : sig.InRange) :
    publicKey.verify message sig.opposite = publicKey.verify message sig := by
  obtain ⟨r, s, hr, hs, rfl⟩ := h.exists_ofScalars
  have hs' : 0 - s ≠ 0 := by
    rw [zero_sub]
    exact neg_ne_zero.mpr hs
  rw [Signature.opposite_ofScalars r hs, verify_ofScalars hr hs', verify_ofScalars hr hs,
    Scalar.low_zero_sub]

/-! ### Signing -/

/-- What is signed is in range, and its second number in the lower half. -/
theorem PrivateKey.inRange_of_sign {key : PrivateKey} (h : key.sign message = .ok sig) :
    sig.InRange ∧ sig.s.toNat ≤ (groupOrder - 1) / 2 := by
  obtain ⟨nonce, r, s, _, hsigned, rfl⟩ := exists_of_sign h
  obtain ⟨_, hr, full, _, hfull, rfl⟩ := signWith?_eq_some_iff.mp hsigned
  have hhalf : groupOrder / 2 = (groupOrder - 1) / 2 := by decide
  refine ⟨Signature.inRange_ofScalars hr (Scalar.low_ne_zero hfull), ?_⟩
  rw [Signature.toNat_s_ofScalars, ← hhalf]
  exact Scalar.val_low_le full

end verify
/-! ### Verdicts -/

/-- What a private key signs is in range, has the smaller of both second numbers, and is valid for
the multiple of the generator that the key stands for.  Outside the range nothing is valid, and
within it a signature is valid exactly if its opposite is.  A text is signed and verified as its
UTF-8 encoding. -/
theorem sign_verify_opposite :
    (∀ (key : PrivateKey) (message : Bytes) (sig : Signature), key.sign message = .ok sig →
      sig.InRange ∧ sig.s.toNat ≤ (groupOrder - 1) / 2 ∧
        ∃ publicKey : PublicKey, key.publicKey = .ok publicKey ∧
          publicKey.point = Point.smul key.scalar.val .generator ∧
          publicKey.verify message sig = true) ∧
    (∀ (publicKey : PublicKey) (message : Bytes) (sig : Signature),
      (¬ sig.InRange → publicKey.verify message sig = false) ∧
        (sig.InRange →
          publicKey.verify message sig.opposite = publicKey.verify message sig)) ∧
    (∀ (key : PrivateKey) (text : String), key.signText text = key.sign text.toUTF8.data.toList) ∧
    (∀ (publicKey : PublicKey) (text : String) (sig : Signature),
      publicKey.verifyText text sig = publicKey.verify text.toUTF8.data.toList sig) := by
  refine ⟨?signed, ?judged, ?signText, ?verifyText⟩
  case signed =>
    intro key message sig h
    obtain ⟨hrange, hlow⟩ := PrivateKey.inRange_of_sign h
    obtain ⟨publicKey, hpublic⟩ := key.exists_publicKey
    refine ⟨hrange, hlow, publicKey, hpublic, ?_, PublicKey.verify_of_sign hpublic h⟩
    rw [smul_generator]
    exact PrivateKey.publicKey_eq_ok_iff.mp hpublic
  case judged =>
    intro publicKey message sig
    exact ⟨PublicKey.verify_eq_false_of_not_inRange, PublicKey.verify_opposite⟩
  case signText =>
    intro key text
    rw [← Bytes.ofString_eq_toUTF8]
    rfl
  case verifyText =>
    intro publicKey text sig
    rw [← Bytes.ofString_eq_toUTF8]
    rfl

/-! ### A signature whose second number was replaced -/

namespace SmallestKey

/-- The private key whose public key is the generator. -/
def key : PrivateKey where
  scalar := 1
  ne_zero := by decide

/-- The nonce for the text `m`. -/
def nonce : Scalar :=
  Fin.ofNat _ 0xdcb58e341c5ce19acb57ff92ebcbfe7670312a72bf3a3574f2875952f29aeb76

/-- The first coordinate of this multiple of the generator. -/
def nonceX : Coord :=
  Fin.ofNat _ 0x8fdce8e2da0b8ac877ba40272700fcb2c10b69b7b04e599720ab1df0f9705f6c

/-- The second coordinate there. -/
def nonceY : Coord :=
  Fin.ofNat _ 0x1e120a5221a24fc5eba84dccc558b95bde642bc089806ec504d4f6433874d5bb

/-- The first number of the signature. -/
def first : Scalar := Fin.ofNat _ nonceX.val

/-- The second number in the upper half. -/
def full : Scalar :=
  Fin.ofNat _ 0xf1c8bf65079ce32c575c3ea81ca41ce6ae589a138d78edbcfa2ae2175ba49a16

/-- The signature of the text `m`. -/
def signature : Signature := .ofScalars first (0 - full)

/-- The key and the signed number of the text `m`, which are mixed into the generator of nonces. -/
def data : Bytes :=
  key.toBytes ++
    Bytes.ofNat 32 0x62c66a7a5dd70c3146618063c344e531e6d4b59e379808443ce962b3abd63c5a

/-- The generator after the data were mixed in once. -/
def mixedOnce : Nonce where
  key := Bytes.ofNat 32 0xa566a12eca511b831efb16bcc89d852330a41762ab60c1860b172287e97005db
  value := Bytes.ofNat 32 0x2245876944d66b08089d2ee0586926ab8c4ca2be8e9e3a6b59a0c98ae698dec7

/-- The generator after the data were mixed in twice. -/
def mixedTwice : Nonce where
  key := Bytes.ofNat 32 0x00d6630151d5c47fabfe0a55552c0c8ae686092e4cb870251845e5bbcceef02b
  value := Bytes.ofNat 32 0xf4241528edee744c54ee1ebde9ae86dbccb51b17def78ea159a979eebd97ed32

theorem data_eq :
    key.toBytes ++ Bytes.ofNat 32 (signedNumber (Bytes.ofString "m")).val = data := by
  decide +kernel

theorem mix_first :
    (Nonce.mk (List.replicate 32 0) (List.replicate 32 1)).mix 0 data = mixedOnce := by
  have hkey : hmacSha256 (List.replicate 32 0) (List.replicate 32 1 ++ 0 :: data) =
      mixedOnce.key := by
    decide +kernel
  have hvalue : hmacSha256 mixedOnce.key (List.replicate 32 1) = mixedOnce.value := by
    decide +kernel
  rw [Nonce.mix, hkey, hvalue]

theorem mix_second : mixedOnce.mix 1 data = mixedTwice := by
  have hkey : hmacSha256 mixedOnce.key (mixedOnce.value ++ 1 :: data) = mixedTwice.key := by
    decide +kernel
  have hvalue : hmacSha256 mixedTwice.key mixedOnce.value = mixedTwice.value := by
    decide +kernel
  rw [Nonce.mix, hkey, hvalue]

theorem draw_mixedTwice : Nonce.draw Nonce.tries mixedTwice = some nonce := by
  decide +kernel

theorem find?_nonce :
    Nonce.find? key (signedNumber (Bytes.ofString "m")) = some nonce := by
  rw [Nonce.find?, Nonce.start, data_eq, mix_first, mix_second, draw_mixedTwice]

theorem signWith?_nonce :
    key.signWith? (signedNumber (Bytes.ofString "m")) nonce = some (first, 0 - full) := by
  have hpoint : (Jacobian.multiple 255 nonce.val).Represents (.affine nonceX nonceY) := by
    decide +kernel
  have hnumber : nonce * full = signedNumber (Bytes.ofString "m") + first * key.scalar := by
    decide +kernel
  have hnonce : nonce ≠ 0 := by decide
  rw [PrivateKey.signWith?_eq_some_iff,
    Jacobian.ofGroup_nsmul_of_represents (by decide) hpoint]
  refine ⟨rfl, by decide, full, ?_, by decide, by decide⟩
  rw [← hnumber]
  exact (inv_mul_cancel_left₀ hnonce full).symm

theorem sign_key : key.sign (Bytes.ofString "m") = .ok signature := by
  rw [PrivateKey.sign_eq]
  dsimp only
  rw [find?_nonce, Option.bind_some, signWith?_nonce]
  rfl

end SmallestKey

/-- The opposite is valid as well, and the second number `n` is not. -/
theorem sign_verify_opposite_replaced :
    SmallestKey.key.sign (Bytes.ofString "m") = .ok SmallestKey.signature ∧
      SmallestKey.signature.InRange ∧ ∃ publicKey : PublicKey,
        SmallestKey.key.publicKey = .ok publicKey ∧
        publicKey.verify (Bytes.ofString "m") SmallestKey.signature = true ∧
        publicKey.verify (Bytes.ofString "m") SmallestKey.signature.opposite = true ∧
        publicKey.verify (Bytes.ofString "m")
          ⟨SmallestKey.signature.r, .ofNat 256 groupOrder⟩ = false := by
  obtain ⟨hsigned, hjudged, _, _⟩ := sign_verify_opposite
  obtain ⟨hrange, _, publicKey, hpublic, _, hvalid⟩ :=
    hsigned SmallestKey.key (Bytes.ofString "m") _ SmallestKey.sign_key
  refine ⟨SmallestKey.sign_key, hrange, publicKey, hpublic, hvalid, ?_, ?_⟩
  · rw [(hjudged publicKey _ _).2 hrange, hvalid]
  · refine (hjudged publicKey _ _).1 fun h => ?_
    exact absurd h.s_lt (by decide)

end DidKeys
