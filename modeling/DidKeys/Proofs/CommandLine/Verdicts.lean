import DidKeys.Proofs.CommandLine.Runs

/-! # Verdicts on both encodings

The bytes of a signature are taken for its fixed-width form if they have the length of one, and only
otherwise for the distinguished encoding.  So this encoding is read as the signature exactly if it
does not have 64 bytes (`signatureOf_ofScalars_iff`), and then both encodings get one verdict
(`verify_encodings`).  An encoding of 64 bytes is taken for another signature. -/

namespace DidKeys.CommandLine

/-! ### A key to judge by -/

namespace Sample

/-- A key that signs the text `m` with the two numbers below, if the nonce is one. -/
def key : PrivateKey where
  scalar := Fin.ofNat _ 0xa6a530254c19966a98413cb7691b15c00bc3cd615920721beb186c8719e033fd
  ne_zero := by decide

/-- The public key that belongs to it. -/
def publicKey : PublicKey where
  x := Fin.ofNat _ 0x376d414385a0c3b559cc09d99ea2be0ce29aeee32c9ec0794697ba83c3b77fba
  y := Fin.ofNat _ 0x6bd434288100786fd77253546820ff01f3bec19d5190cf49d0f67447da95e2a1
  on_curve := by decide

/-- The first number, which comes from the nonce. -/
def first : Scalar := Fin.ofNat _ Jacobian.generatorX.val

/-- The second number, which is short. -/
def second : Scalar := Fin.ofNat _ (2 ^ 200)

theorem first_ne_zero : first ≠ 0 := by decide

theorem second_ne_zero : second ≠ 0 := by decide

theorem publicKey_key : key.publicKey = .ok publicKey := by
  have hpoint : (Jacobian.multiple 255 key.scalar.val).Represents
      (.affine publicKey.x publicKey.y) := by
    decide +kernel
  rw [PrivateKey.publicKey_eq_ok_iff]
  exact (Jacobian.ofGroup_nsmul_of_represents (by decide) hpoint).symm

/-- The second number and its opposite are valid. -/
theorem verifyText_of_low {s : Scalar} (hs : s ≠ 0) (hlow : Scalar.low s = second) :
    publicKey.verifyText "m" (.ofScalars first s) = true := by
  have hnumber : 1 * second = signedNumber (Bytes.ofString "m") + first * key.scalar := by
    decide +kernel
  have hone : (1 : Scalar).val = 1 := rfl
  rw [PublicKey.verifyText, PublicKey.verify_ofScalars first_ne_zero hs, hlow,
    PublicKey.accepts_iff_of_mul_eq publicKey_key second_ne_zero hnumber, hone, one_nsmul]
  rfl

end Sample

/-! ### Encodings -/

section scalars
variable {r s : Scalar}

theorem signatureOf_of_length_ne {bytes : Bytes} (h : bytes.length ≠ Signature.byteLength) :
    signatureOf bytes = Der.decode bytes := by
  rw [signatureOf, Signature.ofBytes, if_neg h]

/-- An encoding with the length of the fixed-width form is taken for that of another signature. -/
theorem exists_misread (h : (Der.ofScalars r s).length = Signature.byteLength) :
    ∃ other, other ≠ .ofScalars r s ∧ signatureOf (Der.ofScalars r s) = .ok other ∧
      Hex.encode (Der.ofScalars r s) = other.hex := by
  obtain ⟨other, hother⟩ := Signature.exists_toBytes h
  refine ⟨other, ?_, ?_, ?_⟩
  · rintro rfl
    exact Der.toBytes_ne_ofScalars r s hother
  · rw [← hother, signatureOf_toBytes]
  · rw [Signature.hex, hother]

theorem signatureOf_ofScalars_iff (hr : r ≠ 0) (hs : s ≠ 0) :
    signatureOf (Der.ofScalars r s) = .ok (.ofScalars r s) ↔
      (Der.ofScalars r s).length ≠ Signature.byteLength := by
  constructor
  · intro hread hlength
    obtain ⟨other, hne, hother, _⟩ := exists_misread hlength
    rw [hread] at hother
    exact hne (Except.ok.inj hother).symm
  · intro hlength
    rw [signatureOf_of_length_ne hlength, Der.decode_ofScalars hr hs]

/-- Both encodings of a signature lead to one outcome, whatever the key and the message are, unless
the distinguished one has 64 bytes: the whole bytes of both numbers, and eight more.  Then it is
taken for the fixed-width form of another signature. -/
theorem verify_encodings (env : Environment) (random : Bytes) (publicKey message : String)
    (hr : r ≠ 0) (hs : s ≠ 0) :
    ∃ der, Der.encode (.ofScalars r s) = .ok der ∧
      der.length = r.val.size / 8 + s.val.size / 8 + 8 ∧
      (der.length ≠ 64 →
        run env random (verifyArguments publicKey message (Hex.encode der)) =
          run env random (verifyArguments publicKey message (Signature.ofScalars r s).hex)) ∧
      (der.length = 64 →
        ∃ other, other ≠ .ofScalars r s ∧ signatureOf der = .ok other ∧
          Hex.encode der = other.hex) := by
  refine ⟨_, Der.encode_ofScalars hr hs, Der.length_ofScalars r s, fun hlength => ?_,
    exists_misread⟩
  have hread := (signatureOf_ofScalars_iff hr hs).mpr hlength
  rw [run_verify, run_verify, verifySignature_encode hread]

end scalars

/-- The opposite of the second number of the sample takes up 33 bytes. -/
theorem verify_encodings_long :
    ∃ (s : Scalar) (der : Bytes), Sample.first ≠ 0 ∧ s ≠ 0 ∧
      Der.encode (.ofScalars Sample.first s) = .ok der ∧ der.length = 71 ∧
      run ⟨none, none, none⟩ [] (verifyArguments Sample.publicKey.hex "m" (Hex.encode der)) =
        .reported ["valid"] ∧
      run ⟨none, none, none⟩ []
          (verifyArguments Sample.publicKey.hex "m" (Signature.ofScalars Sample.first s).hex) =
        .reported ["valid"] := by
  have hs : 0 - Sample.second ≠ 0 := by decide
  have hvalid := Sample.verifyText_of_low hs (by decide)
  have hfirst : Sample.first.val.size = 255 :=
    Nat.le_antisymm (Nat.size_le.mpr (by decide)) (Nat.lt_size.mpr (by decide))
  have hsecond : (0 - Sample.second).val.size = 256 :=
    Nat.le_antisymm (Nat.size_le.mpr (by decide)) (Nat.lt_size.mpr (by decide))
  obtain ⟨der, hder, hlength, hsame, _⟩ := verify_encodings ⟨none, none, none⟩ []
    Sample.publicKey.hex "m" Sample.first_ne_zero hs
  rw [hfirst, hsecond] at hlength
  have hraw : run ⟨none, none, none⟩ [] (verifyArguments Sample.publicKey.hex "m"
      (Signature.ofScalars Sample.first (0 - Sample.second)).hex) = .reported ["valid"] := by
    rw [run_verify, verifySignature_hex, hvalid]
    rfl
  refine ⟨_, der, Sample.first_ne_zero, hs, hder, hlength, ?_, hraw⟩
  rw [hsame (by rw [hlength]; decide), hraw]

/-! ### An encoding of 64 bytes -/

namespace Misread

/-- The first number that the encoding of the sample is taken for. -/
def first : Scalar :=
  Fin.ofNat _ 0x303e022079be667ef9dcbbac55a06295ce870b07029bfcdb2dce28d959f2815b

/-- The second number that it is taken for. -/
def second : Scalar :=
  Fin.ofNat _ 0x16f81798021a0100000000000000000000000000000000000000000000000000

/-- The multiple of the generator at which these numbers are judged. -/
def multiple : Scalar :=
  Fin.ofNat _ 0xe924cc24711a74709ae0b0c781f4ac566ad3b5e0eb3e3e873279a992a7b4acdb

/-- The first coordinate there. -/
def pointX : Coord :=
  Fin.ofNat _ 0xabf169ed63f42da1a52a5b6467473028d16f939f9cb521f843e31029599a485a

/-- The second coordinate there. -/
def pointY : Coord :=
  Fin.ofNat _ 0x3e0902d24561249d2c5af26e9453efb724aa3979b2b557a5aabd6d9b4fca0d10

theorem verifyText_eq_false :
    Sample.publicKey.verifyText "m" (.ofScalars first second) = false := by
  have hfirst : first ≠ 0 := by decide
  have hsecond : second ≠ 0 := by decide
  have hnumber : multiple * second =
      signedNumber (Bytes.ofString "m") + first * Sample.key.scalar := by
    decide +kernel
  have hlow : Scalar.low second = second := by decide
  have hpoint : (Jacobian.multiple 255 multiple.val).Represents (.affine pointX pointY) := by
    decide +kernel
  have hother : Point.residue? (.affine pointX pointY) ≠ some first := by decide
  rw [PublicKey.verifyText, PublicKey.verify_ofScalars hfirst hsecond, hlow, Bool.eq_false_iff, Ne,
    PublicKey.accepts_iff_of_mul_eq Sample.publicKey_key hsecond hnumber,
    Jacobian.ofGroup_nsmul_of_represents (by decide) hpoint]
  exact hother

theorem signatureOf_sample :
    signatureOf (Der.ofScalars Sample.first Sample.second) = .ok (.ofScalars first second) := by
  have hbytes : (Signature.ofScalars first second).toBytes =
      Der.ofScalars Sample.first Sample.second := by
    decide
  rw [← hbytes, signatureOf_toBytes]

end Misread

/-- A signature that is valid in its fixed-width form, and not in the distinguished encoding. -/
theorem verify_encodings_differ :
    ∃ (r s : Scalar) (der : Bytes), r ≠ 0 ∧ s ≠ 0 ∧ Der.encode (.ofScalars r s) = .ok der ∧
      (Signature.ofScalars r s).hex =
        "79be667ef9dcbbac55a06295ce870b07029bfcdb2dce28d959f2815b16f81798" ++
        "0000000000000100000000000000000000000000000000000000000000000000" ∧
      Hex.encode der =
        "303e022079be667ef9dcbbac55a06295ce870b07029bfcdb2dce28d959f2815b" ++
        "16f81798021a0100000000000000000000000000000000000000000000000000" ∧
      let publicKey :=
        "04376d414385a0c3b559cc09d99ea2be0ce29aeee32c9ec0794697ba83c3b77fba" ++
        "6bd434288100786fd77253546820ff01f3bec19d5190cf49d0f67447da95e2a1"
      run ⟨none, none, none⟩ [] (verifyArguments publicKey "m" (Signature.ofScalars r s).hex) =
        .reported ["valid"] ∧
      run ⟨none, none, none⟩ [] (verifyArguments publicKey "m" (Hex.encode der)) =
        ⟨1, "", "Error: signature does not verify\n"⟩ := by
  have husable : Environment.isUsable ⟨none, none, none⟩ = true := rfl
  have hkey : Sample.publicKey.hex =
      "04376d414385a0c3b559cc09d99ea2be0ce29aeee32c9ec0794697ba83c3b77fba" ++
      "6bd434288100786fd77253546820ff01f3bec19d5190cf49d0f67447da95e2a1" := by
    decide +kernel
  have hvalid := Sample.verifyText_of_low Sample.second_ne_zero (by decide)
  refine ⟨Sample.first, Sample.second, _, Sample.first_ne_zero, Sample.second_ne_zero,
    Der.encode_ofScalars Sample.first_ne_zero Sample.second_ne_zero, by decide +kernel,
    by decide +kernel, ?_⟩
  dsimp only
  rw [← hkey]
  constructor
  · rw [run_verify, if_pos husable, verifySignature_hex, hvalid]
    rfl
  · rw [run_verify, if_pos husable, verifySignature_encode Misread.signatureOf_sample,
      verifySignature_hex, Misread.verifyText_eq_false]
    rfl

end DidKeys.CommandLine
