import DidKeys.Key.Private

/-! # Signatures

A signature is two numbers of 32 bytes.  Nothing more is promised: whether they are scalars at all
is for verification to say.

* The fixed-width form is the 64 bytes of both numbers; in text it is hexadecimal of either case.
* `scalars?` are the two numbers as scalars other than zero, as every valid signature has them. -/

namespace DidKeys

/-- The name of the way to sign: a hash, and a pair of scalars. -/
def signatureAlgorithm : String := "SHA256withECDSA"

/-- The two numbers of a signature. -/
structure Signature where
  r : BitVec 256
  s : BitVec 256
  deriving DecidableEq

namespace Signature

/-- The bytes of the fixed-width form. -/
abbrev byteLength : Nat := 64

/-- The first number, 32 bytes. -/
def rBytes (sig : Signature) : Bytes := Bytes.ofNat 32 sig.r.toNat

/-- The second number, 32 bytes. -/
def sBytes (sig : Signature) : Bytes := Bytes.ofNat 32 sig.s.toNat

/-- The fixed-width form, 64 bytes. -/
def toBytes (sig : Signature) : Bytes := sig.rBytes ++ sig.sBytes

/-- The signature whose fixed-width form the bytes are. -/
def ofBytes (bs : Bytes) : Except KeyError Signature :=
  if bs.length = byteLength then
    .ok ⟨.ofNat 256 (Bytes.toNat (bs.take 32)), .ofNat 256 (Bytes.toNat (bs.drop 32))⟩
  else .error .signatureEncoding

/-- The fixed-width form in hexadecimal. -/
def hex (sig : Signature) : String := Hex.encode sig.toBytes

/-- Reads the fixed-width form in hexadecimal. -/
def ofHex (text : String) : Except KeyError Signature :=
  match Hex.decode text with
  | .ok bs => ofBytes bs
  | .error _ => .error .signatureEncoding

/-- The diagnostic form: the first and the last four bytes. -/
def describe (sig : Signature) : String :=
  "Signature(" ++ Hex.encode (sig.toBytes.take 4) ++ "..." ++
    Hex.encode (sig.toBytes.drop 60) ++ ")"

/-- The scalar that a number is, if it is below the order of the group and not zero. -/
def unit? (v : Nat) : Option Scalar := do
  return (← PrivateKey.ofScalar? (← Scalar.ofNat? v)).scalar

/-- Both numbers as scalars other than zero. -/
def scalars? (sig : Signature) : Option (Scalar × Scalar) := do
  return (← unit? sig.r.toNat, ← unit? sig.s.toNat)

/-- The signature of two scalars. -/
def ofScalars (r s : Scalar) : Signature := ⟨.ofNat 256 r.val, .ofNat 256 s.val⟩

@[simp] theorem length_toBytes (sig : Signature) : sig.toBytes.length = byteLength := by
  simp [toBytes, rBytes, sBytes]

end Signature
end DidKeys
