import DidKeys.Hash.Hmac
import DidKeys.Signature.Basic

/-! # Signing and verifying

The signed number is the SHA-256 digest of the message, modulo the order of the group.

* The nonce is drawn from the key and the message by a keyed hash (`Nonce`), so a message has one
  signature.
* Signing gives the smaller of the two possible second numbers (`low`).
* Verifying takes either of the two, and answers `false` to anything malformed. -/

namespace DidKeys

/-! ### Nonces -/

/-- The state of a deterministic generator of nonces. -/
structure Nonce where
  key : Bytes
  value : Bytes

namespace Nonce

/-- Mixes a separator byte and some data into the state. -/
def mix (g : Nonce) (separator : UInt8) (data : Bytes) : Nonce :=
  let key := hmacSha256 g.key (g.value ++ separator :: data)
  ⟨key, hmacSha256 key g.value⟩

/-- The state for a private key and a digest, both written as scalars. -/
def start (key : PrivateKey) (digest : Scalar) : Nonce :=
  let data := key.toBytes ++ Bytes.ofNat 32 digest.val
  ((Nonce.mk (List.replicate 32 0) (List.replicate 32 1)).mix 0 data).mix 1 data

/-- The first of at most `tries` candidates that is a scalar other than zero. -/
def draw : (tries : Nat) → Nonce → Option Scalar
  | 0, _ => none
  | tries + 1, g =>
    let value := hmacSha256 g.key g.value
    match Signature.unit? (Bytes.toNat value) with
    | some k => some k
    | none => draw tries (Nonce.mix ⟨g.key, value⟩ 0 [])

/-- How many candidates are drawn at most; each one fails with a probability below `2⁻¹²⁷`. -/
def tries : Nat := 128

/-- The nonce for a private key and a digest. -/
def find? (key : PrivateKey) (digest : Scalar) : Option Scalar := draw tries (start key digest)

end Nonce

/-! ### Signatures of messages -/

/-- The number that is signed for a message. -/
def signedNumber (message : Bytes) : Scalar := Fin.ofNat _ (Bytes.toNat (sha256 message).bytes)

/-- The first number of the signature that a multiple of the generator leads to: its first
coordinate modulo the order of the group. -/
def Point.residue? : Point → Option Scalar
  | .infinity => none
  | .affine x _ => some (Fin.ofNat _ x.val)

/-- The smaller of a scalar and its negative. -/
def Scalar.low (s : Scalar) : Scalar := if s.val ≤ groupOrder / 2 then s else 0 - s

/-- The scalars of the signature with a given nonce, unless one of them is zero. -/
def PrivateKey.signWith? (key : PrivateKey) (digest nonce : Scalar) : Option (Scalar × Scalar) := do
  let r ← (Point.smul nonce.val .generator).residue?
  let s := Residue.inverse nonce * (digest + r * key.scalar)
  if r = 0 ∨ s = 0 then none else some (r, Scalar.low s)

/-- The signature of a message. -/
def PrivateKey.sign (key : PrivateKey) (message : Bytes) : Except KeyError Signature :=
  let digest := signedNumber message
  match (Nonce.find? key digest).bind (key.signWith? digest) with
  | some (r, s) => .ok (.ofScalars r s)
  | none => .error .privateKeyRange

/-- Whether two scalars are a signature of a number. -/
def PublicKey.accepts (key : PublicKey) (digest r s : Scalar) : Bool :=
  let w := Residue.inverse s
  let sum := (Point.smul (digest * w).val .generator).add (Point.smul (r * w).val key.point)
  sum.residue? == some r

/-- Whether a signature is one of a message; both signs of its second number count. -/
def PublicKey.verify (key : PublicKey) (message : Bytes) (sig : Signature) : Bool :=
  match sig.scalars? with
  | some (r, s) => key.accepts (signedNumber message) r (Scalar.low s)
  | none => false

/-- The signature of the UTF-8 bytes of a text. -/
def PrivateKey.signText (key : PrivateKey) (text : String) : Except KeyError Signature :=
  key.sign (Bytes.ofString text)

/-- Whether a signature is one of the UTF-8 bytes of a text. -/
def PublicKey.verifyText (key : PublicKey) (text : String) (sig : Signature) : Bool :=
  key.verify (Bytes.ofString text) sig

end DidKeys
