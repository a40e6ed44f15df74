import DidKeys.Key.Public

/-! # Private keys and key pairs

A private key is a scalar other than zero, and the public key that belongs to it is that multiple
of the generator.  Bytes become a private key by their value alone: zeros in front do not count. -/

namespace DidKeys

/-- A scalar that is not zero. -/
structure PrivateKey where
  scalar : Scalar
  ne_zero : scalar ≠ 0
  deriving DecidableEq

namespace PrivateKey

/-- The bytes of a private key. -/
abbrev byteLength : Nat := 32

/-- The key that a scalar is, unless it is zero. -/
def ofScalar? (k : Scalar) : Option PrivateKey :=
  if h : k ≠ 0 then some ⟨k, h⟩ else none

@[simp] theorem ofScalar?_scalar (key : PrivateKey) : ofScalar? key.scalar = some key := by
  simp [ofScalar?, key.ne_zero]

/-- The key that a big-endian number of any width is. -/
def ofBytes? (bs : Bytes) : Option PrivateKey := do
  ofScalar? (← Scalar.ofNat? (Bytes.toNat (← Bytes.fit? byteLength bs)))

/-- As `ofBytes?`, with the reason for a refusal. -/
def ofBytes (bs : Bytes) : Except KeyError PrivateKey :=
  match ofBytes? bs with
  | some key => .ok key
  | none => .error .privateKeyRange

/-- The scalar, 32 bytes. -/
def toBytes (key : PrivateKey) : Bytes := Bytes.ofNat byteLength key.scalar.val

/-- The scalar in hexadecimal. -/
def hex (key : PrivateKey) : String := Hex.encode key.toBytes

/-- The diagnostic form, which shows nothing of the key. -/
def describe (_ : PrivateKey) : String := "PrivateKey([REDACTED])"

/-- The public key that belongs to a private key. -/
def publicKey (key : PrivateKey) : Except KeyError PublicKey :=
  match PublicKey.ofPoint? (Point.smul key.scalar.val .generator) with
  | some point => .ok point
  | none => .error .privateKeyRange

/-- The sum of a key and a tweak; the tweak has to be a scalar and the sum a key. -/
def tweak (key : PrivateKey) (tweak : Nat) : Except KeyError PrivateKey :=
  match Scalar.ofNat? tweak with
  | none => .error .tweak
  | some t =>
    match ofScalar? (key.scalar + t) with
    | some child => .ok child
    | none => .error .tweak

end PrivateKey

/-- A private key beside the public key that belongs to it. -/
structure KeyPair where
  privateKey : PrivateKey
  publicKey : PublicKey
  deriving DecidableEq

/-- The pair of a private key. -/
def PrivateKey.pair (key : PrivateKey) : Except KeyError KeyPair := do
  return ⟨key, ← key.publicKey⟩

/-- The diagnostic form, which shows the public key only. -/
def KeyPair.describe (pair : KeyPair) : String :=
  "EcKeyPair(pub=" ++ pair.publicKey.describe ++ ")"

end DidKeys
