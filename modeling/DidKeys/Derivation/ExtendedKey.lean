import DidKeys.Derivation.Path
import DidKeys.Hash.Hmac
import DidKeys.Key.Private

/-! # Extended keys

An extended key is a key with a chain code, from which its children are derived, and the path that
led to it.  Derivation gives a new key and leaves its parent alone.

* A hardened child is drawn from the private key, a normal one from the public key
  (`childMessage`); 37 bytes in both cases.
* The left half of the keyed hash tweaks the key, the right half is the chain code of the child.
* A child that is no key is a fault of its path, and no other index is tried.
* `neuter` forgets the private key; what is left still has its normal children. -/

namespace DidKeys

/-- Why a key cannot be derived. -/
inductive DerivationError where
  /-- There is no such path. -/
  | path (cause : PathError)
  /-- A hardened child was asked of a key without its private half. -/
  | privateKeyNeeded
  /-- The private half was asked of a key without one. -/
  | noPrivateKey
  /-- A seed is shorter than 16 bytes or longer than 64. -/
  | seedLength (length : Nat)
  /-- There is no key at a path. -/
  | invalidKey (place : Path)
  /-- A key is refused. -/
  | key (cause : KeyError)
  deriving DecidableEq, Repr

/-- The text of a cause. -/
def DerivationError.message : DerivationError → String
  | .path cause => cause.message
  | .privateKeyNeeded => "hardened derivation requires a private key"
  | .noPrivateKey => "extended key has no private key"
  | .seedLength length =>
    "invalid seed length: " ++ Decimal.text length ++ " bytes (expected 16 to 64)"
  | .invalidKey place => "derived key at " ++ place.text ++ " is invalid"
  | .key cause => "crypto error: " ++ cause.message

/-- The failure of a key operation as a failure of derivation. -/
def liftKey {α : Type} : Except KeyError α → Except DerivationError α :=
  Except.mapError DerivationError.key

/-- A key in the tree, private or public only. -/
structure ExtendedKey where
  privateKey : Option PrivateKey
  publicKey : PublicKey
  chainCode : Bytes
  path : Path
  deriving DecidableEq

namespace ExtendedKey

/-- The bytes of the left half of a keyed hash, and of a chain code. -/
def chainCodeLength : Nat := 32

/-- The fewest bytes of a seed. -/
def minSeedLength : Nat := 16

/-- The most bytes of a seed. -/
def maxSeedLength : Nat := 64

/-- The key under which seeds are hashed. -/
def seedKey : Bytes := Bytes.ofString "Bitcoin seed"

/-- The master key of a seed. -/
def ofSeed (seed : Bytes) : Except DerivationError ExtendedKey :=
  if minSeedLength ≤ seed.length ∧ seed.length ≤ maxSeedLength then
    let mac := hmacSha512 seedKey seed
    match PrivateKey.ofBytes (mac.take chainCodeLength) with
    | .error _ => .error (.invalidKey .root)
    | .ok key => do
      return ⟨some key, ← liftKey key.publicKey, mac.drop chainCodeLength, .root⟩
  else .error (.seedLength seed.length)

/-- What is hashed for a child. -/
def childMessage (parent : ExtendedKey) (axis : Axis) : Except DerivationError Bytes :=
  let index := Bytes.ofNat 4 axis.index.toNat
  if axis.hardened then
    match parent.privateKey with
    | some key => .ok (0 :: key.toBytes ++ index)
    | none => .error .privateKeyNeeded
  else .ok (parent.publicKey.compressed ++ index)

/-- The failure of a tweak as a failure at the path of the child. -/
def liftTweak {α : Type} (place : Path) : Except KeyError α → Except DerivationError α
  | .ok a => .ok a
  | .error .tweak => .error (.invalidKey place)
  | .error cause => .error (.key cause)

/-- The child of a key. -/
def derive (parent : ExtendedKey) (axis : Axis) : Except DerivationError ExtendedKey := do
  let place := parent.path.child axis
  let mac := hmacSha512 parent.chainCode (← parent.childMessage axis)
  let tweak := Bytes.toNat (mac.take chainCodeLength)
  let chainCode := mac.drop chainCodeLength
  match parent.privateKey with
  | some key =>
    let child ← liftTweak place (key.tweak tweak)
    return ⟨some child, ← liftKey child.publicKey, chainCode, place⟩
  | none =>
    return ⟨none, ← liftTweak place (parent.publicKey.tweak tweak), chainCode, place⟩

/-- The key that some steps lead to. -/
def deriveSteps (key : ExtendedKey) : List Axis → Except DerivationError ExtendedKey
  | [] => .ok key
  | axis :: axes => do (← key.derive axis).deriveSteps axes

/-- The key that a path, read from this key on, leads to. -/
def derivePath (key : ExtendedKey) (path : Path) : Except DerivationError ExtendedKey :=
  key.deriveSteps path.axes

/-- The key without its private half. -/
def neuter (key : ExtendedKey) : ExtendedKey := { key with privateKey := none }

/-- Both halves of a key. -/
def keyPair (key : ExtendedKey) : Except DerivationError KeyPair :=
  match key.privateKey with
  | some privateKey => liftKey privateKey.pair
  | none => .error .noPrivateKey

/-- Whether a key has its private half. -/
def isPrivate (key : ExtendedKey) : Bool := key.privateKey.isSome

/-- The diagnostic form, which shows nothing secret. -/
def describe (key : ExtendedKey) : String :=
  "ExtendedKey \x7b path: " ++ Text.quoted key.path.text ++ ", public_key: " ++
    key.publicKey.describe ++ ", private: " ++ (if key.isPrivate then "true" else "false") ++
    " \x7d"

end ExtendedKey

/-- The key at a path below the master key of a seed. -/
def deriveKey (seed : Bytes) (path : Path) : Except DerivationError ExtendedKey := do
  (← ExtendedKey.ofSeed seed).derivePath path

end DidKeys
