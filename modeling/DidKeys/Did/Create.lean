import DidKeys.Did.Basic
import DidKeys.Mnemonic.Seed
import DidKeys.Signature.Ecdsa

/-! # New identifiers

An identifier is made of a master key and maybe a key for credentials.  From a mnemonic, the master
key is the first one that the layout of a wallet has for an identifier, and it also signs the
operation, so that it can be published later. -/

namespace DidKeys

/-- An operation with a signature on it, and the name of the key that made it. -/
structure SignedOperation where
  signedWith : String
  signature : Signature
  operation : Operation
  deriving DecidableEq

/-- Whether the signature is one of the operation by a given key. -/
def SignedOperation.verify (signed : SignedOperation) (key : PublicKey) : Bool :=
  key.verify signed.operation.encode signed.signature

/-- The operation for a master key and maybe a key for credentials. -/
def Operation.create (master : PublicKey) (issuing : Option PublicKey) : Operation where
  keys :=
    ⟨masterKeyId, .master, .ofPublicKey master⟩ ::
      (issuing.map fun key => OperationKey.mk issuingKeyId .issuing (.ofPublicKey key)).toList

/-- An operation with the signature of a key that it names. -/
def Operation.sign (op : Operation) (keyId : String) (key : PrivateKey) :
    Except KeyError SignedOperation := do
  return ⟨keyId, ← key.sign op.encode, op⟩

/-- A new identifier with all that its owner needs to publish it. -/
structure CreatedDid where
  did : Did
  signedOperation : SignedOperation
  operationHash : Digest
  deriving DecidableEq

namespace Did

/-- The identifier of a master key and maybe a key for credentials. -/
def create (master : PublicKey) (issuing : Option PublicKey) : Did :=
  ofOperation (.create master issuing)

/-- The identifier of an encoded master key. -/
def createFromEncoded (encoded : Bytes) : Except DidError Did :=
  match PublicKey.ofEncoded encoded with
  | .ok master => .ok (create master none)
  | .error _ => .error .publicKey

/-- The identifier with a given number that belongs to a mnemonic.  The passphrase has its normal form
by a version of the character database, as for seeds. -/
def createFromMnemonic (code : MnemonicCode) (didIndex : Nat) (passphrase : String)
    (db : Text.CharacterDatabase := .version18) : Except DidError CreatedDid := do
  let seed ← (code.seed passphrase db).mapError .mnemonic
  let master ← (keyPairAt seed didIndex .master 0).mapError .derivation
  let op := Operation.create master.publicKey none
  let signed ← (op.sign masterKeyId master.privateKey).mapError .key
  return ⟨ofOperation op, signed, op.hash⟩

end Did
end DidKeys
