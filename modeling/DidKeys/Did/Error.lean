import DidKeys.Derivation.ExtendedKey
import DidKeys.Mnemonic.Error

/-! # What can be wrong with an identifier

Each cause is a constructor; `message` is the only place that words it.  Causes from keys, paths and
mnemonics keep their own text. -/

namespace DidKeys

/-- Why an operation is refused. -/
inductive OperationError where
  /-- The bytes are no message of the schema. -/
  | malformed
  /-- The message creates no identifier. -/
  | notCreate
  /-- A key has a usage that nobody has heard of. -/
  | unknownUsage (code : Int)
  /-- A key has no coordinates. -/
  | noKeyData (id : String)
  /-- A key is on another curve. -/
  | foreignCurve (curve : String)
  /-- The key that everything else hangs on is missing. -/
  | noKey (id : String)
  deriving DecidableEq, Repr

/-- The text of a cause. -/
def OperationError.message : OperationError → String
  | .malformed => "malformed operation"
  | .notCreate => "not a create-DID operation"
  | .unknownUsage code =>
    "unknown key usage " ++ (if code < 0 then "-" else "") ++ Decimal.text code.natAbs
  | .noKeyData id => "key '" ++ id ++ "' has no EC key data"
  | .foreignCurve curve => "unsupported curve '" ++ curve ++ "'"
  | .noKey id => "initial state has no '" ++ id ++ "' key"

/-- Why an identifier is refused, or cannot be made. -/
inductive DidError where
  /-- The text is no identifier. -/
  | notDid (text : String)
  /-- The bytes or coordinates of a key are no point of the curve. -/
  | publicKey
  /-- The identifier does not carry its initial state. -/
  | notLongForm (did : String)
  /-- The state in the identifier is not in its alphabet. -/
  | encodedState
  /-- The state in the identifier has another hash than the identifier says. -/
  | stateHash (expected : String) (actual : Digest)
  /-- The state is no operation, or one without a usable key. -/
  | operation (cause : OperationError)
  /-- A key cannot be derived. -/
  | derivation (cause : DerivationError)
  /-- A mnemonic is refused. -/
  | mnemonic (cause : MnemonicError)
  /-- A key is refused. -/
  | key (cause : KeyError)
  deriving DecidableEq, Repr

/-- The text of a cause. -/
def DidError.message : DidError → String
  | .notDid text => "invalid DID: " ++ text
  | .publicKey => "invalid public key encoding"
  | .notLongForm did => "DID is not in long form: " ++ did
  | .encodedState => "encoded state is not valid base64url"
  | .stateHash expected actual =>
    "state hash mismatch: DID says " ++ expected ++ ", payload hashes to " ++ actual.hex
  | .operation cause => "invalid operation: " ++ cause.message
  | .derivation cause => cause.message
  | .mnemonic cause => cause.message
  | .key cause => cause.message

end DidKeys
