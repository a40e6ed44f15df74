import DidKeys.Bytes.Base64Url
import DidKeys.Did.Operation
import DidKeys.Json.Reader

/-! # Identifiers

An identifier is a text `did:prism:…`, in which the hash of an operation takes the place of the
dots.  A long one also carries the operation itself, behind another colon, and so vouches for its
own initial state.

* `Did.parse` takes any identifier of this method and of the test method; `Did.format` says which of
  the forms it has, if any.
* `LongForm.validate` reads the operation, after its hash was found right.
* `Did.ofOperation` is the long form of an operation. -/

namespace DidKeys

/-- The beginning of an identifier. -/
def prismHead : String := "did:prism:"

/-- The beginning of an identifier for tests. -/
def testHead : String := "did:test:"

/-- The digits of a state hash. -/
def stateHashLength : Nat := 64

/-- The name of the key that everything else hangs on. -/
def masterKeyId : String := "master0"

/-- The name of the key for credentials. -/
def issuingKeyId : String := "issuing0"

/-! ### Parts -/

/-- Whether a character may stand in a part of an identifier. -/
def isPartChar (c : Char) : Bool :=
  ('A' ≤ c && c ≤ 'Z') || ('a' ≤ c && c ≤ 'z') || ('0' ≤ c && c ≤ '9') || c == '-' || c == '_'

/-- Whether a text is a part of an identifier. -/
def isPart (cs : List Char) : Bool := !cs.isEmpty && cs.all isPartChar

/-- Whether a character is a digit of a state hash. -/
def isHashDigit (c : Char) : Bool := ('0' ≤ c && c ≤ '9') || ('a' ≤ c && c ≤ 'f')

/-- Whether a text has the form of a state hash. -/
def isStateHash (cs : List Char) : Bool := cs.length == stateHashLength && cs.all isHashDigit

/-! ### Identifiers and their forms -/

/-- An identifier. -/
structure Did where
  value : String
  deriving DecidableEq, Repr

/-- The two parts of a long form, not checked against each other. -/
structure LongForm where
  stateHash : String
  encodedState : String
  deriving DecidableEq, Repr

/-- The form of an identifier. -/
inductive DidFormat where
  | canonical (suffix : String)
  | long (form : LongForm)
  | unknown
  deriving DecidableEq, Repr

namespace Did

/-- What follows the beginning of an identifier. -/
def afterHead? (cs : List Char) : Option (List Char) :=
  (Text.dropFront? prismHead.toList cs).or (Text.dropFront? testHead.toList cs)

/-- The identifier that a text is. -/
def parse (text : String) : Except DidError Did :=
  match afterHead? text.toList with
  | some rest => if (Text.split ':' rest).all isPart then .ok ⟨text⟩ else .error (.notDid text)
  | none => .error (.notDid text)

/-- The identifier with some text behind its beginning. -/
def ofSuffix (suffix : String) : Did := ⟨prismHead ++ suffix⟩

/-- The identifier of a state hash, and maybe of the state. -/
def ofParts (stateHash : String) : (encodedState : Option String) → Did
  | some state => ofSuffix (stateHash ++ ":" ++ state)
  | none => ofSuffix stateHash

/-- The short form for a hash. -/
def ofHash (hash : Digest) : Did := ofParts hash.hex none

/-- The long form of an operation. -/
def ofOperation (op : Operation) : Did := ofParts op.hash.hex (some (Base64Url.encode op.encode))

/-- An identifier without its beginning; one of another method is left as it is. -/
def suffix (did : Did) : String :=
  match Text.dropFront? prismHead.toList did.value.toList with
  | some rest => String.ofList rest
  | none => did.value

/-- The form of what follows the beginning. -/
def formatOf (rest : List Char) : DidFormat :=
  match Text.splitFirst? ':' rest with
  | none => if isStateHash rest then .canonical (String.ofList rest) else .unknown
  | some (hash, state) =>
    if isStateHash hash && isPart state then .long ⟨String.ofList hash, String.ofList state⟩
    else .unknown

/-- The form of an identifier. -/
def format (did : Did) : DidFormat :=
  match Text.dropFront? prismHead.toList did.value.toList with
  | some rest => formatOf rest
  | none => .unknown

/-- Whether an identifier carries its initial state. -/
def isLongForm (did : Did) : Bool :=
  match did.format with
  | .long _ => true
  | _ => false

/-- Whether an identifier is a hash and no more. -/
def isCanonicalForm (did : Did) : Bool :=
  match did.format with
  | .canonical _ => true
  | _ => false

/-- The parts of a long form. -/
def longForm? (did : Did) : Option LongForm :=
  match did.format with
  | .long form => some form
  | _ => none

/-- The hash in an identifier of either form. -/
def canonicalSuffix? (did : Did) : Option String :=
  match did.format with
  | .canonical suffix => some suffix
  | .long form => some form.stateHash
  | .unknown => none

/-- The short form of an identifier of either form. -/
def canonical? (did : Did) : Option Did := did.canonicalSuffix?.map ofSuffix

/-- Identifiers in the order of their texts. -/
def sort (dids : List Did) : List Did := dids.mergeSort fun a b => a.value ≤ b.value

end Did

/-! ### Long forms -/

/-- A long form whose state has been read and has the right hash. -/
structure ValidatedLongForm where
  stateHash : Digest
  initialState : Operation
  deriving DecidableEq, Repr

/-- Reads the state of a long form: its alphabet, its hash and its content are judged in this
order. -/
def LongForm.validate (form : LongForm) : Except DidError ValidatedLongForm :=
  match Base64Url.decode? form.encodedState with
  | none => .error .encodedState
  | some bytes =>
    let actual := sha256 bytes
    if actual.hex = form.stateHash then do
      return ⟨actual, ← (Operation.decode bytes).mapError .operation⟩
    else .error (.stateHash form.stateHash actual)

namespace ValidatedLongForm

/-- The hash in text. -/
def suffix (form : ValidatedLongForm) : String := form.stateHash.hex

/-- The short form. -/
def canonical (form : ValidatedLongForm) : Did := .ofHash form.stateHash

/-- The key that everything else hangs on. -/
def masterPublicKey (form : ValidatedLongForm) : Except DidError PublicKey :=
  match form.initialState.key? masterKeyId with
  | some key => key.data.publicKey
  | none => .error (.operation (.noKey masterKeyId))

end ValidatedLongForm

namespace Did

/-- Reads the state that an identifier carries. -/
def validateLongForm (did : Did) : Except DidError ValidatedLongForm :=
  match did.longForm? with
  | some form => form.validate
  | none => .error (.notLongForm did.value)

/-- The string of an identifier. -/
def toJson (did : Did) : Json := .text did.value

/-- The identifier that a string holds. -/
def ofJson (value : Json) : Except (Json.ReadError DidError) Did := do
  Json.judge (parse (← Json.demand value.text?))

/-- Reads the string of an identifier. -/
def readJson (text : String) : Except (Json.ReadError DidError) Did := Json.read ofJson text

end Did
end DidKeys
