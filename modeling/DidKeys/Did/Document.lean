import DidKeys.Did.Basic

/-! # Documents of identifiers

A long identifier is resolved without asking anybody: its document lists the keys of its initial
state as verification methods, and names those that authenticate and those that issue credentials.

* `Document.resolve` reads the state of an identifier and writes its document.
* `Document.validate` judges any document, wherever it came from.
* `toJson` and `ofJson?` are the record of a document. -/

namespace DidKeys

/-- A public key as a web key: type of key, curve and coordinates. -/
structure WebKey where
  kty : String
  crv : String
  x : String
  y : String
  deriving DecidableEq, Repr

/-- A key of a document. -/
structure VerificationMethod where
  id : String
  type : String
  controller : String
  publicKey : WebKey
  deriving DecidableEq, Repr

/-- A document. -/
structure Document where
  context : List String
  id : String
  canonicalId : String
  verificationMethod : List VerificationMethod
  authentication : List String
  assertionMethod : List String
  deriving DecidableEq, Repr

/-- Why a document is refused. -/
inductive DocumentError where
  /-- It is about an identifier of another method. -/
  | foreignId
  /-- It has no keys. -/
  | noMethod
  /-- No key authenticates. -/
  | noAuthentication
  /-- It does not say what its words mean. -/
  | noContext
  /-- A key is on another curve. -/
  | foreignCurve (method : String)
  deriving DecidableEq, Repr

/-- The text of a cause. -/
def DocumentError.message : DocumentError → String
  | .foreignId => "invalid DID: document ID must start with '" ++ prismHead ++ "'"
  | .noMethod => "invalid operation: document must have at least one verification method"
  | .noAuthentication => "invalid operation: document must have at least one authentication method"
  | .noContext => "invalid operation: document must include DID Core context"
  | .foreignCurve method =>
    "invalid operation: verification method " ++ method ++ " is not on " ++ curveName

namespace Document

/-- The vocabulary of documents. -/
def coreContext : String := "https://www.w3.org/ns/did/v1"

/-- The vocabulary of keys on the curve. -/
def curveContext : String := "https://w3id.org/security/suites/secp256k1-2019/v1"

/-- The type of a verification method. -/
def methodType : String := "EcdsaSecp256k1VerificationKey2019"

/-! ### Resolution -/

/-- The name of a key in the document of an identifier. -/
def reference (did : Did) (key : OperationKey) : String := did.value ++ "#" ++ key.id

/-- Whether a key authenticates. -/
def authenticates (key : OperationKey) : Bool :=
  key.usage == .master || key.usage == .authentication

/-- Whether a key issues credentials. -/
def issues (key : OperationKey) : Bool := key.usage == .issuing

/-- The web key of a stated key. -/
def webKey (data : KeyData) : WebKey :=
  ⟨"EC", data.curve, Base64Url.encode data.x, Base64Url.encode data.y⟩

/-- The verification method of a key. -/
def method (did : Did) (key : OperationKey) : VerificationMethod :=
  ⟨reference did key, methodType, did.value, webKey key.data⟩

/-- The document of an identifier whose state has been read. -/
def ofValidated (did : Did) (form : ValidatedLongForm) : Document :=
  let keys := form.initialState.keys
  { context := [coreContext, curveContext]
    id := did.value
    canonicalId := form.canonical.value
    verificationMethod := keys.map (method did)
    authentication := (keys.filter authenticates).map (reference did)
    assertionMethod := (keys.filter issues).map (reference did) }

/-- The document of a long identifier. -/
def resolve (did : Did) : Except DidError Document := do
  return ofValidated did (← did.validateLongForm)

/-- Whether a document is one of this method, or why it is none. -/
def validate (doc : Document) : Except DocumentError Unit :=
  if Text.dropFront? prismHead.toList doc.id.toList = none then .error .foreignId
  else if doc.verificationMethod = [] then .error .noMethod
  else if doc.authentication = [] then .error .noAuthentication
  else if coreContext ∉ doc.context then .error .noContext
  else
    match doc.verificationMethod.find? fun m => m.publicKey.crv != curveName with
    | some m => .error (.foreignCurve m.id)
    | none => .ok ()

end Document

/-! ### Records -/

/-- An array of strings. -/
def textsToJson (texts : List String) : Json := .array (texts.map .text)

/-- The texts in an array of strings. -/
def textsOfJson? (value : Json) : Option (List String) := do (← value.items?).mapM Json.text?

namespace WebKey

/-- The record of a web key. -/
def toJson (key : WebKey) : Json :=
  .record [("kty", .text key.kty), ("crv", .text key.crv), ("x", .text key.x), ("y", .text key.y)]

/-- The web key that a record describes. -/
def ofJson? (value : Json) : Option WebKey := do
  match ← value.allFields? ["kty", "crv", "x", "y"] with
  | [kty, crv, x, y] => return ⟨← kty.text?, ← crv.text?, ← x.text?, ← y.text?⟩
  | _ => none

end WebKey

namespace VerificationMethod

/-- The record of a verification method. -/
def toJson (m : VerificationMethod) : Json :=
  .record [("id", .text m.id), ("type", .text m.type), ("controller", .text m.controller),
    ("publicKeyJwk", m.publicKey.toJson)]

/-- The verification method that a record describes. -/
def ofJson? (value : Json) : Option VerificationMethod := do
  match ← value.allFields? ["id", "type", "controller", "publicKeyJwk"] with
  | [id, type, controller, key] =>
    return ⟨← id.text?, ← type.text?, ← controller.text?, ← WebKey.ofJson? key⟩
  | _ => none

end VerificationMethod

namespace Document

/-- The record of a document. -/
def toJson (doc : Document) : Json :=
  .record [("@context", textsToJson doc.context), ("id", .text doc.id),
    ("canonicalId", .text doc.canonicalId),
    ("verificationMethod", .array (doc.verificationMethod.map VerificationMethod.toJson)),
    ("authentication", textsToJson doc.authentication),
    ("assertionMethod", textsToJson doc.assertionMethod)]

/-- The document that a record describes. -/
def ofJson? (value : Json) : Option Document := do
  match ← value.allFields? ["@context", "id", "canonicalId", "verificationMethod", "authentication",
      "assertionMethod"] with
  | [context, id, canonicalId, methods, authentication, assertionMethod] =>
    return ⟨← textsOfJson? context, ← id.text?, ← canonicalId.text?,
      ← (← methods.items?).mapM VerificationMethod.ofJson?, ← textsOfJson? authentication,
      ← textsOfJson? assertionMethod⟩
  | _ => none

/-- The text of a document. -/
def write (doc : Document) : String := doc.toJson.indented

/-- Reads a document; no record of the right shape is refused here. -/
def readJson (text : String) : Except (Json.ReadError Empty) Document :=
  Json.read (fun value => Json.demand (ofJson? value)) text

end Document
end DidKeys
