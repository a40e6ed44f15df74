import DidKeys.CommandLine.Arguments
import DidKeys.CommandLine.Failure
import DidKeys.CommandLine.Report
import DidKeys.Signature.Der

/-! # Running a command

A run is a function of the arguments, the environment and some random bytes.  Its outcome is an exit
code and two texts: reports for the standard output, faults for the other one.  Logging, which
`RUST_LOG` or else `--log-level` sets and which also goes to the standard error, is left out of it.

* Exit code 1 is a failure of the command, 2 a fault in its use.
* `Command.report` is the command itself; nothing else decides what is reported. -/

namespace DidKeys.CommandLine

/-! ### Commands -/

/-- A new mnemonic, from random bytes. -/
def newMnemonic (random : Bytes) (words : Nat) : Except Failure Report := do
  let count ← because "unsupported word count" (WordCount.ofWords words)
  let code ← plainly (MnemonicCode.ofEntropy (random.take count.entropyBytes))
  return .newMnemonic code

/-- The verdict on a mnemonic. -/
def checkMnemonic (phrase : String) : Except Failure Report :=
  let code := MnemonicCode.ofText phrase
  match code.validate with
  | .ok () => .ok (.validMnemonic code.words.length)
  | .error cause => .error ⟨"invalid mnemonic: " ++ cause.message, []⟩

/-- The mnemonic that a text spells. -/
def mnemonicOf (text : String) : Except Failure MnemonicCode :=
  because "invalid mnemonic" (MnemonicCode.parse text)

/-- The key at the path that a text spells. -/
def keyAt (source : SeedSource) (pathText : String) : Except Failure ExtendedKey := do
  let code ← mnemonicOf source.mnemonic
  let path ← because ("invalid derivation path " ++ Text.quoted pathText) (Path.parse pathText)
  let seed ← because "failed to stretch seed" (code.seed source.passphrase)
  because ("failed to derive key at " ++ path.text) (deriveKey seed path)

/-- A new identifier. -/
def createDid (source : SeedSource) (didIndex : Nat) : Except Failure Report := do
  let code ← mnemonicOf source.mnemonic
  let created ← because "failed to create DID"
    (Did.createFromMnemonic code didIndex source.passphrase)
  match created.did.canonical? with
  | some canonical => return .createdDid created canonical
  | none => throw ⟨"built DID has no canonical form", []⟩

/-- What an identifier is. -/
def inspectDid (text : String) : Except Failure Report := do
  let did ← because "not a DID" (Did.parse text)
  match did.format with
  | .canonical suffix => return .canonicalDid suffix
  | .unknown => return .unknownDid
  | .long _ =>
    let form ← because "invalid long-form DID" did.validateLongForm
    let master ← because "long-form DID has no usable master key" form.masterPublicKey
    let document := Document.ofValidated did form
    because "resolved document is malformed" document.validate
    return .longDid form.suffix master document

/-- A signature of a message. -/
def signMessage (source : SeedSource) (path message : String) : Except Failure Report := do
  let key ← keyAt source path
  let pair ← plainly key.keyPair
  let signature ← plainly (pair.privateKey.signText message)
  let der ← plainly (Der.encode signature)
  return .signedMessage pair.publicKey signature der

/-- The signature in either encoding. -/
def signatureOf (bytes : Bytes) : Except KeyError Signature :=
  match Signature.ofBytes bytes with
  | .ok signature => .ok signature
  | .error _ => Der.decode bytes

/-- The verdict on a signature. -/
def verifySignature (publicKey message signature : String) : Except Failure Report := do
  let keyBytes ← because "public key is not hex" (Hex.decode publicKey)
  let key ← because "invalid public key" (PublicKey.ofEncoded keyBytes)
  let bytes ← because "signature is not hex" (Hex.decode signature)
  let signature ← because "signature is neither r||s nor DER" (signatureOf bytes)
  if key.verifyText message signature then return .validSignature
  else throw ⟨"signature does not verify", []⟩

/-- What a command reports. -/
def Command.report (random : Bytes) : Command → Except Failure Report
  | .newMnemonic words => CommandLine.newMnemonic random words
  | .checkMnemonic phrase => CommandLine.checkMnemonic phrase
  | .derive seed path showPrivate => do return .derivedKey (← keyAt seed path) showPrivate
  | .createDid seed didIndex => CommandLine.createDid seed didIndex
  | .inspectDid did => CommandLine.inspectDid did
  | .sign seed path message => signMessage seed path message
  | .verify publicKey message signature => verifySignature publicKey message signature
  | .version => .ok .version

/-! ### Runs -/

/-- The outcome of a run.  The errors are what goes to the standard error, without the log. -/
structure Outcome where
  exitCode : Nat
  output : String
  errors : String
  deriving DecidableEq, Repr

/-- The summary of a place for those who ask for help. -/
def helpLines (place : Place) : List String :=
  let commands := place.children.map fun child => "  " ++ child.1
  let options := (Place.globalOptions ++ place.ownOptions).map fun option => "  --" ++ option.name
  [place.title, "", "commands:"] ++ commands ++ ["", "options:"] ++ options

/-- The outcome of reading that ended without a command. -/
def Stop.outcome : Stop → Outcome
  | .usage => ⟨2, "", textOfLines ["error: unexpected arguments", "", "For more, try '--help'."]⟩
  | .help place => ⟨0, textOfLines (helpLines place), ""⟩
  | .version place => ⟨0, textOfLines [place.title ++ " " ++ programVersion], ""⟩

/-- A run of the program. -/
def run (env : Environment) (random : Bytes) (args : List String) : Outcome :=
  match parse env args with
  | .error reason => reason.outcome
  | .ok command =>
    match command.report random with
    | .ok report => ⟨0, report.text, ""⟩
    | .error failure => ⟨1, "", failure.text⟩

end DidKeys.CommandLine
