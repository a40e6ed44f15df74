import DidKeys.Did.Create
import DidKeys.Did.Document

/-! # What commands find out

The result of a command is a value; `Report.lines` is how it is shown, one fact a line. -/

namespace DidKeys.CommandLine

/-- The name of the program. -/
def programName : String := "prism-wallet"

/-- The version of the program. -/
def programVersion : String := "0.1.0"

/-- The result of a command. -/
inductive Report where
  /-- A new mnemonic. -/
  | newMnemonic (code : MnemonicCode)
  /-- A mnemonic of this many words holds. -/
  | validMnemonic (words : Nat)
  /-- A derived key, and whether its private half is shown. -/
  | derivedKey (key : ExtendedKey) (showPrivate : Bool)
  /-- A new identifier and its short form. -/
  | createdDid (created : CreatedDid) (canonical : Did)
  /-- An identifier that is a hash and no more. -/
  | canonicalDid (suffix : String)
  /-- An identifier with its state. -/
  | longDid (suffix : String) (master : PublicKey) (document : Document)
  /-- An identifier of neither form. -/
  | unknownDid
  /-- A signature, and the same in the distinguished encoding. -/
  | signedMessage (publicKey : PublicKey) (signature : Signature) (der : Bytes)
  /-- A signature holds. -/
  | validSignature
  /-- The version is asked for. -/
  | version

namespace Report

/-- The lines of a derived key. -/
def keyLines (key : ExtendedKey) (showPrivate : Bool) : List String :=
  let shown := if showPrivate then key.privateKey.toList else []
  ["path        : " ++ key.path.text, "public key  : " ++ key.publicKey.hex,
    "compressed  : " ++ Hex.encode key.publicKey.compressed] ++
    shown.map fun privateKey => "private key : " ++ privateKey.hex

/-- The lines of a report. -/
def lines : Report → List String
  | newMnemonic code => [code.phrase]
  | validMnemonic words => ["valid (" ++ Decimal.text words ++ " words)"]
  | derivedKey key showPrivate => keyLines key showPrivate
  | createdDid created canonical =>
    ["long form      : " ++ created.did.value, "canonical      : " ++ canonical.value,
      "operation hash : " ++ created.operationHash.hex,
      "signed with    : " ++ created.signedOperation.signedWith,
      "signature      : " ++ created.signedOperation.signature.hex]
  | canonicalDid suffix => ["format : canonical", "suffix : " ++ suffix]
  | longDid suffix master document =>
    ["format     : long", "suffix     : " ++ suffix, "master key : " ++ master.hex, document.write]
  | unknownDid => ["format : unknown"]
  | signedMessage publicKey signature der =>
    ["public key : " ++ publicKey.hex, "signature  : " ++ signature.hex,
      "der        : " ++ Hex.encode der]
  | validSignature => ["valid"]
  | version =>
    [programName ++ " " ++ programVersion, "curve        " ++ curveName,
      "signature    " ++ signatureAlgorithm]

end Report

/-- Lines, each with its end. -/
def textOfLines (lines : List String) : String := String.join (lines.map (· ++ "\n"))

/-- The text of a report. -/
def Report.text (report : Report) : String := textOfLines report.lines

end DidKeys.CommandLine
