import DidKeys.Backend
import DidKeys.Bytes
import DidKeys.Bytes.Base64Url
import DidKeys.Bytes.Hex
import DidKeys.Chunks
import DidKeys.CommandLine.Arguments
import DidKeys.CommandLine.Failure
import DidKeys.CommandLine.Place
import DidKeys.CommandLine.Report
import DidKeys.CommandLine.Run
import DidKeys.Curve.Point
import DidKeys.Curve.Residue
import DidKeys.Derivation.Axis
import DidKeys.Derivation.ExtendedKey
import DidKeys.Derivation.Json
import DidKeys.Derivation.Layout
import DidKeys.Derivation.Path
import DidKeys.Did.Basic
import DidKeys.Did.Create
import DidKeys.Did.Document
import DidKeys.Did.Error
import DidKeys.Did.Operation
import DidKeys.Hash.Digest
import DidKeys.Hash.Hmac
import DidKeys.Hash.Json
import DidKeys.Hash.Sha2
import DidKeys.Json.Basic
import DidKeys.Json.Position
import DidKeys.Json.Printer
import DidKeys.Json.Reader
import DidKeys.Key.Error
import DidKeys.Key.Private
import DidKeys.Key.Public
import DidKeys.Main
import DidKeys.Merkle.Json
import DidKeys.Merkle.Proof
import DidKeys.Merkle.Tree
import DidKeys.Mnemonic.Code
import DidKeys.Mnemonic.Error
import DidKeys.Mnemonic.Seed
import DidKeys.Mnemonic.WordCount
import DidKeys.Mnemonic.Wordlist
import DidKeys.Proofs.Bytes.Number
import DidKeys.Proofs.Bytes.Utf8
import DidKeys.Proofs.Curve.Group
import DidKeys.Proofs.Curve.Order
import DidKeys.Proofs.Curve.Primality
import DidKeys.Proofs.Curve.Residue
import DidKeys.Proofs.Derivation.Reachable
import DidKeys.Proofs.Derivation.WatchOnly
import DidKeys.Proofs.Did.OperationRoundTrip
import DidKeys.Proofs.Hash.Collision
import DidKeys.Proofs.Key.Tweak
import DidKeys.Proofs.Merkle.Completeness
import DidKeys.Proofs.Merkle.Shifts
import DidKeys.Proofs.Merkle.Soundness
import DidKeys.Proofs.Merkle.Ways
import DidKeys.Proofs.Wire.Spelling
import DidKeys.Signature.Basic
import DidKeys.Signature.Der
import DidKeys.Signature.Ecdsa
import DidKeys.Text.CharacterDatabase
import DidKeys.Text.CombiningClass
import DidKeys.Text.Decimal
import DidKeys.Text.Decomposition
import DidKeys.Text.GraphemeExtend
import DidKeys.Text.Normalization
import DidKeys.Text.Quoted
import DidKeys.Text.Split
import DidKeys.Text.Unprintable
import DidKeys.Text.WhiteSpace
import DidKeys.Wire.Field
import DidKeys.Wire.Varint
import DidKeys.Proofs.Curve.SquareRoot
import DidKeys.Proofs.Merkle.Commitment
import DidKeys.Proofs.Key.Encoding
import DidKeys.Proofs.Did.Layout
import DidKeys.Proofs.Did.LongForm
import DidKeys.Proofs.Did.SelfCertifying
import DidKeys.Proofs.Did.Created
import DidKeys.Proofs.Derivation.Layout
import DidKeys.Proofs.Signature.Verification
import DidKeys.Proofs.Did.FromMnemonic
import DidKeys.Proofs.Text.Words
import DidKeys.Proofs.Mnemonic.Wordlist
import DidKeys.Proofs.Mnemonic.CheckedNumber
import DidKeys.Proofs.Mnemonic.Entropy
import DidKeys.Proofs.Derivation.WellFormed
import DidKeys.Proofs.CommandLine.Reading
import DidKeys.Proofs.Derivation.PathText
import DidKeys.Proofs.Did.Document
import DidKeys.Proofs.Signature.Encoding
import DidKeys.Proofs.CommandLine.Agreement
import DidKeys.Proofs.CommandLine.Verdicts
import DidKeys.Proofs.Signature.Opposite
import DidKeys.Proofs.Text.Numeral
import DidKeys.Proofs.Derivation.PathGrammar
import DidKeys.Proofs.Json.Spelling
import DidKeys.Proofs.Json.Literal
import DidKeys.Proofs.Json.Grammar
import DidKeys.Proofs.Json.Reading
import DidKeys.Proofs.Json.Writing
import DidKeys.Proofs.Json.Record
import DidKeys.Proofs.Json.Domains
import DidKeys.Proofs.Did.DocumentRoundTrip
import DidKeys.Proofs.Merkle.Split
import DidKeys.Proofs.Merkle.Turns
import DidKeys.Proofs.Merkle.Tampering
import DidKeys.Proofs.Mnemonic.Elements
import DidKeys.Proofs.Readings
import DidKeys.Proofs.Wire.Contents
import DidKeys.Proofs.Wire.Grammar
import DidKeys.Proofs.Bytes.Base64
import DidKeys.Proofs.Did.Message
import DidKeys.Proofs.Did.Verdict
import DidKeys.Proofs.Did.Projection
import DidKeys.Proofs.Did.References
import DidKeys.Proofs.Did.MasterKey
import DidKeys.Proofs.Wire.Concatenation
import DidKeys.Proofs.Did.Concatenation
import DidKeys.Proofs.Bytes.Bits
import DidKeys.Proofs.Mnemonic.Verdict
import DidKeys.Proofs.Signature.Integer
import DidKeys.Proofs.Signature.Distinguished
import DidKeys.Proofs.Text.Pattern
import DidKeys.Proofs.Did.Syntax
import DidKeys.Proofs.Bytes.Hex
import DidKeys.Proofs.Merkle.Transport
import DidKeys.Proofs.Derivation.Composition
import DidKeys.Proofs.Text.NormalForm
import DidKeys.Proofs.Hash.PasswordBased
import DidKeys.Proofs.Mnemonic.Stretching
import DidKeys.Proofs.Derivation.ChildMessages
import DidKeys.Proofs.Derivation.Places
import DidKeys.Proofs.Key.Value
