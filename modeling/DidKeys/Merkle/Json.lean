import DidKeys.Json.Reader
import DidKeys.Merkle.Proof

/-! # Inclusion proofs in JSON

A proof travels as a record of its leaf, its index and its siblings; digests are hexadecimal.  The
shape of the record is judged before any digest, and the leaf before the siblings. -/

namespace DidKeys.Merkle.InclusionProof

/-- The record of a proof. -/
def toJson (proof : InclusionProof) : Json :=
  .record [("hash", .text proof.hash.hex), ("index", .nat proof.index.toNat),
    ("siblings", .array (proof.siblings.map fun sibling => .text sibling.hex))]

/-- The text of a proof. -/
def encode (proof : InclusionProof) : String := proof.toJson.compact

/-- The parts of a record, with the digests still in text. -/
def partsOfJson? (value : Json) : Option (String × UInt32 × List String) := do
  match ← value.allFields? ["hash", "index", "siblings"] with
  | [hash, index, siblings] =>
    return (← hash.text?, UInt32.ofNat (← index.nat? UInt32.size),
      ← (← siblings.items?).mapM Json.text?)
  | _ => none

/-- The proof that a text holds. -/
def decode (text : String) : Except MerkleError InclusionProof := do
  match Json.read (ε := Empty) (fun value => Json.demand (partsOfJson? value)) text with
  | .error _ => .error .badRecord
  | .ok (hash, index, siblings) =>
    let hash ← (Digest.ofHex hash).mapError .badDigest
    let siblings ← (siblings.mapM Digest.ofHex).mapError .badDigest
    return ⟨hash, index, siblings⟩

end DidKeys.Merkle.InclusionProof
