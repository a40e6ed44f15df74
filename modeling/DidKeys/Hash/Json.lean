import DidKeys.Hash.Digest
import DidKeys.Json.Reader

/-! # Digests in JSON

A digest is written as a record of its 32 bytes. -/

namespace DidKeys.Digest

/-- The record of a digest. -/
def toJson (digest : Digest) : Json :=
  .record [("value", .array (digest.bytes.map fun b => .nat b.toNat))]

/-- The byte that a number is. -/
def byteOfJson? (value : Json) : Option UInt8 := (value.nat? 256).map UInt8.ofNat

/-- The digest that a record describes. -/
def ofJson? (value : Json) : Option Digest := do
  match ← value.allFields? ["value"] with
  | [bytes] => ofBytes? (← (← bytes.items?).mapM byteOfJson?)
  | _ => none

/-- Reads the record of a digest; no record of the right shape is refused. -/
def readJson (text : String) : Except (Json.ReadError Empty) Digest :=
  Json.read (fun value => Json.demand (ofJson? value)) text

end DidKeys.Digest
