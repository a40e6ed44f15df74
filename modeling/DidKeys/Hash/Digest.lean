import DidKeys.Bytes.Hex
import DidKeys.Hash.Sha2

/-! # SHA-256 digests

A digest is 32 bytes with a hexadecimal face: operation hashes, Merkle leaves and the suffix of an
identifier are all of this type.  `sha256` is the only hash that identifiers depend on. -/

namespace DidKeys

/-- The 32 bytes of a SHA-256 digest. -/
structure Digest where
  bytes : Bytes
  length_bytes : bytes.length = 32
  deriving DecidableEq, Repr

/-- The SHA-256 digest of a message. -/
def sha256 (message : Bytes) : Digest := ⟨Sha2.hash UInt32 message, Sha2.length_hash message⟩

namespace Digest

attribute [simp] length_bytes

/-- A digest is its bytes. -/
theorem eq_of_bytes {d e : Digest} (h : d.bytes = e.bytes) : d = e := by
  cases d; cases e; cases h; rfl

/-- Exactly 32 bytes are a digest. -/
def ofBytes? (bs : Bytes) : Option Digest :=
  if h : bs.length = 32 then some ⟨bs, h⟩ else none

@[simp] theorem ofBytes?_bytes (d : Digest) : ofBytes? d.bytes = some d := by
  simp [ofBytes?]

/-- The 64 lowercase hexadecimal digits of a digest. -/
def hex (d : Digest) : String := Hex.encode d.bytes

/-- Reads 64 hexadecimal digits of either case. -/
def ofHex (text : String) : Except Hex.Error Digest := do
  let bs ← Hex.decodeSized 32 text
  match ofBytes? bs with
  | some d => .ok d
  | none => .error .wrongLength

@[simp] theorem ofHex_hex (d : Digest) : ofHex d.hex = .ok d := by
  rw [ofHex, hex, Hex.decodeSized_encode d.length_bytes]
  simp [bind, Except.bind]

theorem eq_of_hex {d e : Digest} (h : d.hex = e.hex) : d = e := by
  have hread := ofHex_hex d
  rw [h, ofHex_hex, Except.ok.injEq] at hread
  exact hread.symm

/-- The diagnostic form of a digest. -/
def describe (d : Digest) : String := "Sha256Digest(" ++ d.hex ++ ")"

end Digest
end DidKeys
