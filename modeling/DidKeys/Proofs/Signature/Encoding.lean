import DidKeys.Proofs.Signature.Integer
import DidKeys.Proofs.Signature.Verification

/-! # Encodings of signatures

The fixed-width form of a signature is read as that signature and no other 64 bytes are
(`Signature.ofBytes_eq_ok_iff`).  The distinguished encoding of two scalars other than zero is read
as the signature of these (`Der.decode_ofScalars`); its length counts the bytes that their bits take
up (`Der.length_ofScalars`). -/

namespace DidKeys

/-! ### Fixed width -/

namespace Signature

theorem toNat_rBytes (sig : Signature) : Bytes.toNat sig.rBytes = sig.r.toNat :=
  Bytes.toNat_ofNat_of_lt (by simpa using sig.r.isLt)

theorem toNat_sBytes (sig : Signature) : Bytes.toNat sig.sBytes = sig.s.toNat :=
  Bytes.toNat_ofNat_of_lt (by simpa using sig.s.isLt)

@[simp] theorem length_rBytes (sig : Signature) : sig.rBytes.length = 32 := Bytes.length_ofNat _ _

@[simp] theorem length_sBytes (sig : Signature) : sig.sBytes.length = 32 := Bytes.length_ofNat _ _

theorem ofBytes_toBytes (sig : Signature) : ofBytes sig.toBytes = .ok sig := by
  rw [ofBytes, if_pos sig.length_toBytes, toBytes, List.take_left' sig.length_rBytes,
    List.drop_left' sig.length_rBytes, toNat_rBytes, toNat_sBytes, BitVec.ofNat_toNat,
    BitVec.ofNat_toNat, BitVec.setWidth_eq, BitVec.setWidth_eq]

/-- Any 64 bytes are the fixed-width form of a signature. -/
theorem exists_toBytes {bs : Bytes} (h : bs.length = byteLength) :
    ∃ sig : Signature, sig.toBytes = bs := by
  have htake : (bs.take 32).length = 32 := by
    rw [List.length_take, h]
    rfl
  have hdrop : (bs.drop 32).length = 32 := by
    rw [List.length_drop, h]
    rfl
  have hbound : ∀ half : Bytes, half.length = 32 → Bytes.toNat half < 2 ^ 256 := by
    intro half hlength
    have hlt := Bytes.toNat_lt half
    rw [hlength] at hlt
    exact hlt
  refine ⟨⟨.ofNat 256 (Bytes.toNat (bs.take 32)), .ofNat 256 (Bytes.toNat (bs.drop 32))⟩, ?_⟩
  rw [toBytes, rBytes, sBytes, BitVec.toNat_ofNat, BitVec.toNat_ofNat,
    Nat.mod_eq_of_lt (hbound _ htake), Nat.mod_eq_of_lt (hbound _ hdrop),
    Bytes.ofNat_toNat_of_length htake, Bytes.ofNat_toNat_of_length hdrop, List.take_append_drop]

/-- A signature is read from its fixed-width form and from nothing else. -/
theorem ofBytes_eq_ok_iff {bs : Bytes} {sig : Signature} :
    ofBytes bs = .ok sig ↔ sig.toBytes = bs := by
  constructor
  · intro h
    by_cases hlength : bs.length = byteLength
    · obtain ⟨other, rfl⟩ := exists_toBytes hlength
      rw [ofBytes_toBytes] at h
      rw [Except.ok.inj h]
    · rw [ofBytes, if_neg hlength] at h
      cases h
  · rintro rfl
    exact ofBytes_toBytes sig

end Signature

/-! ### Sequences -/

theorem Scalar.val_lt (k : Scalar) : k.val < 256 ^ 32 := Nat.lt_trans k.isLt (by decide)

theorem Scalar.size_val_le (k : Scalar) : k.val.size ≤ 256 :=
  Nat.size_le.mpr (Nat.lt_trans k.isLt (by decide))

namespace Der

@[simp] theorem length_item (tag : UInt8) (content : Bytes) :
    (item tag content).length = content.length + 2 := rfl

theorem toNat_length_of_lt {content : Bytes} (h : content.length < 128) :
    (UInt8.ofNat content.length).toNat = content.length := by
  rw [UInt8.toNat_ofNat']
  omega

/-- A short item is split off again. -/
theorem takeItem?_item (tag : UInt8) {content : Bytes} (h : content.length < 128) (rest : Bytes) :
    takeItem? tag (item tag content ++ rest) = some (content, rest) := by
  have hlength := toNat_length_of_lt h
  have hshort : UInt8.ofNat content.length < 128 := by
    rw [UInt8.lt_iff_toNat_lt, hlength]
    exact h
  rw [item, List.cons_append, List.cons_append, takeItem?, hlength, if_pos]
  · rw [List.take_left, List.drop_left]
  · refine ⟨rfl, hshort, ?_⟩
    rw [List.length_append]
    exact Nat.le_add_right _ _

/-- A short item alone is split into its content and nothing. -/
theorem takeItem?_item_nil (tag : UInt8) {content : Bytes} (h : content.length < 128) :
    takeItem? tag (item tag content) = some (content, []) := by
  have htake := takeItem?_item tag h []
  rwa [List.append_nil] at htake

/-- The encoding of the signature of two scalars. -/
def ofScalars (r s : Scalar) : Bytes :=
  item 0x30 (item 0x02 (integerContent r.val) ++ item 0x02 (integerContent s.val))

section scalars
variable {r s : Scalar}

theorem length_content_le (k : Scalar) : (integerContent k.val).length ≤ 33 := by
  have hsize := k.size_val_le
  rw [length_integerContent k.val_lt]
  omega

theorem length_ofScalars (r s : Scalar) :
    (ofScalars r s).length = r.val.size / 8 + s.val.size / 8 + 8 := by
  rw [ofScalars, length_item, List.length_append, length_item, length_item,
    length_integerContent r.val_lt, length_integerContent s.val_lt]
  omega

theorem encode_ofScalars (hr : r ≠ 0) (hs : s ≠ 0) :
    encode (.ofScalars r s) = .ok (ofScalars r s) := by
  rw [encode, Signature.scalars?_ofScalars hr hs]
  rfl

theorem unit?_integerContent (hr : r ≠ 0) : unit? (integerContent r.val) = some r := by
  rw [unit?, integerValue?_eq_some_iff.mpr (isInteger_integerContent r.val_lt)]
  exact Signature.unit?_val hr

/-- The encoding of two scalars is read as their signature. -/
theorem decode_ofScalars (hr : r ≠ 0) (hs : s ≠ 0) :
    decode (ofScalars r s) = .ok (.ofScalars r s) := by
  have hrLength := length_content_le r
  have hsLength := length_content_le s
  have hbody : (item 0x02 (integerContent r.val) ++
      item 0x02 (integerContent s.val)).length < 128 := by
    rw [List.length_append, length_item, length_item]
    omega
  have hsequence := takeItem?_item_nil 0x30 hbody
  have hfirst := takeItem?_item 0x02 (show (integerContent r.val).length < 128 by omega)
    (item 0x02 (integerContent s.val))
  have hsecond := takeItem?_item_nil 0x02
    (show (integerContent s.val).length < 128 by omega)
  have hread : decode? (ofScalars r s) = some (.ofScalars r s) := by
    rw [decode?, ofScalars, hsequence]
    simp only [Option.bind_eq_bind, Option.bind_some, hfirst, hsecond, unit?_integerContent hr,
      unit?_integerContent hs]
    rfl
  rw [decode, hread]

/-- The encoding is not the fixed-width form of the same signature.  As such it would begin with
the tag of a sequence, so the first number would be long; the second one would be short, and still
have the tag of an integer among its bytes. -/
theorem toBytes_ne_ofScalars (r s : Scalar) :
    (Signature.ofScalars r s).toBytes ≠ ofScalars r s := by
  intro heq
  have hrValue := (Signature.ofScalars r s).toNat_rBytes
  have hsValue := (Signature.ofScalars r s).toNat_sBytes
  have hrLength := (Signature.ofScalars r s).length_rBytes
  have hsLength := (Signature.ofScalars r s).length_sBytes
  rw [Signature.toNat_r_ofScalars] at hrValue
  rw [Signature.toNat_s_ofScalars] at hsValue
  have hsplit : (Signature.ofScalars r s).rBytes ++ (Signature.ofScalars r s).sBytes =
      (0x30 :: _ :: 0x02 :: _ :: integerContent r.val) ++ 0x02 :: _ :: integerContent s.val := heq
  have htotal := congrArg List.length hsplit
  simp only [List.length_append, List.length_cons, hrLength, hsLength] at htotal
  have hlong : 31 < (integerContent r.val).length := by
    have htake := congrArg (List.take 32) hsplit
    rw [List.take_left' hrLength] at htake
    obtain ⟨rest, hfirst⟩ : ∃ rest, (Signature.ofScalars r s).rBytes = 0x30 :: rest := ⟨_, htake⟩
    rw [hfirst] at hrValue hrLength
    have hlarge := Bytes.pow_le_toNat_cons (show (0x30 : UInt8) ≠ 0 by decide) rest
    rw [hrValue, Nat.succ_injective hrLength] at hlarge
    exact lt_length_integerContent r.val_lt hlarge
  rcases List.append_eq_append_iff.mp hsplit with ⟨middle, _, hback⟩ | ⟨middle, hfront, _⟩
  · have hlarge : 256 ^ ((integerContent s.val).length + 1) ≤
        Bytes.toNat (Signature.ofScalars r s).sBytes := by
      rw [hback]
      exact Bytes.pow_le_toNat_append_cons (by decide) middle (_ :: integerContent s.val)
    rw [hsValue] at hlarge
    exact absurd (lt_length_integerContent s.val_lt hlarge) (by omega)
  · have hlength := congrArg List.length hfront
    simp only [List.length_append, List.length_cons, hrLength] at hlength
    omega

end scalars
end Der
end DidKeys
