import DidKeys.Did.Operation
import DidKeys.Proofs.Hash.Collision
import DidKeys.Proofs.Wire.Spelling

/-! # Operations are read back

Reading the encoding of an operation gives the operation (`decode_encode_of_length_lt`): every
message spells the fields it was written from, level by level from the inside out, and what was left
out is the default that reading puts in its place.  The one condition is that lengths fit into 64
bits, and the length of the whole encoding bounds all others.

So operations with one encoding are equal, and operations with one hash are equal or their encodings
are a collision. -/

namespace DidKeys

/-! ### Fields that may be left out -/

/-- The field with a byte string, if it is not left out. -/
def fieldsUnlessEmpty (tag : Nat) (content : Bytes) : List Wire.Field :=
  if content = [] then [] else [⟨tag, .delimited content⟩]

/-- The field with a number, if it is not left out. -/
def fieldsUnlessZero (tag value : Nat) : List Wire.Field :=
  if value = 0 then [] else [⟨tag, .varint value⟩]

section optional
variable {limit tag other : Nat}

theorem spells_unlessEmpty {content : Bytes} (hpos : 0 < tag) (hsmall : tag < 2 ^ 29)
    (hlen : content.length < 2 ^ 64) :
    Wire.Spells limit (fieldUnlessEmpty tag content) (fieldsUnlessEmpty tag content) := by
  unfold fieldUnlessEmpty fieldsUnlessEmpty
  split
  · exact .nil
  · exact .delimited hpos hsmall hlen

theorem spells_unlessZero {value : Nat} (hpos : 0 < tag) (hsmall : tag < 2 ^ 29)
    (hvalue : value < 2 ^ 64) :
    Wire.Spells limit (fieldUnlessZero tag value) (fieldsUnlessZero tag value) := by
  unfold fieldUnlessZero fieldsUnlessZero
  split
  · exact .nil
  · exact .varint hpos hsmall hvalue

@[simp] theorem contents_unlessEmpty (content : Bytes) :
    Wire.contents tag (fieldsUnlessEmpty tag content) =
      if content = [] then [] else [.delimited content] := by
  unfold fieldsUnlessEmpty
  split <;> simp

theorem contents_unlessEmpty_other (content : Bytes) (h : other ≠ tag) :
    Wire.contents tag (fieldsUnlessEmpty other content) = [] := by
  unfold fieldsUnlessEmpty
  split
  · rfl
  · exact Wire.contents_other _ h

@[simp] theorem contents_unlessZero (value : Nat) :
    Wire.contents tag (fieldsUnlessZero tag value) = if value = 0 then [] else [.varint value] := by
  unfold fieldsUnlessZero
  split <;> simp

theorem contents_unlessZero_other (value : Nat) (h : other ≠ tag) :
    Wire.contents tag (fieldsUnlessZero other value) = [] := by
  unfold fieldsUnlessZero
  split
  · rfl
  · exact Wire.contents_other _ h

theorem length_le_writeDelimited (tag : Nat) (content : Bytes) :
    content.length ≤ (Wire.writeDelimited tag content).length := by
  rw [Wire.writeDelimited, List.length_append]
  omega

theorem length_le_fieldUnlessEmpty (tag : Nat) (content : Bytes) :
    content.length ≤ (fieldUnlessEmpty tag content).length := by
  unfold fieldUnlessEmpty
  split
  · next h => simp [h]
  · exact length_le_writeDelimited tag content

end optional

/-! ### Key data -/

namespace KeyData

/-- The fields that stated key data are written as. -/
def fields (data : KeyData) : List Wire.Field :=
  fieldsUnlessEmpty 1 (Bytes.ofString data.curve) ++ fieldsUnlessEmpty 2 data.x ++
    fieldsUnlessEmpty 3 data.y

theorem spells_encode {limit : Nat} {data : KeyData} (h : data.encode.length < 2 ^ 64) :
    Wire.Spells limit data.encode data.fields := by
  have hcurve := length_le_fieldUnlessEmpty 1 (Bytes.ofString data.curve)
  have hx := length_le_fieldUnlessEmpty 2 data.x
  have hy := length_le_fieldUnlessEmpty 3 data.y
  simp only [encode, List.length_append] at h
  exact ((spells_unlessEmpty (by decide) (by decide) (by omega)).append
    (spells_unlessEmpty (by decide) (by decide) (by omega))).append
    (spells_unlessEmpty (by decide) (by decide) (by omega))

theorem ofFields?_fields (data : KeyData) : ofFields? data.fields = some data := by
  have hcurve : Wire.text? 1 data.fields = some data.curve := by
    apply Wire.text?_of_contents
    simp [fields, contents_unlessEmpty_other]
  have hx : Wire.bytes? 2 data.fields = some data.x := by
    apply Wire.bytes?_of_contents
    simp [fields, contents_unlessEmpty_other]
  have hy : Wire.bytes? 3 data.fields = some data.y := by
    apply Wire.bytes?_of_contents
    simp [fields, contents_unlessEmpty_other]
  simp [ofFields?, hcurve, hx, hy]

end KeyData

/-! ### Keys -/

namespace OperationKey

/-- The fields that a key is written as. -/
def fields (key : OperationKey) : List Wire.Field :=
  fieldsUnlessEmpty 1 (Bytes.ofString key.id) ++ fieldsUnlessZero 2 key.usage.code ++
    [⟨8, .delimited key.data.encode⟩]

/-- The key as it is read, before it is judged. -/
def raw (key : OperationKey) : RawKey := ⟨key.id, key.usage.code, some key.data⟩

theorem usage_code_lt (usage : KeyUsage) : usage.code < 2 ^ 64 := by
  cases usage <;> decide

theorem length_data_le (key : OperationKey) : key.data.encode.length ≤ key.encode.length := by
  have := length_le_writeDelimited 8 key.data.encode
  simp only [encode, List.length_append]
  omega

theorem spells_encode {limit : Nat} {key : OperationKey} (h : key.encode.length < 2 ^ 64) :
    Wire.Spells limit key.encode key.fields := by
  have hid := length_le_fieldUnlessEmpty 1 (Bytes.ofString key.id)
  have hdata := length_le_writeDelimited 8 key.data.encode
  have husage := usage_code_lt key.usage
  simp only [encode, List.length_append] at h
  exact ((spells_unlessEmpty (by decide) (by decide) (by omega)).append
    (spells_unlessZero (by decide) (by decide) husage)).append
    (.delimited (by decide) (by decide) (by omega))

theorem usageOfNumber_code (usage : KeyUsage) : usageOfNumber usage.code = usage.code := by
  cases usage <;> rfl

theorem ofFields?_fields {key : OperationKey} (h : key.encode.length < 2 ^ 64) :
    RawKey.ofFields? key.fields = some key.raw := by
  have hid : Wire.text? 1 key.fields = some key.id := by
    apply Wire.text?_of_contents
    simp [fields, contents_unlessZero_other, Wire.contents_other]
  have husage : Wire.number? 2 key.fields = some key.usage.code := by
    apply Wire.number?_of_contents
    simp [fields, contents_unlessEmpty_other, Wire.contents_other]
  have hdata : Wire.message? (groupLimit - 4) 8 key.fields = some (some key.data.fields) := by
    have hshort := Nat.lt_of_le_of_lt key.length_data_le h
    refine Wire.message?_of_contents ?_ (KeyData.spells_encode hshort)
    simp [fields, contents_unlessEmpty_other, contents_unlessZero_other]
  simp [RawKey.ofFields?, hdata, KeyData.ofFields?_fields, hid, husage, usageOfNumber_code, raw]

@[simp] theorem judge_raw (key : OperationKey) : key.raw.judge = .ok key := by
  simp [raw, RawKey.judge]

end OperationKey

/-! ### Operations -/

namespace Operation

theorem length_encode_key_le {op : Operation} {key : OperationKey} (h : key ∈ op.keys) :
    key.encode.length ≤ op.encodeState.length := by
  have hkey := length_le_writeDelimited 2 key.encode
  obtain ⟨before, after, hkeys⟩ := List.append_of_mem h
  rw [encodeState, hkeys]
  simp only [List.flatMap_append, List.flatMap_cons, List.length_append]
  omega

theorem judgeKeys_raw (keys : List OperationKey) :
    judgeKeys (keys.map OperationKey.raw) = .ok keys := by
  induction keys with
  | nil => rfl
  | cons key keys ih =>
      rw [List.map_cons, judgeKeys, OperationKey.judge_raw, ih]
      rfl

theorem mapM_ofFields?_fields {keys : List OperationKey}
    (h : ∀ key ∈ keys, key.encode.length < 2 ^ 64) :
    (keys.map OperationKey.fields).mapM RawKey.ofFields? = some (keys.map OperationKey.raw) := by
  induction keys with
  | nil => rfl
  | cons key keys ih =>
      have hkey := OperationKey.ofFields?_fields (h key (by simp))
      have hkeys := ih fun other hother => h other (by simp [hother])
      simp [List.mapM_cons, hkey, hkeys]

/-- The encoding of an operation spells one message in another, and those hold the keys. -/
theorem rawKeys?_encode {op : Operation} (h : op.encode.length < 2 ^ 64) :
    (Wire.fields? groupLimit op.encode).bind rawKeys? =
      some (some (op.keys.map OperationKey.raw)) := by
  have hcreate := length_le_writeDelimited 1 (Wire.writeDelimited 1 op.encodeState)
  have hstate := length_le_writeDelimited 1 op.encodeState
  rw [← encode] at hcreate
  have hkeys : ∀ key ∈ op.keys, key.encode.length < 2 ^ 64 := by
    intro key hkey
    have := length_encode_key_le hkey
    omega
  have hfields : Wire.fields? groupLimit op.encode =
      some [⟨1, .delimited (Wire.writeDelimited 1 op.encodeState)⟩] :=
    (Wire.Spells.delimited (by decide) (by decide) (by omega)).fields?
  have houter : Wire.message? (groupLimit - 1) 1
      [⟨1, .delimited (Wire.writeDelimited 1 op.encodeState)⟩] =
        some (some [⟨1, .delimited op.encodeState⟩]) :=
    Wire.message?_of_contents (by simp)
      (.delimited (by decide) (by decide) (by omega))
  have hinner : Wire.message? (groupLimit - 2) 1 [⟨1, .delimited op.encodeState⟩] =
      some (some (op.keys.map fun key => ⟨2, .delimited key.encode⟩)) := by
    have hspells : Wire.Spells (groupLimit - 2) op.encodeState
        (op.keys.map fun key => ⟨2, .delimited key.encode⟩) := by
      refine .flatMap ?_
      intro key hkey
      exact .delimited (by decide) (by decide) (hkeys key hkey)
    exact Wire.message?_of_contents (by simp) hspells
  have hmessages : Wire.messages? (groupLimit - 3) 2
      (op.keys.map fun key => ⟨2, .delimited key.encode⟩) =
        some (op.keys.map OperationKey.fields) :=
    Wire.messages?_of_contents (Wire.contents_map_same _ _)
      fun key hkey => OperationKey.spells_encode (hkeys key hkey)
  rw [hfields, Option.bind_some, rawKeys?]
  simp [houter, hinner, hmessages, mapM_ofFields?_fields hkeys]

theorem decode_encode_eq {op : Operation} (h : op.encode.length < 2 ^ 64) :
    decode op.encode = .ok op := by
  rw [decode, rawKeys?_encode h]
  simp only [judgeKeys_raw]
  rfl

/-- Every operation whose encoding has a length of 64 bits is read back from it.  No other operation
has that encoding, and one with the same hash is the same operation or has another encoding, which
collides. -/
theorem decode_encode_of_length_lt {op : Operation} (h : op.encode.length < 2 ^ 64) :
    decode op.encode = .ok op ∧
      (∀ other : Operation, other.encode = op.encode → other = op) ∧
      (∀ other : Operation, other.hash = op.hash →
        other = op ∨ (other.encode ≠ op.encode ∧ Collision [other.encode, op.encode])) := by
  have hinj : ∀ other : Operation, other.encode = op.encode → other = op := by
    intro other heq
    have hshort : other.encode.length < 2 ^ 64 := by
      rw [heq]
      exact h
    have hother := decode_encode_eq hshort
    rw [heq, decode_encode_eq h, Except.ok.injEq] at hother
    exact hother.symm
  refine ⟨decode_encode_eq h, hinj, ?_⟩
  intro other hhash
  by_cases heq : other.encode = op.encode
  · exact .inl (hinj other heq)
  · exact .inr ⟨heq, other.encode, by simp, op.encode, by simp, heq, hhash⟩

/-- An operation with a key that has nothing to write but its empty data, and a key with a name
beyond ASCII. -/
theorem decode_encode_of_length_lt_two :
    let op : Operation :=
      ⟨[⟨"", .unknown, ⟨"", [], []⟩⟩, ⟨"ключ", .master, ⟨"secp256k1", [0, 1], [2]⟩⟩]⟩
    op.encode.length < 2 ^ 64 ∧ decode op.encode = .ok op := by
  intro op
  have h : op.encode.length < 2 ^ 64 := by decide +kernel
  exact ⟨h, (decode_encode_of_length_lt h).1⟩

end Operation
end DidKeys
