import DidKeys.Proofs.Did.Created

/-! # The master key of an identifier

The master key is looked up by name: it is the key of the first entry of the initial state that is
called `master0`, if this entry states a point of the curve (`masterPublicKey_eq_ok_iff`).  The
usage of the entry is not looked at, neither then nor when the state is read, so every usage can
stand in it (`validate_ofOperation_masterKey`). -/

namespace DidKeys

namespace Operation

/-- The key of a given name is the first one. -/
theorem key?_eq_some_iff {op : Operation} {id : String} {entry : OperationKey} :
    op.key? id = some entry ↔
      ∃ before after, op.keys = before ++ entry :: after ∧ (∀ other ∈ before, other.id ≠ id) ∧
        entry.id = id := by
  rw [key?, List.find?_eq_some_iff_append, beq_iff_eq]
  constructor
  · rintro ⟨hid, before, after, hkeys, hbefore⟩
    exact ⟨before, after, hkeys, fun other hother => by simpa using hbefore other hother, hid⟩
  · rintro ⟨before, after, hkeys, hbefore, hid⟩
    exact ⟨hid, before, after, hkeys, fun other hother => by simpa using hbefore other hother⟩

/-- An operation with one key that has a short name is read back from its encoding. -/
theorem decode_encode_single {id : String} (hid : (Bytes.ofString id).length ≤ 8)
    (usage : KeyUsage) (key : PublicKey) :
    decode (encode ⟨[⟨id, usage, .ofPublicKey key⟩]⟩) =
      .ok ⟨[⟨id, usage, .ofPublicKey key⟩]⟩ := by
  refine decode_encode_eq ?_
  have hencode := length_encode_le ⟨[⟨id, usage, .ofPublicKey key⟩]⟩
  have hfield := Wire.length_writeDelimited_le 2
    (OperationKey.mk id usage (.ofPublicKey key)).encode
  have hkey := OperationKey.length_encode_ofPublicKey_le hid usage key
  simp only [encodeState, List.flatMap_cons, List.flatMap_nil, List.append_nil] at hencode
  omega

end Operation

namespace ValidatedLongForm

/-- The master key is the one that the first entry of its name states. -/
theorem masterPublicKey_eq_ok_iff {read : ValidatedLongForm} {key : PublicKey} :
    read.masterPublicKey = .ok key ↔
      ∃ before entry after, read.initialState.keys = before ++ entry :: after ∧
        (∀ other ∈ before, other.id ≠ masterKeyId) ∧ entry.id = masterKeyId ∧
          entry.data.publicKey = .ok key := by
  rw [masterPublicKey]
  constructor
  · intro h
    cases hentry : read.initialState.key? masterKeyId with
    | none =>
        rw [hentry] at h
        cases h
    | some entry =>
        rw [hentry] at h
        obtain ⟨before, after, hkeys, hbefore, hid⟩ := Operation.key?_eq_some_iff.1 hentry
        exact ⟨before, entry, after, hkeys, hbefore, hid, h⟩
  · rintro ⟨before, entry, after, hkeys, hbefore, hid, hkey⟩
    rw [Operation.key?_eq_some_iff.2 ⟨before, after, hkeys, hbefore, hid⟩]
    exact hkey

end ValidatedLongForm

namespace LongForm

/-- A state with one entry that has the name of the master key is read, with any usage. -/
theorem validate_ofOperation_masterKey (usage : KeyUsage) (key : PublicKey) :
    let op : Operation := ⟨[⟨masterKeyId, usage, .ofPublicKey key⟩]⟩
    validate ⟨op.hash.hex, Base64Url.encode op.encode⟩ = .ok ⟨op.hash, op⟩ := by
  intro op
  have hid : (Bytes.ofString masterKeyId).length ≤ 8 := by decide
  exact validate_eq_ok_iff.2
    ⟨op.encode, rfl, Operation.decode_encode_single hid usage key, rfl⟩

theorem masterPublicKey_single (hash : Digest) (usage : KeyUsage) (key : PublicKey) :
    ValidatedLongForm.masterPublicKey ⟨hash, ⟨[⟨masterKeyId, usage, .ofPublicKey key⟩]⟩⟩ =
      .ok key :=
  ValidatedLongForm.masterPublicKey_eq_ok_iff.2
    ⟨[], _, [], rfl, List.forall_mem_nil _, rfl, KeyData.publicKey_ofPublicKey key⟩

/-- A master key of a long form that validates is stated in its payload, by the first entry that has
the name of the master key.  This entry may have any usage, whatever the key. -/
theorem masterPublicKey_of_validate :
    (∀ (form : LongForm) (read : ValidatedLongForm) (key : PublicKey), form.validate = .ok read →
      read.masterPublicKey = .ok key →
      ∃ payload before entry after, form = ⟨(sha256 payload).hex, Base64Url.encode payload⟩ ∧
        Operation.decode payload = .ok ⟨before ++ entry :: after⟩ ∧
        read.initialState.keys = before ++ entry :: after ∧
        (∀ other ∈ before, other.id ≠ masterKeyId) ∧ entry.id = masterKeyId ∧
        entry.data.publicKey = .ok key) ∧
    ∀ (usage : KeyUsage) (key : PublicKey), ∃ (form : LongForm) (read : ValidatedLongForm),
      form.validate = .ok read ∧ read.masterPublicKey = .ok key ∧
      read.initialState.keys = [⟨masterKeyId, usage, .ofPublicKey key⟩] := by
  refine ⟨fun form read key hread hkey => ?_, fun usage key => ?_⟩
  · obtain ⟨payload, hform, hdecode, _⟩ := validate_eq_ok_iff.1 hread
    obtain ⟨before, entry, after, hkeys, hbefore, hid, hentry⟩ :=
      ValidatedLongForm.masterPublicKey_eq_ok_iff.1 hkey
    have hop : read.initialState = ⟨before ++ entry :: after⟩ := congrArg Operation.mk hkeys
    rw [hop] at hdecode
    exact ⟨payload, before, entry, after, hform, hdecode, hkeys, hbefore, hid, hentry⟩
  · exact ⟨_, _, validate_ofOperation_masterKey usage key, masterPublicKey_single _ usage key, rfl⟩

/-- Two entries have the name of the master key, and the one for credentials stands first. -/
theorem masterPublicKey_of_validate_repeated_id :
    let key : PublicKey := ⟨_, _, Point.valid_generator⟩
    let op : Operation :=
      ⟨[⟨masterKeyId, .issuing, .ofPublicKey key⟩, ⟨masterKeyId, .master, ⟨"P-256", [1], []⟩⟩]⟩
    ∃ (form : LongForm) (read : ValidatedLongForm), form.validate = .ok read ∧
      read.initialState = op ∧ read.masterPublicKey = .ok key ∧
      ∃ payload before entry after, Operation.decode payload = .ok ⟨before ++ entry :: after⟩ ∧
        form = ⟨(sha256 payload).hex, Base64Url.encode payload⟩ ∧
        (∀ other ∈ before, other.id ≠ masterKeyId) ∧ entry.data.publicKey = .ok key := by
  intro key op
  have hlength : op.encode.length < 2 ^ 64 := by decide +kernel
  have hread : LongForm.validate ⟨op.hash.hex, Base64Url.encode op.encode⟩ = .ok ⟨op.hash, op⟩ :=
    validate_eq_ok_iff.2 ⟨op.encode, rfl, Operation.decode_encode_eq hlength, rfl⟩
  have hkey : ValidatedLongForm.masterPublicKey ⟨op.hash, op⟩ = .ok key :=
    KeyData.publicKey_ofPublicKey key
  obtain ⟨payload, before, entry, after, hform, hdecode, _, hbefore, _, hentry⟩ :=
    masterPublicKey_of_validate.1 _ _ _ hread hkey
  exact ⟨_, _, hread, rfl, hkey, payload, before, entry, after, hdecode, hform, hbefore, hentry⟩

/-- A key for credentials under the name of the master key is given out as the master key. -/
theorem masterPublicKey_issuing_only :
    let key : PublicKey := ⟨_, _, Point.valid_generator⟩
    ∃ (form : LongForm) (read : ValidatedLongForm), form.validate = .ok read ∧
      read.masterPublicKey = .ok key ∧
      read.initialState.keys = [⟨masterKeyId, .issuing, .ofPublicKey key⟩] ∧
      ∀ entry ∈ read.initialState.keys, ¬(entry.id = masterKeyId ∧ entry.usage = .master) := by
  intro key
  refine ⟨_, _, validate_ofOperation_masterKey .issuing key, masterPublicKey_single _ .issuing key,
    rfl, ?_⟩
  rintro entry hentry ⟨_, husage⟩
  rw [List.mem_singleton] at hentry
  rw [hentry] at husage
  cases husage

end LongForm
end DidKeys
