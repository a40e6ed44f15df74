import DidKeys.Did.Create
import DidKeys.Proofs.Did.LongForm
import DidKeys.Proofs.Key.Encoding

/-! # Identifiers of operations validate

The long identifier of an operation validates, and what is read from it is the operation and its
hash (`validateLongForm_ofOperation`).  An operation of one or two keys is never too long for that,
so a new identifier gives back the keys that it was made of (`validateLongForm_create`,
`masterPublicKey_create`), and a key makes the same identifier in each of its encodings.
`ofOperation_reads_back` says all of this. -/

namespace DidKeys

/-! ### Lengths of new operations -/

theorem length_fieldUnlessEmpty_le (tag : Nat) (content : Bytes) :
    (fieldUnlessEmpty tag content).length ≤
      tag / 16 + content.length / 128 + content.length + 2 := by
  unfold fieldUnlessEmpty
  split
  · simp
  · exact Wire.length_writeDelimited_le tag content

theorem length_fieldUnlessZero_le (tag value : Nat) :
    (fieldUnlessZero tag value).length ≤ tag / 16 + value / 128 + 2 := by
  unfold fieldUnlessZero
  split
  · simp
  · exact Wire.length_writeVarint_le tag value

theorem KeyData.length_encode_ofPublicKey_le (key : PublicKey) :
    (ofPublicKey key).encode.length ≤ 79 := by
  have hname : (Bytes.ofString curveName).length = 9 := rfl
  have hcurve := length_fieldUnlessEmpty_le 1 (Bytes.ofString curveName)
  have hx := length_fieldUnlessEmpty_le 2 key.xBytes
  have hy := length_fieldUnlessEmpty_le 3 key.yBytes
  rw [PublicKey.length_xBytes] at hx
  rw [PublicKey.length_yBytes] at hy
  rw [encode, ofPublicKey, List.length_append, List.length_append]
  dsimp only [PublicKey.coordinateLength] at hx hy ⊢
  omega

theorem OperationKey.length_encode_ofPublicKey_le {id : String}
    (hid : (Bytes.ofString id).length ≤ 8) (usage : KeyUsage) (key : PublicKey) :
    (OperationKey.mk id usage (.ofPublicKey key)).encode.length ≤ 93 := by
  have hname := length_fieldUnlessEmpty_le 1 (Bytes.ofString id)
  have husage := length_fieldUnlessZero_le 2 usage.code
  have hcode : usage.code ≤ 5 := by cases usage <;> decide
  have hinner := KeyData.length_encode_ofPublicKey_le key
  have hdata := Wire.length_writeDelimited_le 8 (KeyData.ofPublicKey key).encode
  rw [encode, List.length_append, List.length_append]
  dsimp only
  omega

namespace Operation

theorem length_encode_le (op : Operation) :
    op.encode.length ≤ 2 * op.encodeState.length + 5 := by
  have hinner := Wire.length_writeDelimited_le 1 op.encodeState
  have houter := Wire.length_writeDelimited_le 1 (Wire.writeDelimited 1 op.encodeState)
  rw [encode]
  omega

theorem encode_ne_nil {op : Operation} (h : op.encode.length < 2 ^ 64) : op.encode ≠ [] :=
  ne_nil_of_decode (decode_encode_eq h)

theorem length_encodeState_create_le (master : PublicKey) (issuing : Option PublicKey) :
    (create master issuing).encodeState.length ≤ 190 := by
  have hmaster := Wire.length_writeDelimited_le 2
    (OperationKey.mk masterKeyId .master (.ofPublicKey master)).encode
  have hmasterKey := OperationKey.length_encode_ofPublicKey_le
    (show (Bytes.ofString masterKeyId).length ≤ 8 by decide) .master master
  cases issuing with
  | none =>
      simp only [encodeState, create, Option.map_none, Option.toList_none, List.flatMap_cons,
        List.flatMap_nil, List.append_nil]
      omega
  | some key =>
      have hissuing := Wire.length_writeDelimited_le 2
        (OperationKey.mk issuingKeyId .issuing (.ofPublicKey key)).encode
      have hissuingKey := OperationKey.length_encode_ofPublicKey_le
        (show (Bytes.ofString issuingKeyId).length ≤ 8 by decide) .issuing key
      simp only [encodeState, create, Option.map_some, Option.toList_some, List.flatMap_cons,
        List.flatMap_nil, List.append_nil, List.length_append]
      omega

theorem length_encode_create_lt (master : PublicKey) (issuing : Option PublicKey) :
    (create master issuing).encode.length < 2 ^ 64 := by
  have houter := length_encode_le (create master issuing)
  have hstate := length_encodeState_create_le master issuing
  omega

end Operation

/-! ### What is read back -/

namespace KeyData

/-- A stated key is the key that was stated. -/
theorem publicKey_ofPublicKey (key : PublicKey) : (ofPublicKey key).publicKey = .ok key := by
  have hcurve : (ofPublicKey key).curve = curveName := rfl
  rw [publicKey, if_pos hcurve]
  exact mapError_eq_ok_iff.2 key.ofCoordinates_bytes

end KeyData

namespace Operation

theorem key?_master_create (master : PublicKey) (issuing : Option PublicKey) :
    (create master issuing).key? masterKeyId =
      some ⟨masterKeyId, .master, .ofPublicKey master⟩ := by
  rw [key?, create, List.find?_cons_of_pos]
  exact beq_self_eq_true masterKeyId

theorem key?_issuing_create (master : PublicKey) (issuing : Option PublicKey) :
    (create master issuing).key? issuingKeyId =
      issuing.map fun key => ⟨issuingKeyId, .issuing, .ofPublicKey key⟩ := by
  cases issuing <;> rfl

theorem keysWithUsage_issuing_create (master : PublicKey) (issuing : Option PublicKey) :
    (create master issuing).keysWithUsage .issuing =
      (issuing.map fun key => OperationKey.mk issuingKeyId .issuing (.ofPublicKey key)).toList := by
  cases issuing <;> rfl

end Operation

namespace Did

theorem validateLongForm_ofOperation {op : Operation} (h : op.encode.length < 2 ^ 64) :
    (ofOperation op).validateLongForm = .ok ⟨op.hash, op⟩ :=
  validateLongForm_eq_ok_iff.2 ⟨op.encode, rfl, Operation.decode_encode_eq h, rfl⟩

theorem validateLongForm_create (master : PublicKey) (issuing : Option PublicKey) :
    (create master issuing).validateLongForm =
      .ok ⟨(Operation.create master issuing).hash, .create master issuing⟩ :=
  validateLongForm_ofOperation (Operation.length_encode_create_lt master issuing)

theorem canonical?_create (master : PublicKey) (issuing : Option PublicKey) :
    (create master issuing).canonical? = some (ofHash (Operation.create master issuing).hash) :=
  canonical?_ofPayload (Operation.encode_ne_nil (Operation.length_encode_create_lt master issuing))

theorem masterPublicKey_create (master : PublicKey) (issuing : Option PublicKey) (hash : Digest) :
    ValidatedLongForm.masterPublicKey ⟨hash, .create master issuing⟩ = .ok master := by
  rw [ValidatedLongForm.masterPublicKey, Operation.key?_master_create]
  exact KeyData.publicKey_ofPublicKey master

theorem createFromEncoded_of_isEncoding {master : PublicKey} {encoded : Bytes}
    (h : master.IsEncoding encoded) : createFromEncoded encoded = .ok (create master none) := by
  rw [createFromEncoded, PublicKey.ofEncoded_eq_ok_iff.2 h]

/-- The long identifier of an operation is an identifier that validates, and what is read from it is
what it was made of: the keys of the operation in order, its hash, and its short form.  One that is
made of a master key and maybe a key for credentials gives exactly these keys back, and every
encoding that is read as a master key makes the same identifier as the key. -/
theorem ofOperation_reads_back :
    (∀ op : Operation, op.encode.length < 2 ^ 64 →
      parse (ofOperation op).value = .ok (ofOperation op) ∧
      (ofOperation op).isLongForm = true ∧
      ∃ form, (ofOperation op).validateLongForm = .ok form ∧
        form.initialState.keys = op.keys ∧ form.stateHash = op.hash ∧
        (ofOperation op).canonical? = some form.canonical) ∧
    (∀ (master : PublicKey) (issuing : Option PublicKey),
      ∃ form, (create master issuing).validateLongForm = .ok form ∧
        form.masterPublicKey = .ok master ∧
        (form.initialState.key? issuingKeyId).map (fun entry => entry.data.publicKey) =
          issuing.map .ok ∧
        (form.initialState.keysWithUsage .issuing).map (fun entry => entry.data.publicKey) =
          (issuing.map .ok).toList) ∧
    (∀ (master : PublicKey) (encoded : Bytes),
      (PublicKey.ofEncoded encoded = .ok master ↔ master.IsEncoding encoded) ∧
      (master.IsEncoding encoded → createFromEncoded encoded = .ok (create master none))) := by
  refine ⟨fun op h => ?_, fun master issuing => ?_, fun master encoded => ?_⟩
  · have hne := Operation.encode_ne_nil h
    exact ⟨parse_ofPayload hne, isLongForm_ofPayload hne, _, validateLongForm_ofOperation h, rfl,
      rfl, canonical?_ofPayload hne⟩
  · refine ⟨_, validateLongForm_create master issuing, masterPublicKey_create _ _ _, ?_, ?_⟩
    · rw [Operation.key?_issuing_create]
      cases issuing with
      | none => rfl
      | some key => exact congrArg some (KeyData.publicKey_ofPublicKey key)
    · rw [Operation.keysWithUsage_issuing_create]
      cases issuing with
      | none => rfl
      | some key => exact congrArg (fun outcome => [outcome]) (KeyData.publicKey_ofPublicKey key)
  · exact ⟨PublicKey.ofEncoded_eq_ok_iff, createFromEncoded_of_isEncoding⟩

/-- An operation with a key that has nothing to write, and the compressed form of the generator. -/
theorem ofOperation_reads_back_generator :
    let op : Operation :=
      ⟨[⟨"", .unknown, ⟨"", [], []⟩⟩, ⟨"ключ", .revocation, ⟨"P-256", [0], []⟩⟩]⟩
    op.encode.length < 2 ^ 64 ∧
      (∃ form, (ofOperation op).validateLongForm = .ok form ∧ form.initialState.keys = op.keys) ∧
      ∃ master : PublicKey, master.point = .generator ∧ master.IsEncoding master.compressed ∧
        createFromEncoded master.compressed = .ok (create master none) := by
  intro op
  have hlength : op.encode.length < 2 ^ 64 := by decide +kernel
  obtain ⟨_, _, form, hform, hkeys, _⟩ := ofOperation_reads_back.1 op hlength
  let master : PublicKey := ⟨_, _, Point.valid_generator⟩
  have hencoding : master.IsEncoding master.compressed := .compressed
  exact ⟨hlength, ⟨form, hform, hkeys⟩, master, rfl, hencoding,
    (ofOperation_reads_back.2.2 master master.compressed).2 hencoding⟩

end Did
end DidKeys
