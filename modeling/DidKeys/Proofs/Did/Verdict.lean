import DidKeys.Proofs.Bytes.Base64
import DidKeys.Proofs.Did.LongForm
import DidKeys.Proofs.Did.Message

/-! # What validation finds

`Did.Verdict did outcome` is the table of validation: one rule for each way it can end, with what
must hold of the text and of the payload in it.  The rules exclude each other, from the form of the
text over the alphabet of the state and its hash to the message inside, and together they cover all
identifiers: an identifier validates to the outcome of its rule and to no other
(`validateLongForm_eq_iff_verdict`).

A payload is read only if the identifier has the digest of that payload: any other reading that
agrees on this one payload gives the same answer (`validateWith_congr`). -/

namespace DidKeys

/-- The digits of a part have values. -/
theorem exists_value?_of_isPartChar {c : Char} (h : isPartChar c = true) :
    ∃ v, Base64Url.value? c = some v := by
  simp only [isPartChar, Bool.or_eq_true, Bool.and_eq_true, decide_eq_true_eq, beq_iff_eq] at h
  rcases h with (((hupper | hlower) | hdecimal) | rfl) | rfl
  · have hrange : 65 ≤ c.toNat ∧ c.toNat ≤ 90 := hupper
    exact ⟨_, if_pos hrange⟩
  · have hrange : 97 ≤ c.toNat ∧ c.toNat ≤ 122 := hlower
    exact ⟨_, (if_neg (by omega)).trans (if_pos hrange)⟩
  · have hrange : 48 ≤ c.toNat ∧ c.toNat ≤ 57 := hdecimal
    exact ⟨_, (if_neg (by omega)).trans ((if_neg (by omega)).trans (if_pos hrange))⟩
  · exact ⟨62, by decide⟩
  · exact ⟨63, by decide⟩

/-- Validation with any reading of payloads in the place of the one of operations. -/
def LongForm.validateWith (read : Bytes → Except OperationError Operation) (form : LongForm) :
    Except DidError ValidatedLongForm :=
  match Base64Url.decode? form.encodedState with
  | none => .error .encodedState
  | some bytes =>
    let actual := sha256 bytes
    if actual.hex = form.stateHash then do
      return ⟨actual, ← (read bytes).mapError .operation⟩
    else .error (.stateHash form.stateHash actual)

namespace Did

/-- Validation of an identifier with any reading of payloads. -/
def validateWith (read : Bytes → Except OperationError Operation) (did : Did) :
    Except DidError ValidatedLongForm :=
  match did.longForm? with
  | some form => form.validateWith read
  | none => .error (.notLongForm did.value)

/-- An identifier is `did:prism:`, the digits of a hash, a colon, and a state of one part. -/
structure IsLong (did : Did) (hash state : String) : Prop where
  value_eq : did.value = "did:prism:" ++ hash ++ ":" ++ state
  length_hash : hash.length = 64
  hash_digits : ∀ c ∈ hash.toList, ('0' ≤ c ∧ c ≤ '9') ∨ ('a' ≤ c ∧ c ≤ 'f')
  state_ne : state ≠ ""
  state_chars : ∀ c ∈ state.toList,
    ('A' ≤ c ∧ c ≤ 'Z') ∨ ('a' ≤ c ∧ c ≤ 'z') ∨ ('0' ≤ c ∧ c ≤ '9') ∨ c = '-' ∨ c = '_'

/-- An identifier and what its validation comes to. -/
inductive Verdict (did : Did) : Except DidError ValidatedLongForm → Prop where
  | notLong (not_long : ∀ hash state, ¬did.IsLong hash state) :
      Verdict did (.error (.notLongForm did.value))
  | encodedState {hash state : String} (long : did.IsLong hash state)
      (not_strict : state.length % 4 = 1 ∨ Base64Url.looseBits state.toList ≠ 0) :
      Verdict did (.error .encodedState)
  | stateHash {hash : String} {payload : Bytes} (long : did.IsLong hash (Base64Url.encode payload))
      (differs : hash ≠ (sha256 payload).hex) :
      Verdict did (.error (.stateHash hash (sha256 payload)))
  | operation {payload : Bytes} {cause : OperationError}
      (long : did.IsLong (sha256 payload).hex (Base64Url.encode payload))
      (verdict : Operation.Verdict payload (.error cause)) :
      Verdict did (.error (.operation cause))
  | ok {payload : Bytes} {op : Operation}
      (long : did.IsLong (sha256 payload).hex (Base64Url.encode payload))
      (verdict : Operation.Verdict payload (.ok op)) : Verdict did (.ok ⟨sha256 payload, op⟩)

section forms
variable {did : Did} {hash state : String}

theorem isStateHash_iff {cs : List Char} :
    isStateHash cs = true ↔
      cs.length = 64 ∧ ∀ c ∈ cs, ('0' ≤ c ∧ c ≤ '9') ∨ ('a' ≤ c ∧ c ≤ 'f') := by
  simp [isStateHash, stateHashLength, isHashDigit]

theorem isPart_iff {cs : List Char} :
    isPart cs = true ↔
      cs ≠ [] ∧ ∀ c ∈ cs, ('A' ≤ c ∧ c ≤ 'Z') ∨ ('a' ≤ c ∧ c ≤ 'z') ∨ ('0' ≤ c ∧ c ≤ '9') ∨
        c = '-' ∨ c = '_' := by
  simp [isPart, isPartChar, or_assoc]

theorem isLong_iff : did.IsLong hash state ↔ did.longForm? = some ⟨hash, state⟩ := by
  have hvalue : did.value = "did:prism:" ++ hash ++ ":" ++ state ↔
      did = ofParts hash (some state) := by
    have happend : "did:prism:" ++ hash ++ ":" ++ state = prismHead ++ (hash ++ ":" ++ state) := by
      simp only [prismHead, String.append_assoc]
    rw [happend]
    cases did
    exact (Did.mk.injEq ..).symm.to_iff
  rw [longForm?_eq_some_iff, format_eq_long_iff, isStateHash_iff, isPart_iff, ← hvalue]
  constructor
  · intro h
    exact ⟨⟨h.length_hash, h.hash_digits⟩, ⟨by simpa using h.state_ne, h.state_chars⟩, h.value_eq⟩
  · rintro ⟨⟨hlength, hdigits⟩, ⟨hne, hchars⟩, hvalue⟩
    exact ⟨hvalue, hlength, hdigits, by simpa using hne, hchars⟩

theorem not_isLong_iff : (∀ hash state, ¬did.IsLong hash state) ↔ did.longForm? = none := by
  rw [Option.eq_none_iff_forall_ne_some]
  constructor
  · exact fun h form hform => h _ _ (isLong_iff.2 hform)
  · exact fun h hash state hlong => h _ (isLong_iff.1 hlong)

/-- The state of a long identifier is refused if it does not spell whole bytes. -/
theorem IsLong.decode?_eq_none_iff (h : did.IsLong hash state) :
    Base64Url.decode? state = none ↔
      state.length % 4 = 1 ∨ Base64Url.looseBits state.toList ≠ 0 := by
  refine Base64Url.decodeChars?_eq_none_iff fun c hc => exists_value?_of_isPartChar ?_
  have hpart := isPart_iff.2 ⟨by simpa using h.state_ne, h.state_chars⟩
  rw [isPart, Bool.and_eq_true, List.all_eq_true] at hpart
  exact hpart.2 c hc

end forms

/-! ### Outcomes -/

theorem verdict_validateLongForm (did : Did) : did.Verdict did.validateLongForm := by
  rw [validateLongForm]
  cases hform : did.longForm? with
  | none => exact .notLong (not_isLong_iff.2 hform)
  | some form =>
      have hlong : did.IsLong form.stateHash form.encodedState := isLong_iff.2 hform
      dsimp only [LongForm.validate]
      cases hdecode : Base64Url.decode? form.encodedState with
      | none => exact .encodedState hlong (hlong.decode?_eq_none_iff.1 hdecode)
      | some payload =>
          rw [← Base64Url.encode_of_decode? hdecode] at hlong
          dsimp only
          split
          · next hhash =>
              rw [← hhash] at hlong
              cases hop : Operation.decode payload with
              | error cause => exact .operation hlong (Operation.decode_eq_iff_verdict.1 hop)
              | ok op => exact .ok hlong (Operation.decode_eq_iff_verdict.1 hop)
          · next hhash => exact .stateHash hlong (Ne.symm hhash)

/-- Validation of a payload: its digest is compared first. -/
theorem IsLong.validateLongForm_encode {did : Did} {hash : String} {payload : Bytes}
    (h : did.IsLong hash (Base64Url.encode payload)) :
    did.validateLongForm =
      if (sha256 payload).hex = hash then
        (Operation.decode payload).mapError .operation >>= fun op => .ok ⟨sha256 payload, op⟩
      else .error (.stateHash hash (sha256 payload)) := by
  rw [validateLongForm, isLong_iff.1 h]
  dsimp only [LongForm.validate]
  rw [Base64Url.decode?_encode]
  rfl

theorem Verdict.validateLongForm {did : Did} {outcome : Except DidError ValidatedLongForm}
    (h : did.Verdict outcome) : did.validateLongForm = outcome := by
  cases h with
  | notLong not_long => rw [Did.validateLongForm, not_isLong_iff.1 not_long]
  | encodedState long not_strict =>
      rw [Did.validateLongForm, isLong_iff.1 long]
      dsimp only [LongForm.validate]
      rw [long.decode?_eq_none_iff.2 not_strict]
  | stateHash long differs => rw [long.validateLongForm_encode, if_neg (Ne.symm differs)]
  | operation long verdict =>
      rw [long.validateLongForm_encode, if_pos rfl, verdict.decode]
      rfl
  | ok long verdict =>
      rw [long.validateLongForm_encode, if_pos rfl, verdict.decode]
      rfl

/-! ### Readings of payloads -/

theorem validateWith_decode (did : Did) :
    did.validateWith Operation.decode = did.validateLongForm := rfl

/-- Two readings that agree on the payload whose digest the identifier has give one answer. -/
theorem validateWith_congr {did : Did} {read other : Bytes → Except OperationError Operation}
    (h : ∀ payload, did.IsLong (sha256 payload).hex (Base64Url.encode payload) →
      read payload = other payload) : did.validateWith read = did.validateWith other := by
  unfold validateWith
  split
  · next form hform =>
      have hlong : did.IsLong form.stateHash form.encodedState := isLong_iff.2 hform
      unfold LongForm.validateWith
      split
      · rfl
      · next payload hdecode =>
          dsimp only
          split
          · next hhash =>
              rw [← hhash, ← Base64Url.encode_of_decode? hdecode] at hlong
              rw [h payload hlong]
          · rfl
  · rfl

/-- Validation ends as the table says, for every identifier and in no other way.  An identifier
whose hash is not the digest of its payload gets the same answer with any reading of payloads, so no
payload is read before its digest was found right. -/
theorem validateLongForm_eq_iff_verdict (did : Did) :
    (∀ outcome, did.validateLongForm = outcome ↔ did.Verdict outcome) ∧
      ∀ read : Bytes → Except OperationError Operation,
        (∀ payload, did.IsLong (sha256 payload).hex (Base64Url.encode payload) →
          read payload = Operation.decode payload) →
        did.validateWith read = did.validateLongForm := by
  refine ⟨fun outcome => ⟨?_, Verdict.validateLongForm⟩, fun read hread => ?_⟩
  · rintro rfl
    exact verdict_validateLongForm did
  · rw [← validateWith_decode]
    exact validateWith_congr hread

/-- The payload is a state with one key, of which only the usage 99 is stated. -/
example :
    validateLongForm ⟨"did:prism:00c6c931a0cd602e50f0dcb14998a85fa833a1008f3a5224df3420b398d7192b" ++
      ":CgYKBBICEGM"⟩ = .error (.operation (.unknownUsage 99)) := by
  decide +kernel

end Did
end DidKeys
