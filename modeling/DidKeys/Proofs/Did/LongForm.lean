import DidKeys.Proofs.Did.OperationRoundTrip
import DidKeys.Proofs.Did.Layout
import DidKeys.Proofs.Except

/-! # Long identifiers and their payloads

A long identifier is made of a payload, which it carries beside the digest of it.  It validates
exactly if it is made of one that holds an operation (`validateLongForm_eq_ok_iff`), and then its
text, its digest and its state all come from that payload. -/

namespace DidKeys

/-- Nothing is no operation. -/
theorem Operation.ne_nil_of_decode {payload : Bytes} {op : Operation}
    (h : decode payload = .ok op) : payload ≠ [] := by
  rintro rfl
  have hnil : decode [] = .error .notCreate := by
    rw [decode, Wire.fields?, if_pos rfl]
    rfl
  rw [hnil] at h
  cases h

namespace Did

/-- The long identifier with a payload, which need not hold an operation. -/
def ofPayload (payload : Bytes) : Did :=
  ofParts (sha256 payload).hex (some (Base64Url.encode payload))

/-- The payload of a long identifier, which need not have the right digest. -/
def payload? (did : Did) : Option Bytes :=
  did.longForm?.bind fun form => Base64Url.decode? form.encodedState

section ofPayload
variable {payload : Bytes}

theorem format_ofPayload (h : payload ≠ []) :
    (ofPayload payload).format = .long ⟨(sha256 payload).hex, Base64Url.encode payload⟩ :=
  format_eq_long_iff.2 ⟨isStateHash_hex _, isPart_encode h, rfl⟩

theorem longForm?_ofPayload (h : payload ≠ []) :
    (ofPayload payload).longForm? = some ⟨(sha256 payload).hex, Base64Url.encode payload⟩ :=
  longForm?_eq_some_iff.2 (format_ofPayload h)

theorem payload?_ofPayload (h : payload ≠ []) : (ofPayload payload).payload? = some payload := by
  rw [payload?, longForm?_ofPayload h, Option.bind_some, Base64Url.decode?_encode]

theorem isLongForm_ofPayload (h : payload ≠ []) : (ofPayload payload).isLongForm = true := by
  rw [isLongForm, format_ofPayload h]

theorem canonicalSuffix?_ofPayload (h : payload ≠ []) :
    (ofPayload payload).canonicalSuffix? = some (sha256 payload).hex := by
  rw [canonicalSuffix?, format_ofPayload h]

theorem canonical?_ofPayload (h : payload ≠ []) :
    (ofPayload payload).canonical? = some (ofHash (sha256 payload)) := by
  rw [canonical?, canonicalSuffix?_ofPayload h]
  rfl

theorem parse_ofPayload (h : payload ≠ []) :
    parse (ofPayload payload).value = .ok (ofPayload payload) :=
  parse_of_format (format_ofPayload h)

end ofPayload
end Did

/-! ### Validation -/

/-- A long form validates exactly if it is the digest and the digits of a payload that holds an
operation. -/
theorem LongForm.validate_eq_ok_iff {form : LongForm} {read : ValidatedLongForm} :
    form.validate = .ok read ↔
      ∃ payload, form = ⟨(sha256 payload).hex, Base64Url.encode payload⟩ ∧
        Operation.decode payload = .ok read.initialState ∧ read.stateHash = sha256 payload := by
  constructor
  · intro h
    unfold validate at h
    split at h
    · cases h
    · next payload hdigits =>
      dsimp only at h
      split at h
      · next hhash =>
        obtain ⟨op, hdecode, hread⟩ := bind_eq_ok_iff.1 h
        cases hread
        refine ⟨payload, ?_, mapError_eq_ok_iff.1 hdecode, rfl⟩
        rw [hhash, Base64Url.encode_of_decode? hdigits]
      · cases h
  · rintro ⟨payload, rfl, hdecode, hhash⟩
    have hread : read = ⟨sha256 payload, read.initialState⟩ := by rw [← hhash]
    rw [hread, validate, Base64Url.decode?_encode]
    dsimp only
    rw [if_pos rfl, hdecode]
    rfl

namespace Did

/-- An identifier validates exactly if it is the long one of a payload that holds an operation. -/
theorem validateLongForm_eq_ok_iff {did : Did} {read : ValidatedLongForm} :
    did.validateLongForm = .ok read ↔
      ∃ payload, did = ofPayload payload ∧ Operation.decode payload = .ok read.initialState ∧
        read.stateHash = sha256 payload := by
  constructor
  · intro h
    unfold validateLongForm at h
    split at h
    · next form hform =>
      obtain ⟨payload, rfl, hdecode, hhash⟩ := LongForm.validate_eq_ok_iff.1 h
      obtain ⟨_, _, hdid⟩ := format_eq_long_iff.1 (longForm?_eq_some_iff.1 hform)
      exact ⟨payload, hdid, hdecode, hhash⟩
    · cases h
  · rintro ⟨payload, rfl, hdecode, hhash⟩
    rw [validateLongForm, longForm?_ofPayload (Operation.ne_nil_of_decode hdecode)]
    exact LongForm.validate_eq_ok_iff.2 ⟨payload, rfl, hdecode, hhash⟩

end Did
end DidKeys
