import DidKeys.Did.Document
import DidKeys.Proofs.Did.Created

/-! # Documents of long identifiers

The document of an identifier that validates is one of this method, and it holds exactly if each key
of the state is on the curve and one of them authenticates (`validate_ofValidated_eq_ok_iff`).  A
new identifier has such a document (`validate_ofValidated_create`). -/

namespace DidKeys.Document

/-- A document holds exactly if none of the faults is found. -/
theorem validate_eq_ok_iff {doc : Document} :
    doc.validate = .ok () ↔
      Text.dropFront? prismHead.toList doc.id.toList ≠ none ∧ doc.verificationMethod ≠ [] ∧
        doc.authentication ≠ [] ∧ coreContext ∈ doc.context ∧
        (doc.verificationMethod.find? fun m => m.publicKey.crv != curveName) = none := by
  unfold validate
  split
  · next hhead => exact iff_of_false (by rintro ⟨⟩) fun hall => hall.1 hhead
  split
  · next hnil => exact iff_of_false (by rintro ⟨⟩) fun hall => hall.2.1 hnil
  split
  · next hnil => exact iff_of_false (by rintro ⟨⟩) fun hall => hall.2.2.1 hnil
  split
  · next hcontext => exact iff_of_false (by rintro ⟨⟩) fun hall => hcontext hall.2.2.2.1
  · next hhead hmethods hauthentication hcontext =>
    rw [not_not] at hcontext
    cases hfind : doc.verificationMethod.find? fun m => m.publicKey.crv != curveName with
    | none => exact iff_of_true rfl ⟨hhead, hmethods, hauthentication, hcontext, rfl⟩
    | some m => exact iff_of_false (by rintro ⟨⟩) (by rintro ⟨_, _, _, _, ⟨⟩⟩)

/-- An identifier of this method is not taken for a foreign one. -/
theorem dropFront?_ne_none_of_validateLongForm {did : Did} {form : ValidatedLongForm}
    (h : did.validateLongForm = .ok form) :
    Text.dropFront? prismHead.toList did.value.toList ≠ none := by
  obtain ⟨payload, rfl, _, _⟩ := Did.validateLongForm_eq_ok_iff.mp h
  rw [Did.ofPayload, Did.toList_ofParts, Text.dropFront?_append]
  exact Option.some_ne_none _

theorem find?_method_eq_none_iff {did : Did} {keys : List OperationKey} :
    ((keys.map (method did)).find? fun m => m.publicKey.crv != curveName) = none ↔
      ∀ key ∈ keys, key.data.curve = curveName := by
  rw [List.find?_map, Option.map_eq_none_iff, List.find?_eq_none]
  refine forall₂_congr fun key _ => ?_
  show ¬(key.data.curve != curveName) = true ↔ _
  rw [bne_iff_ne, not_not]

theorem authentication_ne_nil_iff {did : Did} {form : ValidatedLongForm} :
    (ofValidated did form).authentication ≠ [] ↔
      ∃ key ∈ form.initialState.keys, authenticates key = true := by
  show (form.initialState.keys.filter authenticates).map (reference did) ≠ [] ↔ _
  rw [Ne, List.map_eq_nil_iff, List.filter_eq_nil_iff]
  push Not
  exact Iff.rfl

/-- A document that names a key has it. -/
theorem verificationMethod_ne_nil {did : Did} {form : ValidatedLongForm}
    (h : (ofValidated did form).authentication ≠ []) :
    (ofValidated did form).verificationMethod ≠ [] := by
  obtain ⟨key, hkey, _⟩ := authentication_ne_nil_iff.mp h
  exact List.ne_nil_of_mem (List.mem_map_of_mem hkey)

/-- The document of an identifier holds exactly if all keys are on the curve and one of them
authenticates. -/
theorem validate_ofValidated_eq_ok_iff {did : Did} {form : ValidatedLongForm}
    (h : did.validateLongForm = .ok form) :
    (ofValidated did form).validate = .ok () ↔
      (∀ key ∈ form.initialState.keys, key.data.curve = curveName) ∧
        ∃ key ∈ form.initialState.keys, authenticates key = true := by
  rw [← authentication_ne_nil_iff, ← find?_method_eq_none_iff, validate_eq_ok_iff]
  constructor
  · rintro ⟨_, _, hauthentication, _, hmethods⟩
    exact ⟨hmethods, hauthentication⟩
  · rintro ⟨hmethods, hauthentication⟩
    exact ⟨dropFront?_ne_none_of_validateLongForm h, verificationMethod_ne_nil hauthentication,
      hauthentication, List.mem_cons_self .., hmethods⟩

/-- The master key of a new identifier authenticates, and all its keys are on the curve. -/
theorem validate_ofValidated_create (master : PublicKey) (issuing : Option PublicKey)
    {form : ValidatedLongForm} (h : (Did.create master issuing).validateLongForm = .ok form) :
    (ofValidated (Did.create master issuing) form).validate = .ok () := by
  rw [validate_ofValidated_eq_ok_iff h]
  rw [Did.validateLongForm_create] at h
  cases h
  constructor
  · intro key hkey
    rcases List.mem_cons.mp hkey with rfl | hissuing
    · rfl
    · obtain ⟨issuingKey, _, rfl⟩ := Option.mem_map.mp (Option.mem_toList.mp hissuing)
      rfl
  · exact ⟨_, List.mem_cons_self .., rfl⟩

end DidKeys.Document
