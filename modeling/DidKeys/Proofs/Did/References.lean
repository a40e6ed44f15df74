import DidKeys.Proofs.Did.Projection
import DidKeys.Proofs.Did.SelfCertifying

/-! # References of documents

A document refers to its methods by name, and a name is made of the name of a key, which is any text
that the maker of the identifier likes.  Nothing keeps two keys from having one name, so a reference
is the name of as many methods as there are keys of that name, and all that is sure is that one of
these keys has the right usage (`RefersTo`).  If the name of the key is its own, so is the method,
and the reference is to this key and no other; else even a document that holds may refer to a key
that has another usage (`resolve_repeated_id`). -/

namespace DidKeys.Document

/-- What a reference is to, among the keys of an initial state and their methods, if it was made for
a key with a certain property. -/
structure RefersTo (did : Did) (keys : List OperationKey) (methods : List VerificationMethod)
    (fits : OperationKey → Prop) (ref id : String) : Prop where
  ref_eq : ref = did.value ++ "#" ++ id
  exists_fit : ∃ entry ∈ keys.zip methods, entry.1.id = id ∧ entry.2.id = ref ∧ fits entry.1
  count_eq : (methods.map fun m => m.id).count ref = (keys.map fun key => key.id).count id
  fits_of_count : (keys.map fun key => key.id).count id = 1 →
    ∀ entry ∈ keys.zip methods, entry.2.id = ref → fits entry.1

section references
variable {did : Did} {keys : List OperationKey}

theorem reference_inj {key other : OperationKey} :
    reference did key = reference did other ↔ key.id = other.id :=
  String.append_right_inj _

/-- A name is borne by as many methods as keys. -/
theorem count_reference (keys : List OperationKey) (key : OperationKey) :
    ((keys.map (method did)).map fun m => m.id).count (reference did key) =
      (keys.map fun key => key.id).count key.id := by
  have hinj : Function.Injective fun id => did.value ++ "#" ++ id :=
    fun _ _ => (String.append_right_inj _).1
  have hnames : ((keys.map (method did)).map fun m => m.id) =
      (keys.map fun key => key.id).map fun id => did.value ++ "#" ++ id := by
    rw [List.map_map, List.map_map]
    rfl
  rw [hnames]
  exact List.count_map_of_injective _ _ hinj _

/-- A value that a function takes once is taken at one place. -/
theorem eq_of_count_map_eq_one {α β : Type} [BEq β] [LawfulBEq β] {f : α → β} {l : List α} {b : β}
    (h : (l.map f).count b = 1) {x y : α} (hx : x ∈ l) (hy : y ∈ l) (hfx : f x = b)
    (hfy : f y = b) : x = y := by
  rw [List.count, List.countP_map, List.countP_eq_length_filter, List.length_eq_one_iff] at h
  obtain ⟨z, hz⟩ := h
  have hmem : ∀ w ∈ l, f w = b → w = z := fun w hw hfw => by
    rw [← List.mem_singleton, ← hz, List.mem_filter]
    exact ⟨hw, beq_iff_eq.2 hfw⟩
  rw [hmem x hx hfx, hmem y hy hfy]

theorem mem_zip_method_iff {entry : OperationKey × VerificationMethod} :
    entry ∈ keys.zip (keys.map (method did)) ↔ entry.1 ∈ keys ∧ entry.2 = method did entry.1 := by
  rw [← List.map_prod_left_eq_zip, List.mem_map]
  constructor
  · rintro ⟨key, hkey, rfl⟩
    exact ⟨hkey, rfl⟩
  · rintro ⟨hkey, hmethod⟩
    exact ⟨entry.1, hkey, Prod.ext rfl hmethod.symm⟩

theorem refersTo_of_mem {fits : OperationKey → Prop} {key : OperationKey} (hkey : key ∈ keys)
    (hfits : fits key) :
    RefersTo did keys (keys.map (method did)) fits (reference did key) key.id where
  ref_eq := rfl
  exists_fit := ⟨(key, method did key), mem_zip_method_iff.2 ⟨hkey, rfl⟩, rfl, rfl, hfits⟩
  count_eq := count_reference keys key
  fits_of_count := by
    intro hcount entry hentry href
    obtain ⟨hmem, hmethod⟩ := mem_zip_method_iff.1 hentry
    -- the method has the name of this key, and only one key has it
    have hid : entry.1.id = key.id := by
      rw [hmethod] at href
      exact reference_inj.1 href
    rwa [eq_of_count_map_eq_one hcount hmem hkey hid rfl]

theorem exists_form_of_resolve {doc : Document} (h : resolve did = .ok doc) :
    ∃ form, did.validateLongForm = .ok form ∧ doc = ofValidated did form := by
  rw [resolve] at h
  cases hform : did.validateLongForm with
  | error cause =>
      rw [hform] at h
      cases h
  | ok form =>
      rw [hform] at h
      cases h
      exact ⟨form, rfl, rfl⟩

/-- A reference of a resolved document is the name of a method whose key has the right usage, and of
as many methods as keys have the name of that key; so it is unambiguous if the name of that key is
not repeated. -/
theorem resolve_references {doc : Document} (h : resolve did = .ok doc) :
    ∃ form, did.validateLongForm = .ok form ∧
      let keys := form.initialState.keys
      (∀ ref ∈ doc.authentication, ∃ id,
        RefersTo did keys doc.verificationMethod Authenticates ref id) ∧
      ∀ ref ∈ doc.assertionMethod, ∃ id,
        RefersTo did keys doc.verificationMethod (fun key => key.usage = .issuing) ref id := by
  obtain ⟨form, hform, rfl⟩ := exists_form_of_resolve h
  refine ⟨form, hform, fun ref href => ?_, fun ref href => ?_⟩
  · obtain ⟨key, hkey, rfl⟩ := List.mem_map.1 href
    rw [List.mem_filter] at hkey
    exact ⟨key.id, refersTo_of_mem hkey.1 (authenticates_iff.1 hkey.2)⟩
  · obtain ⟨key, hkey, rfl⟩ := List.mem_map.1 href
    rw [List.mem_filter] at hkey
    exact ⟨key.id, refersTo_of_mem hkey.1 (beq_iff_eq.1 hkey.2)⟩

end references

/-- The references to two keys that have names of their own. -/
theorem resolve_references_two_ids :
    let keys : List OperationKey :=
      [⟨masterKeyId, .master, ⟨curveName, [1], [2]⟩⟩, ⟨"k", .issuing, ⟨"P-256", [], [4]⟩⟩]
    let did := Did.ofOperation ⟨keys⟩
    ∃ doc, resolve did = .ok doc ∧ ∃ form, did.validateLongForm = .ok form ∧
      (∀ ref ∈ doc.authentication, ∃ id,
        RefersTo did form.initialState.keys doc.verificationMethod Authenticates ref id) ∧
      ∀ ref ∈ doc.assertionMethod, ∃ id, RefersTo did form.initialState.keys
        doc.verificationMethod (fun key => key.usage = .issuing) ref id := by
  intro keys did
  have hlength : (Operation.mk keys).encode.length < 2 ^ 64 := by decide +kernel
  have hresolve := Did.resolve_of_validateLongForm (Did.validateLongForm_ofOperation hlength)
  exact ⟨_, hresolve, resolve_references hresolve⟩

/-- Two keys have one name, a master key and one for credentials.  The document holds, and the one
reference for authentication is the name of both methods. -/
theorem resolve_repeated_id :
    let keys : List OperationKey :=
      [⟨"k", .master, ⟨curveName, [1], [2]⟩⟩, ⟨"k", .issuing, ⟨curveName, [3], [4]⟩⟩]
    let did := Did.ofOperation ⟨keys⟩
    ∃ doc, resolve did = .ok doc ∧ doc.validate = .ok () ∧
      did.validateLongForm = .ok ⟨(Operation.mk keys).hash, ⟨keys⟩⟩ ∧
      did.value ++ "#" ++ "k" ∈ doc.authentication ∧
      (doc.verificationMethod.map fun m => m.id).count (did.value ++ "#" ++ "k") = 2 ∧
      ∃ entry ∈ keys.zip doc.verificationMethod, entry.2.id = did.value ++ "#" ++ "k" ∧
        entry.1.usage = .issuing := by
  intro keys did
  have hlength : (Operation.mk keys).encode.length < 2 ^ 64 := by decide +kernel
  have hform : did.validateLongForm = .ok ⟨(Operation.mk keys).hash, ⟨keys⟩⟩ :=
    Did.validateLongForm_ofOperation hlength
  refine ⟨_, Did.resolve_of_validateLongForm hform, ?_, hform, ?_, ?_, ?_⟩
  · rw [validate_ofValidated_eq_ok_iff hform]
    decide
  · exact List.mem_cons_self ..
  · exact count_reference keys ⟨"k", .master, ⟨curveName, [1], [2]⟩⟩
  · exact ⟨_, List.mem_cons_of_mem _ (List.mem_cons_self ..), rfl, rfl⟩

end DidKeys.Document
