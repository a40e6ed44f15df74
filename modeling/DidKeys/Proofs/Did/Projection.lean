import DidKeys.Proofs.Did.Document
import Mathlib.Data.List.Forall2

/-! # Documents show the initial state

The document of an identifier has one method for each key of the initial state, in the order of the
keys, and a method says of its key all that can be computed with (`Projects`).  The two lists of
references pick from the names of these methods by the usages of the keys.  Two questions about the
keys decide whether the document holds, and `KeysVerdict` is the table of the answers.
`ofValidated_projects` has all of this. -/

namespace DidKeys.Document

/-- A method of the document of an identifier says what the initial state says of a key. -/
structure Projects (did : Did) (key : OperationKey) (m : VerificationMethod) : Prop where
  id_eq : m.id = did.value ++ "#" ++ key.id
  controller_eq : m.controller = did.value
  curve_eq : m.publicKey.crv = key.data.curve
  x_read : Base64Url.decode? m.publicKey.x = some key.data.x
  y_read : Base64Url.decode? m.publicKey.y = some key.data.y
  same_key : m.publicKey.crv = curveName → ∀ x y : Bytes,
    Base64Url.decode? m.publicKey.x = some x → Base64Url.decode? m.publicKey.y = some y →
      ∀ point, PublicKey.ofCoordinates x y = .ok point ↔ key.data.publicKey = .ok point

/-- A master key authenticates, and so does a key for authentication. -/
def Authenticates (key : OperationKey) : Prop :=
  key.usage = .master ∨ key.usage = .authentication

instance : DecidablePred Authenticates := fun key =>
  inferInstanceAs (Decidable (key.usage = .master ∨ key.usage = .authentication))

/-- The keys of an initial state, and what judging the document of an identifier with these keys
comes to. -/
inductive KeysVerdict (did : Did) (keys : List OperationKey) : Except DocumentError Unit → Prop where
  | noMethod (no_key : keys = []) : KeysVerdict did keys (.error .noMethod)
  | noAuthentication (some_key : keys ≠ []) (none_authenticates : ∀ key ∈ keys, ¬Authenticates key) :
      KeysVerdict did keys (.error .noAuthentication)
  | foreignCurve {before after : List OperationKey} {key : OperationKey}
      (authenticates : ∃ key ∈ keys, Authenticates key) (keys_eq : keys = before ++ key :: after)
      (before_on : ∀ other ∈ before, other.data.curve = curveName)
      (key_off : key.data.curve ≠ curveName) :
      KeysVerdict did keys (.error (.foreignCurve (did.value ++ "#" ++ key.id)))
  | ok (authenticates : ∃ key ∈ keys, Authenticates key)
      (all_on : ∀ key ∈ keys, key.data.curve = curveName) : KeysVerdict did keys (.ok ())

section methods
variable (did : Did) (keys : List OperationKey)

theorem authenticates_iff {key : OperationKey} : authenticates key = true ↔ Authenticates key := by
  rw [authenticates, Bool.or_eq_true, beq_iff_eq, beq_iff_eq, Authenticates]

theorem decide_authenticates (key : OperationKey) :
    decide (Authenticates key) = authenticates key :=
  Bool.eq_iff_iff.2 (decide_eq_true_iff.trans authenticates_iff.symm)

theorem filter_authenticates_eq_nil_iff :
    keys.filter authenticates = [] ↔ ∀ key ∈ keys, ¬Authenticates key := by
  simp only [List.filter_eq_nil_iff, authenticates_iff]

theorem filter_authenticates_ne_nil_iff :
    keys.filter authenticates ≠ [] ↔ ∃ key ∈ keys, Authenticates key := by
  rw [Ne, filter_authenticates_eq_nil_iff]
  push Not
  exact Iff.rfl

theorem find?_foreign_eq_none_iff :
    (keys.find? fun key => key.data.curve != curveName) = none ↔
      ∀ key ∈ keys, key.data.curve = curveName := by
  simp only [List.find?_eq_none, bne_iff_ne, not_not]

/-- The key on another curve that is found is the first. -/
theorem find?_foreign_eq_some_iff {key : OperationKey} :
    (keys.find? fun key => key.data.curve != curveName) = some key ↔
      ∃ before after, keys = before ++ key :: after ∧
        (∀ other ∈ before, other.data.curve = curveName) ∧ key.data.curve ≠ curveName := by
  rw [List.find?_eq_some_iff_append, bne_iff_ne]
  simp only [Bool.not_eq_true', bne_eq_false_iff_eq]
  constructor
  · rintro ⟨hoff, before, after, hkeys, hbefore⟩
    exact ⟨before, after, hkeys, hbefore, hoff⟩
  · rintro ⟨before, after, hkeys, hbefore, hoff⟩
    exact ⟨hoff, before, after, hkeys, hbefore⟩

theorem projects_method (key : OperationKey) : Projects did key (method did key) where
  id_eq := rfl
  controller_eq := rfl
  curve_eq := rfl
  x_read := Base64Url.decode?_encode _
  y_read := Base64Url.decode?_encode _
  same_key := by
    intro hcurve x y hx hy point
    obtain rfl : key.data.x = x := Option.some.inj ((Base64Url.decode?_encode _).symm.trans hx)
    obtain rfl : key.data.y = y := Option.some.inj ((Base64Url.decode?_encode _).symm.trans hy)
    have hon : key.data.curve = curveName := hcurve
    rw [KeyData.publicKey, if_pos hon, mapError_eq_ok_iff]

theorem forall₂_projects : List.Forall₂ (Projects did) keys (keys.map (method did)) := by
  rw [List.forall₂_map_right_iff, List.forall₂_same]
  exact fun key _ => projects_method did key

/-- The names of some keys are the names of their methods. -/
theorem map_reference_filter (picks : OperationKey → Bool) :
    (keys.filter picks).map (reference did) =
      ((keys.zip (keys.map (method did))).filter fun entry => picks entry.1).map
        fun entry => entry.2.id := by
  rw [← List.map_prod_left_eq_zip, List.filter_map, List.map_map]
  rfl

end methods

section outcomes
variable {did : Did} {form : ValidatedLongForm}

/-- Of the five checks of a document, three are left if it is the one of an identifier, and they can
be made on the keys. -/
theorem validate_ofValidated_eq (h : did.validateLongForm = .ok form) :
    (ofValidated did form).validate =
      if form.initialState.keys = [] then .error .noMethod
      else if form.initialState.keys.filter authenticates = [] then .error .noAuthentication
      else
        match form.initialState.keys.find? fun key => key.data.curve != curveName with
        | some key => .error (.foreignCurve (reference did key))
        | none => .ok () := by
  have hhead : Text.dropFront? prismHead.toList (ofValidated did form).id.toList ≠ none :=
    dropFront?_ne_none_of_validateLongForm h
  have hcontext : ¬coreContext ∉ (ofValidated did form).context :=
    not_not_intro (List.mem_cons_self ..)
  have hfind : ((ofValidated did form).verificationMethod.find? fun m =>
      m.publicKey.crv != curveName) =
        (form.initialState.keys.find? fun key => key.data.curve != curveName).map (method did) :=
    List.find?_map ..
  rw [validate, if_neg hhead, if_neg hcontext, hfind]
  simp only [ofValidated, List.map_eq_nil_iff]
  cases form.initialState.keys.find? fun key => key.data.curve != curveName with
  | none => rfl
  | some key => rfl

theorem keysVerdict_validate (h : did.validateLongForm = .ok form) :
    KeysVerdict did form.initialState.keys (ofValidated did form).validate := by
  rw [validate_ofValidated_eq h]
  split
  · next hnil => exact .noMethod hnil
  split
  · next hcons hnone =>
    exact .noAuthentication hcons ((filter_authenticates_eq_nil_iff _).1 hnone)
  · next hsome =>
    have hauthenticates := (filter_authenticates_ne_nil_iff _).1 hsome
    split
    · next key hfind =>
      obtain ⟨before, after, hkeys, hbefore, hoff⟩ := (find?_foreign_eq_some_iff _).1 hfind
      exact .foreignCurve hauthenticates hkeys hbefore hoff
    · next hfind => exact .ok hauthenticates ((find?_foreign_eq_none_iff _).1 hfind)

theorem KeysVerdict.validate {outcome : Except DocumentError Unit}
    (h : did.validateLongForm = .ok form)
    (verdict : KeysVerdict did form.initialState.keys outcome) :
    (ofValidated did form).validate = outcome := by
  rw [validate_ofValidated_eq h]
  -- where a key authenticates, neither of the first two faults is found
  have hne : (∃ key ∈ form.initialState.keys, Authenticates key) →
      form.initialState.keys ≠ [] := by
    rintro ⟨key, hkey, _⟩
    exact List.ne_nil_of_mem hkey
  cases verdict with
  | noMethod no_key => rw [if_pos no_key]
  | noAuthentication some_key none_authenticates =>
      rw [if_neg some_key, if_pos ((filter_authenticates_eq_nil_iff _).2 none_authenticates)]
  | foreignCurve authenticates keys_eq before_on key_off =>
      rw [if_neg (hne authenticates), if_neg ((filter_authenticates_ne_nil_iff _).2 authenticates),
        (find?_foreign_eq_some_iff _).2 ⟨_, _, keys_eq, before_on, key_off⟩]
      rfl
  | ok authenticates all_on =>
      rw [if_neg (hne authenticates), if_neg ((filter_authenticates_ne_nil_iff _).2 authenticates),
        (find?_foreign_eq_none_iff _).2 all_on]

/-- The document of an identifier shows its initial state: the methods are the keys in order, the
references are the names of the methods with the right usages in order, and the document holds if
and only if all keys are on the curve and one of them authenticates; otherwise the table of faults
says which fault is found. -/
theorem ofValidated_projects (h : did.validateLongForm = .ok form) :
    let keys := form.initialState.keys
    let doc := ofValidated did form
    List.Forall₂ (Projects did) keys doc.verificationMethod ∧
      doc.authentication =
        ((keys.zip doc.verificationMethod).filter fun entry => Authenticates entry.1).map
          (fun entry => entry.2.id) ∧
      doc.assertionMethod =
        ((keys.zip doc.verificationMethod).filter fun entry => entry.1.usage = .issuing).map
          (fun entry => entry.2.id) ∧
      (doc.validate = .ok () ↔
        (∀ key ∈ keys, key.data.curve = curveName) ∧ ∃ key ∈ keys, Authenticates key) ∧
      ∀ outcome, doc.validate = outcome ↔ KeysVerdict did keys outcome := by
  intro keys doc
  refine ⟨forall₂_projects did keys, ?_, ?_, ?_, fun outcome => ⟨?_, KeysVerdict.validate h⟩⟩
  · simp only [decide_authenticates]
    exact map_reference_filter did keys authenticates
  · exact map_reference_filter did keys issues
  · simp only [← authenticates_iff]
    exact validate_ofValidated_eq_ok_iff h
  · rintro rfl
    exact keysVerdict_validate h

end outcomes

/-- Two keys of one name, of which the one on another curve stands first. -/
theorem ofValidated_projects_repeated_id :
    let keys : List OperationKey :=
      [⟨"k", .issuing, ⟨"P-256", [0], []⟩⟩, ⟨"k", .master, ⟨curveName, [7], [1, 2]⟩⟩]
    let did := Did.ofOperation ⟨keys⟩
    ∃ form, did.validateLongForm = .ok form ∧ form.initialState.keys = keys ∧
      List.Forall₂ (Projects did) keys (ofValidated did form).verificationMethod ∧
      (ofValidated did form).validate = .error (.foreignCurve (did.value ++ "#" ++ "k")) := by
  intro keys did
  have hlength : (Operation.mk keys).encode.length < 2 ^ 64 := by decide +kernel
  have hform := Did.validateLongForm_ofOperation hlength
  obtain ⟨hmethods, _, _, _, houtcome⟩ := ofValidated_projects hform
  have hkeys : keys = [] ++ ⟨"k", .issuing, ⟨"P-256", [0], []⟩⟩ ::
      [⟨"k", .master, ⟨curveName, [7], [1, 2]⟩⟩] := rfl
  have hauthenticates : ∃ key ∈ keys, Authenticates key := by decide
  have hoff : "P-256" ≠ curveName := by decide
  have hvalidate := (houtcome _).2
    (.foreignCurve hauthenticates hkeys (List.forall_mem_nil _) hoff)
  exact ⟨_, hform, rfl, hmethods, hvalidate⟩

end DidKeys.Document
