import DidKeys.Did.Basic

/-! # The layout of identifiers

A short identifier is `did:prism:` and a state hash (`Did.format_eq_canonical_iff`).  A long one has
a colon and a part behind that, and is cut again where it was put together
(`Did.format_eq_long_iff`).  The digits of a digest are a state hash, and the digits of a byte
string are a part unless it is empty, so neither holds a colon. -/

namespace DidKeys

/-! ### Characters of the parts -/

theorem isPartChar_of_isHashDigit {c : Char} (h : isHashDigit c = true) : isPartChar c = true := by
  simp only [isHashDigit, isPartChar, Bool.or_eq_true, Bool.and_eq_true, decide_eq_true_eq] at h ⊢
  rcases h with hdecimal | ⟨hlow, hhigh⟩
  · exact .inl (.inl (.inr hdecimal))
  · exact .inl (.inl (.inl (.inr ⟨hlow, Char.le_trans hhigh (by decide)⟩)))

/-- A part that is put before a colon ends there. -/
theorem colon_not_mem_of_all {cs : List Char} (h : cs.all isPartChar = true) : ':' ∉ cs := by
  intro hmem
  have hcolon := List.all_eq_true.1 h ':' hmem
  exact absurd hcolon (by decide)

theorem all_isPartChar_of_isStateHash {cs : List Char} (h : isStateHash cs = true) :
    cs.all isPartChar = true := by
  rw [isStateHash, Bool.and_eq_true] at h
  refine List.all_eq_true.2 fun c hc => ?_
  exact isPartChar_of_isHashDigit (List.all_eq_true.1 h.2 c hc)

theorem isPart_of_isStateHash {cs : List Char} (h : isStateHash cs = true) : isPart cs = true := by
  have hall := all_isPartChar_of_isStateHash h
  rw [isPart, hall, Bool.and_true, Bool.not_eq_true', List.isEmpty_eq_false_iff]
  rintro rfl
  exact absurd h (by decide)

theorem isHashDigit_digit : ∀ v : UInt8, isHashDigit (Char.ofNat (Hex.digit v).toNat) = true :=
  Hex.byte_cases (by decide +kernel)

theorem isStateHash_hex (d : Digest) : isStateHash d.hex.toList = true := by
  rw [Digest.hex, Hex.encode, String.toList_ofList, isStateHash, Bool.and_eq_true]
  constructor
  · rw [List.length_map, Hex.length_encodeOctets, d.length_bytes]
    rfl
  · rw [List.all_map, Hex.encodeOctets, List.all_flatMap]
    refine List.all_eq_true.2 fun b _ => ?_
    simp [isHashDigit_digit]

theorem isPartChar_digit {v : Nat} (h : v < 64) : isPartChar (Base64Url.digit v) = true := by
  have hall : ∀ w : Fin 64, isPartChar (Base64Url.digit w.val) = true := by decide
  exact hall ⟨v, h⟩

theorem all_isPartChar_encodeChars (bytes : Bytes) :
    (Base64Url.encodeChars bytes).all isPartChar = true := by
  fun_induction Base64Url.encodeChars bytes with
  | case1 => rfl
  | case2 a =>
      have ha := a.toNat_lt
      simp only [List.all_cons, List.all_nil, Bool.and_true]
      rw [isPartChar_digit (by omega), isPartChar_digit (by omega)]
      rfl
  | case3 a b =>
      have ha := a.toNat_lt
      have hb := b.toNat_lt
      simp only [List.all_cons, List.all_nil, Bool.and_true]
      rw [isPartChar_digit (by omega), isPartChar_digit (by omega), isPartChar_digit (by omega)]
      rfl
  | case4 a b c rest ih =>
      have ha := a.toNat_lt
      have hb := b.toNat_lt
      have hc := c.toNat_lt
      simp only [List.all_cons]
      rw [isPartChar_digit (by omega), isPartChar_digit (by omega), isPartChar_digit (by omega),
        isPartChar_digit (by omega), ih]
      rfl

theorem isPart_encode {bytes : Bytes} (h : bytes ≠ []) :
    isPart (Base64Url.encode bytes).toList = true := by
  rw [Base64Url.encode, String.toList_ofList, isPart, all_isPartChar_encodeChars, Bool.and_true,
    Bool.not_eq_true', List.isEmpty_eq_false_iff]
  intro hnil
  have hback := Base64Url.decodeChars?_encodeChars bytes
  rw [hnil] at hback
  cases hback
  exact h rfl

namespace Did

/-! ### Cutting and putting together -/

theorem toList_ofParts (hash state : String) :
    (ofParts hash (some state)).value.toList =
      prismHead.toList ++ (hash.toList ++ ':' :: state.toList) := by
  show (prismHead ++ (hash ++ ":" ++ state)).toList = _
  rw [String.toList_append, String.toList_append, String.toList_append, List.append_assoc]
  rfl

theorem formatOf_eq_long_iff {rest : List Char} {form : LongForm} :
    formatOf rest = .long form ↔
      isStateHash form.stateHash.toList = true ∧ isPart form.encodedState.toList = true ∧
        rest = form.stateHash.toList ++ ':' :: form.encodedState.toList := by
  constructor
  · intro h
    unfold formatOf at h
    split at h
    · split at h <;> cases h
    · next hash state hcut =>
      split at h
      · next hparts =>
        cases h
        rw [Bool.and_eq_true] at hparts
        rw [String.toList_ofList, String.toList_ofList]
        exact ⟨hparts.1, hparts.2, Text.eq_append_of_splitFirst? hcut⟩
      · cases h
  · rintro ⟨hhash, hstate, rfl⟩
    have hcut := Text.splitFirst?_append_cons
      (colon_not_mem_of_all (all_isPartChar_of_isStateHash hhash)) form.encodedState.toList
    simp only [formatOf, hcut, hhash, hstate, String.ofList_toList, Bool.and_self, if_true]

/-- An identifier has the long form with some parts exactly if it is put together of them. -/
theorem format_eq_long_iff {did : Did} {form : LongForm} :
    did.format = .long form ↔
      isStateHash form.stateHash.toList = true ∧ isPart form.encodedState.toList = true ∧
        did = ofParts form.stateHash (some form.encodedState) := by
  constructor
  · intro h
    unfold format at h
    split at h
    · next rest hfront =>
      obtain ⟨hhash, hstate, rfl⟩ := formatOf_eq_long_iff.1 h
      have hvalue := Text.eq_append_of_dropFront? hfront
      rw [← toList_ofParts] at hvalue
      refine ⟨hhash, hstate, ?_⟩
      cases did
      exact congrArg Did.mk (String.toList_injective hvalue)
    · cases h
  · rintro ⟨hhash, hstate, rfl⟩
    rw [format, toList_ofParts, Text.dropFront?_append]
    exact formatOf_eq_long_iff.2 ⟨hhash, hstate, rfl⟩

theorem longForm?_eq_some_iff {did : Did} {form : LongForm} :
    did.longForm? = some form ↔ did.format = .long form := by
  unfold longForm?
  cases did.format with
  | canonical suffix => exact iff_of_false (fun h => nomatch h) (fun h => nomatch h)
  | long found => rw [Option.some.injEq, DidFormat.long.injEq]
  | unknown => exact iff_of_false (fun h => nomatch h) (fun h => nomatch h)

/-- A long form is an identifier. -/
theorem parse_of_format {did : Did} {form : LongForm} (h : did.format = .long form) :
    parse did.value = .ok did := by
  obtain ⟨hhash, hstate, rfl⟩ := format_eq_long_iff.1 h
  have hcolon := colon_not_mem_of_all (all_isPartChar_of_isStateHash hhash)
  have hstate' := hstate
  rw [isPart, Bool.and_eq_true] at hstate'
  have hpieces := Text.split_append_cons hcolon form.encodedState.toList
  rw [Text.split_of_not_mem (colon_not_mem_of_all hstate'.2)] at hpieces
  have hfront : afterHead? (ofParts form.stateHash (some form.encodedState)).value.toList =
      some (form.stateHash.toList ++ ':' :: form.encodedState.toList) := by
    rw [afterHead?, toList_ofParts, Text.dropFront?_append]
    rfl
  have hall : [form.stateHash.toList, form.encodedState.toList].all isPart = true := by
    rw [List.all_cons, List.all_cons, isPart_of_isStateHash hhash, hstate]
    rfl
  simp only [parse, hfront, hpieces, hall, if_true]

/-! ### Short forms -/

theorem toList_ofParts_none (hash : String) :
    (ofParts hash none).value.toList = prismHead.toList ++ hash.toList :=
  String.toList_append

theorem formatOf_eq_canonical_iff {rest : List Char} {suffix : String} :
    formatOf rest = .canonical suffix ↔
      isStateHash suffix.toList = true ∧ rest = suffix.toList := by
  constructor
  · intro h
    unfold formatOf at h
    split at h
    · split at h
      · next hhash =>
        cases h
        rw [String.toList_ofList]
        exact ⟨hhash, rfl⟩
      · cases h
    · split at h <;> cases h
  · rintro ⟨hhash, rfl⟩
    have hcolon := colon_not_mem_of_all (all_isPartChar_of_isStateHash hhash)
    rw [formatOf, Text.splitFirst?_eq_none_iff.mpr hcolon]
    dsimp only
    rw [if_pos hhash, String.ofList_toList]

/-- An identifier is the short one with some suffix exactly if it is made of that suffix alone. -/
theorem format_eq_canonical_iff {did : Did} {suffix : String} :
    did.format = .canonical suffix ↔
      isStateHash suffix.toList = true ∧ did = ofParts suffix none := by
  constructor
  · intro h
    unfold format at h
    split at h
    · next rest hfront =>
      obtain ⟨hhash, rfl⟩ := formatOf_eq_canonical_iff.1 h
      have hvalue := Text.eq_append_of_dropFront? hfront
      rw [← toList_ofParts_none] at hvalue
      refine ⟨hhash, ?_⟩
      cases did
      exact congrArg Did.mk (String.toList_injective hvalue)
    · cases h
  · rintro ⟨hhash, rfl⟩
    rw [format, toList_ofParts_none, Text.dropFront?_append]
    exact formatOf_eq_canonical_iff.2 ⟨hhash, rfl⟩

theorem format_ofHash (hash : Digest) : (ofHash hash).format = .canonical hash.hex :=
  format_eq_canonical_iff.2 ⟨isStateHash_hex hash, rfl⟩

/-- A short form is an identifier. -/
theorem parse_ofSuffix {hash : String} (h : isStateHash hash.toList = true) :
    parse (ofSuffix hash).value = .ok (ofSuffix hash) := by
  have hcolon := colon_not_mem_of_all (all_isPartChar_of_isStateHash h)
  have hfront : afterHead? (ofSuffix hash).value.toList = some hash.toList := by
    rw [ofSuffix, afterHead?, String.toList_append, Text.dropFront?_append]
    rfl
  have hall : [hash.toList].all isPart = true := by
    rw [List.all_cons, isPart_of_isStateHash h]
    rfl
  simp only [parse, hfront, Text.split_of_not_mem hcolon, hall, if_true]

theorem parse_ofHash (hash : Digest) : parse (ofHash hash).value = .ok (ofHash hash) :=
  parse_ofSuffix (isStateHash_hex hash)

end Did
end DidKeys
