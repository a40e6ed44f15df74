import DidKeys.Proofs.Mnemonic.Entropy
import Mathlib.Order.Bounds.Basic

/-! # What validation says of the words as they are stored

A code is judged by the words of its phrase, and these are the words of its elements, one element
after the other (`words_phrase_eq_flatMap`).  So an element that is a single word is judged as it
stands.  An empty element is not judged at all, and one with white space in it is judged in pieces:
a code that holds may have elements that are not in the list, and the place of a foreign word is
counted in the phrase, where it may stand further back than the first foreign element
(`validate_elements`, `validate_white_space`). -/

namespace DidKeys

namespace Wordlist

/-- The places of a row whose words are not in the list. -/
def foreignPlaces (row : List String) : Set Nat :=
  {place | ∃ word, row[place]? = some word ∧ contains word = false}

section row
variable {known rest : List String} {word : String}

theorem isWord_of_contains (h : contains word = true) : Text.IsWord word.toList :=
  isWord_of_mem (contains_iff_mem.mp h)

theorem length_le_of_mem_foreignPlaces {place : Nat} (hknown : ∀ word ∈ known, contains word = true)
    (h : place ∈ foreignPlaces (known ++ rest)) : known.length ≤ place := by
  obtain ⟨word, hat, hforeign⟩ := h
  by_contra hlt
  rw [List.getElem?_append_left (by omega)] at hat
  rw [hknown word (List.mem_of_getElem? hat)] at hforeign
  cases hforeign

/-- Behind words of the list, a foreign word is the first one. -/
theorem isLeast_foreignPlaces (hknown : ∀ word ∈ known, contains word = true)
    (hword : contains word = false) :
    IsLeast (foreignPlaces (known ++ word :: rest)) known.length := by
  refine ⟨⟨word, ?_, hword⟩, fun place => length_le_of_mem_foreignPlaces hknown⟩
  simp

/-- One of the foreign words of a row is the first. -/
theorem exists_first_foreign {row : List String} {place : Nat} (h : place ∈ foreignPlaces row) :
    ∃ known word rest, row = known ++ word :: rest ∧ (∀ word ∈ known, contains word = true) ∧
      contains word = false := by
  induction row generalizing place with
  | nil =>
      obtain ⟨_, hat, _⟩ := h
      cases hat
  | cons first row ih =>
      cases hfirst : contains first with
      | false => exact ⟨[], first, row, rfl, List.forall_mem_nil _, hfirst⟩
      | true =>
          have hpos : 1 ≤ place := length_le_of_mem_foreignPlaces
            (List.forall_mem_singleton.mpr hfirst) (h : place ∈ foreignPlaces ([first] ++ row))
          obtain ⟨back, rfl⟩ := Nat.exists_eq_add_of_le' hpos
          obtain ⟨known, word, rest, rfl, hknown, hword⟩ := ih h
          exact ⟨first :: known, word, rest, rfl, List.forall_mem_cons.mpr ⟨hfirst, hknown⟩, hword⟩

end row
end Wordlist

theorem WordCount.cause_of_ofWords {words : Nat} {cause : MnemonicError}
    (h : ofWords words = .error cause) : cause = .wordCount words := by
  rw [ofWords] at h
  split at h
  · cases h
  · exact (Except.error.inj h).symm

namespace MnemonicCode
variable {code : MnemonicCode}

/-- A code that holds has only words of the list in its phrase. -/
theorem contains_of_validate (h : code.validate = .ok ()) :
    ∀ word ∈ code.words.flatMap Text.words, Wordlist.contains word = true := by
  obtain ⟨entropy, hentropy⟩ := validate_eq_ok_iff.mp h
  rw [MnemonicCode.entropy, bind_eq_ok_iff] at hentropy
  obtain ⟨_, _, hwords⟩ := hentropy
  rw [words_phrase_eq_flatMap, mapError_eq_ok_iff, entropyOfWords_eq_ok_iff] at hwords
  intro word hword
  exact Wordlist.contains_iff_mem.mpr (mem_words_of_ofEntropy hwords word hword)

/-! ### Refusals -/

/-- Words are looked up one by one, up to the first that is not in the list. -/
theorem exists_first_of_places {place : Nat} {row : List String} {cause : CodingError}
    (h : places place row = .error cause) :
    ∃ known word rest, row = known ++ word :: rest ∧
      (∀ word ∈ known, Wordlist.contains word = true) ∧ Wordlist.contains word = false ∧
      cause = .unknownWord (place + known.length) := by
  induction row generalizing place with
  | nil => cases h
  | cons first row ih =>
      have hfirst : Wordlist.contains first = (Wordlist.place? first).isSome := rfl
      rw [places] at h
      cases hplace : Wordlist.place? first with
      | none =>
          rw [hplace] at h hfirst
          cases h
          exact ⟨[], first, row, rfl, List.forall_mem_nil _, hfirst, rfl⟩
      | some digit =>
          rw [hplace] at h hfirst
          obtain ⟨known, word, rest, rfl, hknown, hword, rfl⟩ := ih (bind_pure_eq_error_iff.mp h)
          refine ⟨first :: known, word, rest, rfl, List.forall_mem_cons.mpr ⟨hfirst, hknown⟩,
            hword, ?_⟩
          rw [List.length_cons, Nat.add_right_comm, Nat.add_assoc]

theorem validate_eq_error_iff {cause : MnemonicError} :
    code.validate = .error cause ↔ code.entropy = .error cause :=
  bind_pure_eq_error_iff

/-- A row of words is refused for the first of them that is not in the list. -/
theorem isLeast_of_entropyOfWords {row : List String} {place : Nat}
    (h : entropyOfWords row = .error (.unknownWord place)) :
    IsLeast (Wordlist.foreignPlaces row) place := by
  by_cases hlength : row.length ∈ [12, 15, 18, 21, 24]
  · obtain ⟨count, hcount⟩ := WordCount.exists_words_iff.mpr hlength
    rw [entropyOfWords_of_words hcount] at h
    rcases bind_eq_error_iff.mp h with hplaces | ⟨digits, _, hnumber⟩
    · obtain ⟨known, word, rest, hrow, hknown, hword, hcause⟩ := exists_first_of_places hplaces
      rw [Nat.zero_add, CodingError.unknownWord.injEq] at hcause
      rw [hrow, hcause]
      exact Wordlist.isLeast_foreignPlaces hknown hword
    · split at hnumber <;> cases hnumber
  · rw [entropyOfWords_of_length hlength] at h
    cases h

/-- The place in a refusal is that of the first foreign word of the phrase. -/
theorem isLeast_of_validate {place : Nat} (h : code.validate = .error (.unknownWord place)) :
    IsLeast (Wordlist.foreignPlaces (code.words.flatMap Text.words)) place := by
  have hcount : WordCount.ofWords code.words.length ≠ .error (.unknownWord place) :=
    fun hrefused => nomatch WordCount.cause_of_ofWords hrefused
  rw [validate_eq_error_iff, MnemonicCode.entropy, words_phrase_eq_flatMap, bind_eq_error_iff] at h
  obtain ⟨_, _, h⟩ := h.resolve_left hcount
  obtain ⟨cause, hwords, hcause⟩ := mapError_eq_error_iff.mp h
  cases cause with
  | unknownWord found =>
      cases hcause
      exact isLeast_of_entropyOfWords hwords
  | _ => cases hcause

/-! ### Elements -/

/-- Elements of the list are found in the phrase as they are, and so is the first one that is not in
the list, if it is a word. -/
theorem le_of_isLeast_flatMap {known rest : List String} {element : String} {place : Nat}
    (hknown : ∀ word ∈ known, Wordlist.contains word = true)
    (helement : Wordlist.contains element = false)
    (h : IsLeast (Wordlist.foreignPlaces ((known ++ element :: rest).flatMap Text.words)) place) :
    known.length ≤ place ∧ (Text.IsWord element.toList → place = known.length) := by
  rw [List.flatMap_append, List.flatMap_cons, Text.flatMap_words_of_isWord fun word hmem =>
    Wordlist.isWord_of_contains (hknown word hmem)] at h
  refine ⟨Wordlist.length_le_of_mem_foreignPlaces hknown h.1, fun hword => ?_⟩
  rw [Text.words_of_isWord hword] at h
  exact h.unique (Wordlist.isLeast_foreignPlaces hknown helement)

/-- Where the phrase has a foreign word, some element is not in the list. -/
theorem exists_mem_foreignPlaces {row : List String} {place : Nat}
    (h : place ∈ Wordlist.foreignPlaces (row.flatMap Text.words)) :
    ∃ first, first ∈ Wordlist.foreignPlaces row := by
  by_contra hnone
  have hall : ∀ element ∈ row, Wordlist.contains element = true := by
    intro element helement
    obtain ⟨first, hfirst⟩ := List.getElem?_of_mem helement
    by_contra hforeign
    exact hnone ⟨first, element, hfirst, Bool.eq_false_iff.mpr hforeign⟩
  rw [Text.flatMap_words_of_isWord fun element hmem =>
    Wordlist.isWord_of_contains (hall element hmem)] at h
  exact hnone ⟨place, h⟩

/-- In a code that holds, every word of every element is in the list, and an element is if and only
if it is one word.  If a code is refused for a foreign word, this is the first one of all words of
the elements, and the first element that is not in the list is not behind that place; it is at that
place if it is one word. -/
theorem validate_elements (code : MnemonicCode) :
    (code.validate = .ok () → ∀ element ∈ code.words,
      (∀ word ∈ Text.words element, Wordlist.contains word = true) ∧
      (Wordlist.contains element = true ↔ Text.IsWord element.toList)) ∧
    ∀ place, code.validate = .error (.unknownWord place) →
      IsLeast (Wordlist.foreignPlaces (code.words.flatMap Text.words)) place ∧
      ∃ first element, IsLeast (Wordlist.foreignPlaces code.words) first ∧
        code.words[first]? = some element ∧ first ≤ place ∧
        (Text.IsWord element.toList → place = first) := by
  constructor
  · intro h element helement
    have hwords : ∀ word ∈ Text.words element, Wordlist.contains word = true := fun word hword =>
      contains_of_validate h word (List.mem_flatMap.mpr ⟨element, helement, hword⟩)
    refine ⟨hwords, Wordlist.isWord_of_contains, fun hword => hwords element ?_⟩
    rw [Text.words_of_isWord hword]
    exact List.mem_singleton.mpr rfl
  · intro place h
    have hleast := isLeast_of_validate h
    obtain ⟨_, hforeign⟩ := exists_mem_foreignPlaces hleast.1
    obtain ⟨known, element, rest, hcode, hknown, helement⟩ :=
      Wordlist.exists_first_foreign hforeign
    rw [hcode] at hleast ⊢
    obtain ⟨hle, heq⟩ := le_of_isLeast_flatMap hknown helement hleast
    exact ⟨hleast, known.length, element, Wordlist.isLeast_foreignPlaces hknown helement, by simp,
      hle, heq⟩

/-! ### White space in elements -/

/-- Twelve elements whose phrase has twelve words, but the first element has two of them and the
second one none. -/
def spacedCode : MnemonicCode :=
  ⟨"abandon abandon" :: "" :: (List.replicate 9 "abandon" ++ ["about"])⟩

/-- The same, with a foreign word behind the first two. -/
def spacedForeignCode : MnemonicCode :=
  ⟨"abandon abandon" :: "hocus" :: "" :: List.replicate 9 "abandon"⟩

theorem validate_spacedCode : spacedCode.validate = .ok () := by decide +kernel

theorem validate_spacedForeignCode : spacedForeignCode.validate = .error (.unknownWord 2) := by
  decide +kernel

/-- An element with a space in it is not in the list. -/
theorem contains_two_words : Wordlist.contains "abandon abandon" = false := by
  rw [Bool.eq_false_iff]
  intro h
  exact absurd ((Wordlist.isWord_of_contains h).not_white ' ' (by decide)) (by decide)

/-- In the first code `about` is judged as it stands, and in the second one the foreign word is the
third of the phrase. -/
theorem validate_elements_spaced :
    spacedCode.validate = .ok () ∧ "about" ∈ spacedCode.words ∧
      (Wordlist.contains "about" = true ↔ Text.IsWord "about".toList) ∧
      spacedForeignCode.validate = .error (.unknownWord 2) ∧
      IsLeast (Wordlist.foreignPlaces (spacedForeignCode.words.flatMap Text.words)) 2 ∧
      ∃ first element, IsLeast (Wordlist.foreignPlaces spacedForeignCode.words) first ∧
        spacedForeignCode.words[first]? = some element ∧ first ≤ 2 ∧
        (Text.IsWord element.toList → 2 = first) := by
  have habout : "about" ∈ spacedCode.words := by simp [spacedCode]
  obtain ⟨hwords, _⟩ := validate_elements spacedCode
  obtain ⟨_, hplaces⟩ := validate_elements spacedForeignCode
  exact ⟨validate_spacedCode, habout, (hwords validate_spacedCode _ habout).2,
    validate_spacedForeignCode, hplaces 2 validate_spacedForeignCode⟩

/-- A code can hold although its first element is not in the list, and be refused for a place behind
its first foreign element. -/
theorem validate_white_space :
    spacedCode.validate = .ok () ∧
      ¬ (∀ element ∈ spacedCode.words, Wordlist.contains element = true) ∧
      spacedForeignCode.validate = .error (.unknownWord 2) ∧
      ¬ IsLeast (Wordlist.foreignPlaces spacedForeignCode.words) 2 := by
  refine ⟨validate_spacedCode, fun hall => ?_, validate_spacedForeignCode, fun hleast => ?_⟩
  · have hfirst := hall "abandon abandon" (by simp [spacedCode])
    rw [contains_two_words] at hfirst
    cases hfirst
  · have hle : 2 ≤ 0 := hleast.2 ⟨"abandon abandon", rfl, contains_two_words⟩
    exact absurd hle (by decide)

end MnemonicCode
end DidKeys
