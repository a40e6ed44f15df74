import DidKeys.Proofs.Except
import DidKeys.Proofs.Mnemonic.CheckedNumber
import DidKeys.Proofs.Mnemonic.Wordlist

/-! # Mnemonics and entropy

Words spell some entropy exactly if they are its mnemonic (`entropyOfWords_eq_ok_iff`): the places
of the words are the digits of one number, which has one entropy.  A text is accepted exactly if its
words are the mnemonic of some entropy (`parse_eq_ok_iff`).  So mnemonics and entropy are the same
in two spellings (`ofEntropy_bijection`). -/

namespace DidKeys

/-! ### Lengths -/

namespace WordCount

theorem ofWords?_eq_some_iff {words : Nat} {count : WordCount} :
    ofWords? words = some count ↔ words = count.words := by
  constructor
  · intro h
    have hfound := List.find?_some h
    exact (eq_of_beq hfound).symm
  · rintro rfl
    exact ofWords?_words count

theorem ofEntropyBytes?_eq_some_iff {bytes : Nat} {count : WordCount} :
    ofEntropyBytes? bytes = some count ↔ bytes = count.entropyBytes := by
  constructor
  · intro h
    have hfound := List.find?_some h
    exact (eq_of_beq hfound).symm
  · rintro rfl
    exact ofEntropyBytes?_entropyBytes count

theorem words_injective : Function.Injective words := by
  intro count other h
  rw [← Option.some.injEq, ← ofWords?_words count, h, ofWords?_words]

theorem mem_all (count : WordCount) : count ∈ all := by
  cases count <;> decide

theorem exists_eq_iff {measure : WordCount → Nat} {n : Nat} :
    (∃ count, n = measure count) ↔ n ∈ all.map measure := by
  simp only [List.mem_map, mem_all, true_and, eq_comm]

theorem exists_words_iff {words : Nat} :
    (∃ count : WordCount, words = count.words) ↔ words ∈ [12, 15, 18, 21, 24] :=
  exists_eq_iff

theorem exists_entropyBytes_iff {bytes : Nat} :
    (∃ count : WordCount, bytes = count.entropyBytes) ↔ bytes ∈ [16, 20, 24, 28, 32] :=
  exists_eq_iff

end WordCount

namespace MnemonicCode

section words
variable {code : MnemonicCode} {entropy : Bytes} {row : List String} {places : List Nat}

/-! ### From entropy to words -/

/-- Entropy is written in the words at the places that its number is written with. -/
theorem wordsOfEntropy_eq_ok_iff :
    wordsOfEntropy entropy = .ok row ↔
      ∃ count : WordCount, entropy.length = count.entropyBytes ∧
        (WordDigits.ofNat count.words (checkedNumber count entropy)).map Wordlist.word? =
          row.map some := by
  unfold wordsOfEntropy
  constructor
  · intro h
    split at h
    · cases h
    · next count hcount =>
      cases h
      refine ⟨count, WordCount.ofEntropyBytes?_eq_some_iff.mp hcount, ?_⟩
      exact (Wordlist.map_some_filterMap_word? WordDigits.lt_of_mem_ofNat).symm
  · rintro ⟨count, hlength, hwords⟩
    rw [WordCount.ofEntropyBytes?_eq_some_iff.mpr hlength]
    rw [← Wordlist.map_some_filterMap_word? WordDigits.lt_of_mem_ofNat] at hwords
    have hrow := List.map_injective_iff.mpr (Option.some_injective _) hwords
    exact congrArg Except.ok hrow

/-- Entropy is refused for its length alone. -/
theorem wordsOfEntropy_of_length (h : entropy.length ∉ [16, 20, 24, 28, 32]) :
    wordsOfEntropy entropy = .error (.entropyBits (8 * entropy.length)) := by
  unfold wordsOfEntropy
  split
  · rfl
  · next count hcount =>
    have hlength := WordCount.ofEntropyBytes?_eq_some_iff.mp hcount
    exact absurd (WordCount.exists_entropyBytes_iff.mp ⟨count, hlength⟩) h

/-- The mnemonic of some entropy has its words. -/
theorem ofEntropy_eq_ok_iff_words :
    ofEntropy entropy = .ok code ↔ wordsOfEntropy entropy = .ok code.words := by
  unfold ofEntropy
  simp only [bind_eq_ok_iff, mapError_eq_ok_iff]
  constructor
  · rintro ⟨row, hrow, hcode⟩
    cases hcode
    exact hrow
  · intro hwords
    exact ⟨code.words, hwords, rfl⟩

theorem ofEntropy_eq_ok_iff :
    ofEntropy entropy = .ok code ↔
      ∃ count : WordCount, entropy.length = count.entropyBytes ∧
        (WordDigits.ofNat count.words (checkedNumber count entropy)).map Wordlist.word? =
          code.words.map some :=
  ofEntropy_eq_ok_iff_words.trans wordsOfEntropy_eq_ok_iff

theorem exists_ofEntropy {count : WordCount} (h : entropy.length = count.entropyBytes) :
    ∃ code, ofEntropy entropy = .ok code := by
  rw [ofEntropy, wordsOfEntropy, WordCount.ofEntropyBytes?_eq_some_iff.mpr h]
  exact ⟨_, rfl⟩

theorem ofEntropy_of_length (h : entropy.length ∉ [16, 20, 24, 28, 32]) :
    ofEntropy entropy = .error (.entropyLength entropy.length) := by
  have hbytes : 8 * entropy.length / 8 = entropy.length := Nat.mul_div_cancel_left _ (by decide)
  rw [ofEntropy, wordsOfEntropy_of_length h]
  change Except.error (MnemonicError.entropyLength (8 * entropy.length / 8)) = _
  rw [hbytes]

/-- Three words for every four bytes. -/
theorem length_of_ofEntropy (h : ofEntropy entropy = .ok code) :
    code.words.length = 3 * entropy.length / 4 := by
  obtain ⟨count, hlength, hwords⟩ := ofEntropy_eq_ok_iff.mp h
  have hrow := congrArg List.length hwords
  rw [List.length_map, List.length_map, WordDigits.length_ofNat] at hrow
  rw [← hrow, hlength, WordCount.words, WordCount.entropyBytes]
  omega

theorem mem_words_of_ofEntropy (h : ofEntropy entropy = .ok code) :
    ∀ word ∈ code.words, word ∈ Wordlist.words := by
  obtain ⟨_, _, hwords⟩ := ofEntropy_eq_ok_iff.mp h
  exact Wordlist.mem_words_of_map_word? hwords

/-! ### From words to entropy -/

theorem places_eq_ok_iff {place : Nat} :
    MnemonicCode.places place row = .ok places ↔ row.map Wordlist.place? = places.map some := by
  induction row generalizing place places with
  | nil =>
      rw [MnemonicCode.places, List.map_nil, Except.ok.injEq, eq_comm (a := []),
        eq_comm (a := []), List.map_eq_nil_iff]
  | cons word row ih =>
      rw [MnemonicCode.places]
      cases hplace : Wordlist.place? word with
      | none =>
          refine iff_of_false (fun h => nomatch h) fun h => ?_
          rw [List.map_cons, hplace] at h
          cases places <;> cases h
      | some digit =>
          show (MnemonicCode.places (place + 1) row >>= fun digits => Except.ok (digit :: digits)) =
            .ok places ↔ _
          rw [bind_eq_ok_iff, List.map_cons, hplace]
          constructor
          · rintro ⟨digits, hdigits, hcons⟩
            cases hcons
            rw [List.map_cons, ih.mp hdigits]
          · intro h
            cases places with
            | nil => cases h
            | cons first rest =>
                rw [List.map_cons, List.cons.injEq, Option.some.injEq] at h
                exact ⟨rest, ih.mpr h.2, by rw [h.1]⟩

theorem entropyOfWords_of_length (h : row.length ∉ [12, 15, 18, 21, 24]) :
    entropyOfWords row = .error (.wordCount row.length) := by
  unfold entropyOfWords
  split
  · rfl
  · next count hcount =>
    have hlength := WordCount.ofWords?_eq_some_iff.mp hcount
    exact absurd (WordCount.exists_words_iff.mp ⟨count, hlength⟩) h

theorem entropyOfWords_of_words {count : WordCount} (h : row.length = count.words) :
    entropyOfWords row = MnemonicCode.places 0 row >>= fun digits =>
      match entropyOfNumber? count (WordDigits.toNat digits) with
      | some entropy => .ok entropy
      | none => .error .checksum := by
  rw [entropyOfWords, WordCount.ofWords?_eq_some_iff.mpr h]
  rfl

/-- Words spell the entropy whose mnemonic they are, and no other. -/
theorem entropyOfWords_eq_ok_iff :
    entropyOfWords row = .ok entropy ↔ ofEntropy entropy = .ok ⟨row⟩ := by
  have hfound : ∀ count places,
      (match entropyOfNumber? count (WordDigits.toNat places) with
        | some found => .ok found
        | none => .error CodingError.checksum) = Except.ok entropy ↔
      entropyOfNumber? count (WordDigits.toNat places) = some entropy := by
    intro count places
    cases entropyOfNumber? count (WordDigits.toNat places) with
    | none => exact iff_of_false (fun h => nomatch h) (fun h => nomatch h)
    | some found => rw [Except.ok.injEq, Option.some.injEq]
  have hread : entropyOfWords row = .ok entropy ↔
      ∃ count places, row.length = WordCount.words count ∧
        places.map Wordlist.word? = row.map some ∧
        entropyOfNumber? count (WordDigits.toNat places) = some entropy := by
    by_cases hlength : row.length ∈ [12, 15, 18, 21, 24]
    · obtain ⟨count, hcount⟩ := WordCount.exists_words_iff.mpr hlength
      rw [entropyOfWords_of_words hcount, bind_eq_ok_iff]
      simp only [places_eq_ok_iff, Wordlist.map_place?_eq_iff, hfound]
      constructor
      · rintro ⟨places, hwords, hentropy⟩
        exact ⟨count, places, hcount, hwords, hentropy⟩
      · rintro ⟨other, places, hother, hwords, hentropy⟩
        rw [hcount] at hother
        obtain rfl := WordCount.words_injective hother
        exact ⟨places, hwords, hentropy⟩
    · rw [entropyOfWords_of_length hlength]
      refine iff_of_false (fun h => nomatch h) ?_
      rintro ⟨count, _, hcount, _⟩
      exact hlength (WordCount.exists_words_iff.mp ⟨count, hcount⟩)
  rw [hread, ofEntropy_eq_ok_iff]
  refine exists_congr fun count => ?_
  constructor
  · rintro ⟨places, hlength, hwords, hentropy⟩
    obtain ⟨hbytes, hnumber⟩ := entropyOfNumber?_eq_some_iff.mp hentropy
    have hsame := congrArg List.length hwords
    rw [List.length_map, List.length_map, hlength] at hsame
    refine ⟨hbytes, ?_⟩
    rw [hnumber, ← hsame, WordDigits.ofNat_toNat (Wordlist.lt_size_of_map_word? hwords)]
    exact hwords
  · rintro ⟨hbytes, hwords⟩
    have hsame := congrArg List.length hwords
    rw [List.length_map, List.length_map, WordDigits.length_ofNat] at hsame
    refine ⟨_, hsame.symm, hwords, entropyOfNumber?_eq_some_iff.mpr ⟨hbytes, ?_⟩⟩
    rw [WordDigits.toNat_ofNat_of_lt (checkedNumber_lt hbytes)]

/-! ### Phrases -/

/-- The words of a phrase are those of its elements, in order. -/
theorem words_phrase_eq_flatMap (code : MnemonicCode) :
    Text.words code.phrase = code.words.flatMap Text.words := by
  rw [Text.words, phrase, String.toList_ofList, Text.wordsOf_join_eq_flatMap, List.flatMap_map,
    List.map_flatMap]
  rfl

/-- The words of a phrase are the words that it was made of. -/
theorem words_phrase (h : ∀ word ∈ code.words, Text.IsWord word.toList) :
    Text.words code.phrase = code.words := by
  rw [words_phrase_eq_flatMap, Text.flatMap_words_of_isWord h]

theorem words_phrase_of_ofEntropy (h : ofEntropy entropy = .ok code) :
    Text.words code.phrase = code.words :=
  words_phrase fun word hword => Wordlist.isWord_of_mem (mem_words_of_ofEntropy h word hword)

theorem words_phrase_ofText (text : String) :
    Text.words (ofText text).phrase = (ofText text).words :=
  words_phrase fun _ hword => Text.isWord_of_mem_words hword

/-- Where the phrase has the same words, they are counted twice and nothing else. -/
theorem entropy_eq_entropyOfWords (h : Text.words code.phrase = code.words) :
    code.entropy = (entropyOfWords code.words).mapError .ofCoding := by
  rw [MnemonicCode.entropy, h, entropyOfWords, WordCount.ofWords]
  cases WordCount.ofWords? code.words.length <;> rfl

theorem validate_eq_ok_iff : code.validate = .ok () ↔ ∃ entropy, code.entropy = .ok entropy := by
  rw [validate]
  cases code.entropy with
  | error cause => exact iff_of_false (fun h => nomatch h) (fun ⟨_, h⟩ => nomatch h)
  | ok entropy => exact iff_of_true rfl ⟨entropy, rfl⟩

theorem validate_of_ofEntropy (h : ofEntropy entropy = .ok code) : code.validate = .ok () := by
  refine validate_eq_ok_iff.mpr ⟨entropy, ?_⟩
  rw [entropy_eq_entropyOfWords (words_phrase_of_ofEntropy h), mapError_eq_ok_iff]
  exact entropyOfWords_eq_ok_iff.mpr h

/-- A text is accepted as its words, if these are the mnemonic of some entropy. -/
theorem parse_eq_ok_iff {text : String} :
    parse text = .ok code ↔ code = ofText text ∧ ∃ entropy, ofEntropy entropy = .ok code := by
  have hread : parse text = .ok code ↔ (ofText text).validate = .ok () ∧ code = ofText text := by
    rw [parse]
    cases (ofText text).validate with
    | error cause => exact iff_of_false (fun h => nomatch h) (fun h => nomatch h.1)
    | ok _ =>
        show Except.ok (ofText text) = .ok code ↔ _
        rw [Except.ok.injEq, eq_comm]
        exact (and_iff_right rfl).symm
  rw [hread, validate_eq_ok_iff, entropy_eq_entropyOfWords (words_phrase_ofText text), and_comm]
  refine and_congr_right fun hcode => ?_
  rw [hcode]
  exact exists_congr fun entropy => mapError_eq_ok_iff.trans entropyOfWords_eq_ok_iff

theorem parse_phrase_of_ofEntropy (h : ofEntropy entropy = .ok code) :
    parse code.phrase = .ok code :=
  parse_eq_ok_iff.mpr
    ⟨congrArg MnemonicCode.mk (words_phrase_of_ofEntropy h).symm, entropy, h⟩

end words

/-! ### Both directions -/

/-- Entropy of each of the five lengths has a mnemonic of three words of the list for every four
bytes, which holds and is read back from its phrase; entropy of another length is refused for its
length.  Every mnemonic that is read from a text is that of one entropy. -/
theorem ofEntropy_bijection :
    (∀ entropy : Bytes, entropy.length ∈ [16, 20, 24, 28, 32] →
      ∃ code, ofEntropy entropy = .ok code ∧
        code.words.length = 3 * entropy.length / 4 ∧
        (∀ word ∈ code.words, word ∈ Wordlist.words) ∧
        code.validate = .ok () ∧
        parse code.phrase = .ok code) ∧
    (∀ entropy : Bytes, entropy.length ∉ [16, 20, 24, 28, 32] →
      ofEntropy entropy = .error (.entropyLength entropy.length)) ∧
    (∀ (text : String) (code : MnemonicCode), parse text = .ok code →
      ∃! entropy, ofEntropy entropy = .ok code) := by
  refine ⟨fun entropy h => ?_, fun entropy => ofEntropy_of_length, fun text code h => ?_⟩
  · obtain ⟨count, hlength⟩ := WordCount.exists_entropyBytes_iff.mpr h
    obtain ⟨code, hcode⟩ := exists_ofEntropy hlength
    exact ⟨code, hcode, length_of_ofEntropy hcode, mem_words_of_ofEntropy hcode,
      validate_of_ofEntropy hcode, parse_phrase_of_ofEntropy hcode⟩
  · obtain ⟨_, entropy, hentropy⟩ := parse_eq_ok_iff.mp h
    refine ⟨entropy, hentropy, fun other hother => ?_⟩
    have hread := entropyOfWords_eq_ok_iff.mpr hentropy
    rw [entropyOfWords_eq_ok_iff.mpr hother] at hread
    exact Except.ok.inj hread

/-- Sixteen and seventeen bytes, and a text with more white space than words need. -/
theorem ofEntropy_bijection_sevens :
    let entropy : Bytes := List.replicate 16 0x7f
    let text :=
      " legal winner thank year wave sausage worth useful legal winner thank \t yellow\n"
    entropy.length ∈ [16, 20, 24, 28, 32] ∧ ofEntropy entropy = .ok (ofText text) ∧
      (ofText text).validate = .ok () ∧ (0x7f :: entropy).length ∉ [16, 20, 24, 28, 32] ∧
      ofEntropy (0x7f :: entropy) = .error (.entropyLength 17) ∧
      parse text = .ok (ofText text) ∧ ∃! entropy, ofEntropy entropy = .ok (ofText text) := by
  intro entropy text
  have hcode : ofEntropy entropy = .ok (ofText text) := by decide +kernel
  have hlength : entropy.length ∈ [16, 20, 24, 28, 32] := by decide
  have hlonger : (0x7f :: entropy).length ∉ [16, 20, 24, 28, 32] := by decide
  have hparse : parse text = .ok (ofText text) := parse_eq_ok_iff.mpr ⟨rfl, entropy, hcode⟩
  obtain ⟨code, hmade, _, _, hvalid, _⟩ := ofEntropy_bijection.1 entropy hlength
  rw [hcode, Except.ok.injEq] at hmade
  subst hmade
  exact ⟨hlength, hcode, hvalid, hlonger, ofEntropy_bijection.2.1 _ hlonger, hparse,
    ofEntropy_bijection.2.2 text _ hparse⟩

end MnemonicCode
end DidKeys
