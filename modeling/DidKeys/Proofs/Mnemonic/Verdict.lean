import DidKeys.Proofs.Mnemonic.Elements

/-! # What becomes of a phrase

`MnemonicCode.Verdict words outcome` says what the words of a text are taken for: there may be too
many or too few of them, then the first one that is not in the list counts, and then the checksum.
It speaks of the bits of the words, eleven for each, which are those of some entropy and, behind
them, one for each three words (`MnemonicCode.Carries`).

The words carry one entropy, and its number is theirs exactly if the bits behind it are the first
bits of its digest (`entropyOfWords_of_carries`).  So reading a text comes to the outcome of its
verdict (`parse_eq_iff_verdict`). -/

namespace DidKeys

/-- The first bits of the digest of some entropy. -/
def digestBits (count : Nat) (entropy : Bytes) : List Bool := (sha256 entropy).bytes.bits.take count

namespace MnemonicCode

/-- The words of a row are in the list, and the bits of their places are those of some entropy and
of a checksum behind it. -/
structure Carries (row : List String) (entropy : Bytes) (checksum : List Bool) : Prop where
  length_entropy : entropy.length = 4 * row.length / 3
  length_checksum : checksum.length = row.length / 3
  bits : ∃ places : List Nat, row.map Wordlist.place? = places.map some ∧
    (places.flatMap fun place => Bits.ofNat 11 place) = entropy.bits ++ checksum

/-- The words of a text, and what it is taken for. -/
inductive Verdict : List String → Except MnemonicError MnemonicCode → Prop where
  /-- There is no mnemonic of this many words. -/
  | wordCount {row : List String} (other : row.length ∉ [12, 15, 18, 21, 24]) :
      Verdict row (.error (.wordCount row.length))
  /-- A word is not in the list, and those in front of it are. -/
  | unknownWord {row : List String} {place : Nat} (length_mem : row.length ∈ [12, 15, 18, 21, 24])
      (first : IsLeast (Wordlist.foreignPlaces row) place) :
      Verdict row (.error (.unknownWord place))
  /-- The last bits are not the first ones of the digest of the others. -/
  | checksum {row : List String} {entropy : Bytes} {checksum : List Bool}
      (length_mem : row.length ∈ [12, 15, 18, 21, 24]) (carries : Carries row entropy checksum)
      (differs : checksum ≠ digestBits (row.length / 3) entropy) : Verdict row (.error .checksum)
  /-- They are. -/
  | ok {row : List String} {entropy : Bytes} {checksum : List Bool}
      (length_mem : row.length ∈ [12, 15, 18, 21, 24]) (carries : Carries row entropy checksum)
      (agrees : checksum = digestBits (row.length / 3) entropy) : Verdict row (.ok ⟨row⟩)

/-! ### Bits and numbers -/

theorem toNat_bits_places {places : List Nat} (h : ∀ place ∈ places, place < Wordlist.size) :
    Bits.toNat (places.flatMap fun place => Bits.ofNat 11 place) = WordDigits.toNat places :=
  Bits.toNat_flatMap h

theorem length_digestBits {count : WordCount} (entropy : Bytes) :
    (digestBits count.checksumBits entropy).length = count.checksumBits := by
  have hshort : count.checksumBits ≤ 256 := by cases count <;> decide
  rw [digestBits, List.length_take, Bytes.length_bits, (sha256 entropy).length_bytes]
  exact Nat.min_eq_left hshort

theorem toNat_digestBits (count : Nat) (entropy : Bytes) :
    Bits.toNat (digestBits count entropy) = entropyChecksum count entropy := by
  rw [digestBits, Bits.toNat_take, Bytes.toNat_bits, Bytes.length_bits,
    (sha256 entropy).length_bytes]
  rfl

/-- The number of some entropy and a checksum behind it is the one that the entropy has exactly if
the checksum is that of the entropy. -/
theorem entropyOfNumber?_of_bits {count : WordCount} {entropy : Bytes} {checksum : List Bool}
    (hentropy : entropy.length = count.entropyBytes)
    (hchecksum : checksum.length = count.checksumBits) :
    entropyOfNumber? count (Bits.toNat (entropy.bits ++ checksum)) =
      if checksum = digestBits count.checksumBits entropy then some entropy else none := by
  have hnumber : Bits.toNat (entropy.bits ++ checksum) =
      Bytes.toNat entropy * 2 ^ count.checksumBits + Bits.toNat checksum := by
    rw [Bits.toNat_append, Bytes.toNat_bits, hchecksum]
  have hsmall := Bits.toNat_lt checksum
  rw [hchecksum] at hsmall
  have hshift : Bits.toNat (entropy.bits ++ checksum) >>> count.checksumBits =
      Bytes.toNat entropy := by
    rw [hnumber, Bits.shiftRight_of_lt hsmall]
  have hsame : checkedNumber count entropy = Bits.toNat (entropy.bits ++ checksum) ↔
      checksum = digestBits count.checksumBits entropy := by
    rw [hnumber, checkedNumber, Nat.shiftLeft_eq, Nat.add_left_cancel_iff, ← toNat_digestBits]
    constructor
    · intro h
      exact Bits.eq_of_toNat_eq (hchecksum.trans (length_digestBits entropy).symm) h.symm
    · intro h
      rw [← h]
  unfold entropyOfNumber?
  dsimp only
  rw [hshift, Bytes.ofNat_toNat_of_length hentropy]
  simp only [hsame]

/-! ### Rows of words -/

section row
variable {row : List String}

theorem entropyOfWords_of_isLeast {place : Nat} (hlength : row.length ∈ [12, 15, 18, 21, 24])
    (h : IsLeast (Wordlist.foreignPlaces row) place) :
    entropyOfWords row = .error (.unknownWord place) := by
  obtain ⟨count, hcount⟩ := WordCount.exists_words_iff.mpr hlength
  rw [entropyOfWords_of_words hcount]
  cases hplaces : places 0 row with
  | ok digits =>
      obtain ⟨word, hat, hforeign⟩ := h.1
      have hword := List.mem_map_of_mem (f := Wordlist.place?) (List.mem_of_getElem? hat)
      rw [places_eq_ok_iff.mp hplaces] at hword
      obtain ⟨digit, _, hdigit⟩ := List.mem_map.mp hword
      rw [Wordlist.contains, ← hdigit] at hforeign
      cases hforeign
  | error cause =>
      obtain ⟨known, word, rest, hrow, hknown, hword, hcause⟩ := exists_first_of_places hplaces
      rw [hrow] at h
      rw [hcause, Nat.zero_add, h.unique (Wordlist.isLeast_foreignPlaces hknown hword)]
      rfl

theorem entropyOfWords_of_carries {entropy : Bytes} {checksum : List Bool}
    (hlength : row.length ∈ [12, 15, 18, 21, 24]) (h : Carries row entropy checksum) :
    entropyOfWords row =
      if checksum = digestBits (row.length / 3) entropy then .ok entropy else .error .checksum := by
  obtain ⟨count, hcount⟩ := WordCount.exists_words_iff.mpr hlength
  obtain ⟨hentropy, hchecksum, digits, hplaces, hbits⟩ := h
  have hgroups : row.length / 3 = count.checksumBits := by
    rw [hcount, WordCount.words, WordCount.checksumBits]
    omega
  have hbytes : 4 * row.length / 3 = count.entropyBytes := by
    rw [hcount, WordCount.words, WordCount.entropyBytes]
    omega
  have hsmall := Wordlist.lt_size_of_map_word? (Wordlist.map_place?_eq_iff.mp hplaces)
  rw [hbytes] at hentropy
  rw [hgroups] at hchecksum ⊢
  rw [entropyOfWords_of_words hcount, places_eq_ok_iff.mpr hplaces, ok_bind,
    ← toNat_bits_places hsmall, hbits, entropyOfNumber?_of_bits hentropy hchecksum]
  by_cases hagrees : checksum = digestBits count.checksumBits entropy
  · rw [if_pos hagrees, if_pos hagrees]
  · rw [if_neg hagrees, if_neg hagrees]

/-- Words of the list carry some entropy and a checksum. -/
theorem exists_carries (hlength : row.length ∈ [12, 15, 18, 21, 24])
    (hknown : ∀ word ∈ row, Wordlist.contains word = true) :
    ∃ entropy checksum, Carries row entropy checksum := by
  cases hplaces : places 0 row with
  | error cause =>
      obtain ⟨known, word, rest, rfl, _, hforeign, _⟩ := exists_first_of_places hplaces
      rw [hknown word (by simp)] at hforeign
      cases hforeign
  | ok digits =>
      have hrow := places_eq_ok_iff.mp hplaces
      have hsame := congrArg List.length hrow
      rw [List.length_map, List.length_map] at hsame
      -- the bits are cut where the bytes of the entropy end
      have hbits : (digits.flatMap fun digit => Bits.ofNat 11 digit).length =
          8 * (4 * row.length / 3) + row.length / 3 := by
        obtain ⟨count, hcount⟩ := WordCount.exists_words_iff.mpr hlength
        rw [Bits.length_flatMap (fun digit => digit) digits, ← hsame, hcount, WordCount.words]
        omega
      obtain ⟨entropy, checksum, hentropy, hchecksum, hcut⟩ :=
        Bytes.exists_bits_append hbits
      exact ⟨entropy, checksum, hentropy, hchecksum, digits, hrow, hcut⟩

/-! ### Texts -/

theorem parse_eq (text : String) :
    parse text = (entropyOfWords (Text.words text)).mapError .ofCoding >>= fun _ =>
      .ok ⟨Text.words text⟩ := by
  unfold parse validate
  rw [entropy_eq_entropyOfWords (words_phrase_ofText text), ofText]
  cases entropyOfWords (Text.words text) <;> rfl

/-- The verdict on a row of words is what becomes of it. -/
theorem Verdict.entropyOfWords {outcome : Except MnemonicError MnemonicCode}
    (h : Verdict row outcome) :
    ((MnemonicCode.entropyOfWords row).mapError .ofCoding >>= fun _ => .ok ⟨row⟩) = outcome := by
  cases h with
  | wordCount other =>
      rw [entropyOfWords_of_length other]
      rfl
  | unknownWord length_mem first =>
      rw [entropyOfWords_of_isLeast length_mem first]
      rfl
  | checksum length_mem carries differs =>
      rw [entropyOfWords_of_carries length_mem carries, if_neg differs]
      rfl
  | ok length_mem carries agrees =>
      rw [entropyOfWords_of_carries length_mem carries, if_pos agrees]
      rfl

/-- There is a verdict on each row of words. -/
theorem exists_verdict (row : List String) : ∃ outcome, Verdict row outcome := by
  by_cases hlength : row.length ∈ [12, 15, 18, 21, 24]
  · by_cases hforeign : ∃ place, place ∈ Wordlist.foreignPlaces row
    · obtain ⟨place, hplace⟩ := hforeign
      obtain ⟨known, word, rest, rfl, hknown, hword⟩ := Wordlist.exists_first_foreign hplace
      exact ⟨_, .unknownWord hlength (Wordlist.isLeast_foreignPlaces hknown hword)⟩
    · have hknown : ∀ word ∈ row, Wordlist.contains word = true := by
        intro word hword
        obtain ⟨place, hplace⟩ := List.mem_iff_getElem?.mp hword
        by_contra hcontains
        exact hforeign ⟨place, word, hplace, Bool.eq_false_iff.mpr hcontains⟩
      obtain ⟨entropy, checksum, hcarries⟩ := exists_carries hlength hknown
      by_cases hagrees : checksum = digestBits (row.length / 3) entropy
      · exact ⟨_, .ok hlength hcarries hagrees⟩
      · exact ⟨_, .checksum hlength hcarries hagrees⟩
  · exact ⟨_, .wordCount hlength⟩

end row

/-- Each text has its row of words, and the verdict on the row is what becomes of the text.  It is
never refused for the length of entropy, or for a reason of the coding that has no name here. -/
theorem parse_eq_iff_verdict (text : String) :
    (∃! row, Text.HasWords text row) ∧
      ∀ row, Text.HasWords text row →
        (∀ outcome, parse text = outcome ↔ Verdict row outcome) ∧
        (∀ other, Text.HasWords other row → parse other = parse text) ∧
        (∀ length, parse text ≠ .error (.entropyLength length)) ∧
        ∀ reason, parse text ≠ .error (.encoding reason) := by
  constructor
  · refine ⟨Text.words text, Text.hasWords_iff.mpr rfl, ?_⟩
    intro row hrow
    exact (Text.hasWords_iff.mp hrow).symm
  · intro row hrow
    -- both directions and the other texts go through the words alone
    have hparse : ∀ other, Text.HasWords other row →
        parse other = ((entropyOfWords row).mapError .ofCoding >>= fun _ => .ok ⟨row⟩) := by
      intro other hother
      rw [parse_eq, Text.hasWords_iff.mp hother]
    have hiff : ∀ outcome, parse text = outcome ↔ Verdict row outcome := by
      intro outcome
      rw [hparse text hrow]
      constructor
      · rintro rfl
        obtain ⟨outcome, h⟩ := exists_verdict row
        rwa [h.entropyOfWords]
      · exact Verdict.entropyOfWords
    refine ⟨hiff, ?_, ?_, ?_⟩
    · intro other hother
      rw [hparse text hrow, hparse other hother]
    · intro length h
      cases (hiff _).mp h
    · intro reason h
      cases (hiff _).mp h

/-- Eleven times the first word of the list, and one that makes the checksum right. -/
def zeroWords : List String := List.replicate 11 "abandon" ++ ["about"]

/-- The words with other white space than their phrase has. -/
def looseZeros : String :=
  "\tabandon abandon abandon\u2003abandon abandon abandon\n  abandon abandon abandon abandon " ++
    "abandon\u3000about\n"

theorem isWord_of_mem_zeroWords {word : String} (h : word ∈ zeroWords) :
    Text.IsWord word.toList := by
  have hknown : zeroWords.all Wordlist.contains = true := by decide
  exact Wordlist.isWord_of_contains (List.all_eq_true.mp hknown word h)

theorem hasWords_zeroWords : Text.HasWords (phrase ⟨zeroWords⟩) zeroWords :=
  Text.hasWords_iff.mpr (words_phrase fun _ => isWord_of_mem_zeroWords)

theorem parse_eq_iff_verdict_zeroWords :
    Text.HasWords looseZeros zeroWords ∧ Verdict zeroWords (.ok ⟨zeroWords⟩) ∧
      parse (phrase ⟨zeroWords⟩) = parse looseZeros := by
  have hwords : Text.HasWords looseZeros zeroWords := Text.hasWords_iff.mpr (by decide +kernel)
  have hok : parse looseZeros = .ok ⟨zeroWords⟩ := by decide +kernel
  obtain ⟨_, hreads⟩ := parse_eq_iff_verdict looseZeros
  obtain ⟨hverdict, hsame, _⟩ := hreads zeroWords hwords
  exact ⟨hwords, (hverdict _).mp hok, hsame _ hasWords_zeroWords⟩

end MnemonicCode
end DidKeys
