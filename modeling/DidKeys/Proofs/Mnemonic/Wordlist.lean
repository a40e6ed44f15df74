import DidKeys.Bytes.Hex
import DidKeys.Mnemonic.Wordlist
import DidKeys.Proofs.Bytes.Utf8
import DidKeys.Proofs.Text.Words
import Mathlib.Algebra.Group.Nat.Defs
import Mathlib.Data.List.Sort

/-! # Words and their places

The words of the list consist of small letters (`isWord_of_mem`) and stand in strictly ascending
order (`nodup_words`).  Both are checked once, on the octets of the words.  So a word has one place
and a place one word (`place?_eq_some_iff`), and rows of places and rows of words determine each
other (`map_place?_eq_iff`). -/

namespace DidKeys.Wordlist

/-! ### Octets -/

/-- The octets of a word. -/
def octets (word : String) : Bytes := word.toByteArray.data.toList

theorem ofString_eq_octets (word : String) : Bytes.ofString word = octets word := by
  rw [octets, ← Bytes.toByteArray_ofString]

/-- Whether an octet is a small letter. -/
def isLetter (octet : UInt8) : Bool := 97 ≤ octet && octet ≤ 122

/-- A letter is a character of one octet. -/
theorem utf8EncodeChar_letter : ∀ octet : UInt8, isLetter octet = true →
    String.utf8EncodeChar (Char.ofNat octet.toNat) = [octet] :=
  Hex.byte_cases (by decide +kernel)

theorem isWhiteSpace_letter : ∀ octet : UInt8, isLetter octet = true →
    Text.isWhiteSpace (Char.ofNat octet.toNat) = false :=
  Hex.byte_cases (by decide +kernel)

/-- A text whose octets are letters consists of these letters. -/
theorem toList_of_letters {word : String} (h : (octets word).all isLetter = true) :
    word.toList = (octets word).map fun octet => Char.ofNat octet.toNat := by
  have hletters : ∀ bs : Bytes, bs.all isLetter = true →
      Bytes.ofString (String.ofList (bs.map fun octet => Char.ofNat octet.toNat)) = bs := by
    intro bs hbs
    rw [Bytes.ofString, String.toList_ofList]
    induction bs with
    | nil => rfl
    | cons b bs ih =>
        rw [List.all_cons, Bool.and_eq_true] at hbs
        rw [List.map_cons, List.flatMap_cons, utf8EncodeChar_letter b hbs.1, ih hbs.2]
        rfl
  have hword := hletters (octets word) h
  rw [← ofString_eq_octets] at hword
  conv_lhs => rw [← Bytes.ofString_inj hword, String.toList_ofList]
  rw [ofString_eq_octets]

theorem all_words_letters :
    words.all (fun word => !(octets word).isEmpty && (octets word).all isLetter) = true := by
  decide +kernel

/-- A word of the list is a word of every text that spells it. -/
theorem isWord_of_mem {word : String} (h : word ∈ words) : Text.IsWord word.toList := by
  have hword := List.all_eq_true.mp all_words_letters word h
  rw [Bool.and_eq_true, Bool.not_eq_true', List.isEmpty_eq_false_iff] at hword
  obtain ⟨hne, hletters⟩ := hword
  rw [toList_of_letters hletters]
  refine ⟨fun hnil => hne (List.map_eq_nil_iff.mp hnil), fun c hc => ?_⟩
  obtain ⟨octet, hoctet, rfl⟩ := List.mem_map.mp hc
  exact isWhiteSpace_letter octet (List.all_eq_true.mp hletters octet hoctet)

/-! ### Places -/

@[simp] theorem length_words : words.length = size := by decide +kernel

/-- The octets of a word with zeros behind them up to eight, as a number: the alphabetical order of
words is the order of these. -/
def rank (word : String) : Nat :=
  Bytes.toNat (octets word) * 256 ^ (8 - (octets word).length)

/-- Whether numbers are in strictly ascending order. -/
def isAscending (numbers : List Nat) : Bool :=
  (numbers.zip numbers.tail).all fun pair => pair.1 < pair.2

theorem isAscending_ranks : isAscending (words.map rank) = true := by decide +kernel

theorem sortedLT_ranks : (words.map rank).SortedLT := by
  rw [List.sortedLT_iff_isChain, List.isChain_iff_getElem]
  intro i hi
  have hzip : i < ((words.map rank).zip (words.map rank).tail).length := by
    rw [List.length_zip, List.length_tail]
    omega
  have hpair := List.all_eq_true.mp isAscending_ranks _ (List.getElem_mem hzip)
  rw [List.getElem_zip, List.getElem_tail, decide_eq_true_iff] at hpair
  exact hpair

theorem nodup_words : words.Nodup := List.Nodup.of_map rank sortedLT_ranks.nodup

theorem place?_eq_some_iff {word : String} {place : Nat} :
    place? word = some place ↔ word? place = some word := by
  unfold place? word?
  rw [List.findIdx?_eq_some_iff_getElem, List.getElem?_eq_some_iff]
  constructor
  · rintro ⟨hlt, hword, _⟩
    exact ⟨hlt, eq_of_beq hword⟩
  · rintro ⟨hlt, rfl⟩
    refine ⟨hlt, beq_self_eq_true _, fun earlier hearlier hsame => ?_⟩
    have heq := nodup_words.getElem_inj_iff.mp (eq_of_beq hsame)
    omega

theorem word?_isSome_iff {place : Nat} : (word? place).isSome = true ↔ place < size := by
  rw [word?, isSome_getElem?, length_words]

theorem mem_of_word? {place : Nat} {word : String} (h : word? place = some word) :
    word ∈ words := List.mem_of_getElem? h

theorem contains_iff_mem {word : String} : contains word = true ↔ word ∈ words := by
  rw [contains, place?, List.findIdx?_isSome, List.any_beq', List.contains_iff_mem]

/-! ### Rows -/

section rows
variable {row : List String} {places : List Nat}

theorem map_place?_eq_iff : row.map place? = places.map some ↔ places.map word? = row.map some := by
  induction row generalizing places with
  | nil => cases places <;> simp
  | cons word row ih =>
      cases places with
      | nil => simp
      | cons place places =>
          rw [List.map_cons, List.map_cons, List.cons.injEq, List.map_cons, List.map_cons,
            List.cons.injEq, place?_eq_some_iff, ih]

/-- Numbers below the size of the list are the places of a row of words. -/
theorem map_some_filterMap_word? (h : ∀ place ∈ places, place < size) :
    (places.filterMap word?).map some = places.map word? := by
  induction places with
  | nil => rfl
  | cons place places ih =>
      obtain ⟨hplace, hplaces⟩ := List.forall_mem_cons.mp h
      obtain ⟨word, hword⟩ := Option.isSome_iff_exists.mp (word?_isSome_iff.mpr hplace)
      rw [List.filterMap_cons_some hword, List.map_cons, List.map_cons, ih hplaces, hword]

theorem lt_size_of_map_word? (h : places.map word? = row.map some) :
    ∀ place ∈ places, place < size := by
  intro place hplace
  have hword : word? place ∈ row.map some := by
    rw [← h]
    exact List.mem_map_of_mem hplace
  obtain ⟨word, _, heq⟩ := List.mem_map.mp hword
  exact word?_isSome_iff.mp (Option.isSome_iff_exists.mpr ⟨word, heq.symm⟩)

theorem mem_words_of_map_word? (h : places.map word? = row.map some) :
    ∀ word ∈ row, word ∈ words := by
  intro word hword
  have hplace : some word ∈ places.map word? := by
    rw [h]
    exact List.mem_map_of_mem hword
  obtain ⟨place, _, heq⟩ := List.mem_map.mp hplace
  exact mem_of_word? heq

end rows
end DidKeys.Wordlist
