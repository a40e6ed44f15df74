import DidKeys.Proofs.Text.NormalForm

/-! # What a version adds to the character database

The normal form of a text depends on what the database says of its characters and of those that they
decompose into, and on nothing else (`normalize_congr`).  Version 18 says what version 17 says of
all characters but those that it adds (`isAdded`): they have the same rows
(`mem_rows_version18_iff`) and the same classes (`isMark_version18_iff`).  No other character
decomposes into one that is added (`isAdded_of_decomposes`).  So a text without added characters
has the normal form that it has by version 17 (`isNormalForm_version18_iff`). -/

namespace DidKeys.Text

open CharacterDatabase

/-! ### Databases that agree -/

section congr
variable {db other : CharacterDatabase} {c d : Char} {text : List Char}

theorem mem_insertMark : d ∈ insertMark db c text ↔ d = c ∨ d ∈ text := by
  induction text with
  | nil =>
      rw [insertMark, List.mem_cons]
  | cons e text ih =>
      by_cases h : Reorderable db c e
      · rw [insertMark_of_reorderable h, List.mem_cons, ih, List.mem_cons]
        exact or_left_comm
      · rw [insertMark_of_not_reorderable h, List.mem_cons]

theorem mem_reorder : d ∈ reorder db text ↔ d ∈ text := by
  induction text with
  | nil =>
      rfl
  | cons c text ih =>
      change d ∈ insertMark db c (reorder db text) ↔ d ∈ c :: text
      rw [mem_insertMark, ih, List.mem_cons]

theorem insertMark_congr (hc : db.combiningClass c = other.combiningClass c)
    (h : ∀ d ∈ text, db.combiningClass d = other.combiningClass d) :
    insertMark db c text = insertMark other c text := by
  induction text with
  | nil =>
      rfl
  | cons d text ih =>
      obtain ⟨hd, htext⟩ := List.forall_mem_cons.mp h
      rw [insertMark, insertMark, hc, hd, ih htext]

theorem reorder_congr (h : ∀ c ∈ text, db.combiningClass c = other.combiningClass c) :
    reorder db text = reorder other text := by
  induction text with
  | nil =>
      rfl
  | cons c text ih =>
      obtain ⟨hc, htext⟩ := List.forall_mem_cons.mp h
      change insertMark db c (reorder db text) = insertMark other c (reorder other text)
      rw [← ih htext]
      exact insertMark_congr hc fun d hd => htext d (mem_reorder.mp hd)

/-- Databases that agree on a text, and on what it decomposes into, give it the same normal form. -/
theorem normalize_congr {text : String}
    (hdecompose : ∀ c ∈ text.toList, decompose db c = decompose other c)
    (hclass : ∀ c ∈ text.toList, ∀ d ∈ decompose db c,
      db.combiningClass d = other.combiningClass d) :
    normalize db text = normalize other text := by
  have hpieces : text.toList.flatMap (decompose db) = text.toList.flatMap (decompose other) :=
    List.flatMap_congr hdecompose
  change String.ofList (reorder db _) = String.ofList (reorder other _)
  rw [← hpieces, reorder_congr]
  intro d hd
  obtain ⟨c, hc, hd⟩ := List.mem_flatMap.mp hd
  exact hclass c hc d hd

end congr

/-! ### Added characters -/

/-- Whether version 18 adds a row or a class for a code point. -/
def isAdded (code : Nat) : Bool :=
  addedRows.any (·.1 == code) ||
    addedRanges.any fun (first, last, _) => first ≤ code && code ≤ last

/-- Whether a text has an added character. -/
def hasAdded (text : String) : Bool := text.toList.any fun c => isAdded c.toNat

theorem forall_addedRows_toNat : ∀ row ∈ addedRows, (Char.ofNat row.1).toNat = row.1 := by
  decide +kernel

section added
variable {c : Char} {form : List Char} {mark : Nat}

theorem mem_rows_version18_iff (h : isAdded c.toNat = false) :
    (c, form) ∈ version18.rows ↔ (c, form) ∈ version17.rows := by
  change (c, form) ∈ (addEntries Prod.fst addedRows version17Rows).map rowOfNumbers ↔
    (c, form) ∈ version17Rows.map rowOfNumbers
  rw [List.mem_map, List.mem_map]
  simp only [mem_addEntries, or_and_right, exists_or]
  refine or_iff_right ?_
  rintro ⟨row, hmem, hrow⟩
  have hchar : Char.ofNat row.1 = c := congrArg Prod.fst hrow
  have hcode : c.toNat = row.1 := by
    rw [← hchar]
    exact forall_addedRows_toNat row hmem
  have hadded : isAdded c.toNat = true := by
    rw [isAdded, Bool.or_eq_true, List.any_eq_true]
    exact .inl ⟨row, hmem, beq_iff_eq.mpr hcode.symm⟩
  rw [h] at hadded
  cases hadded

theorem isMark_version18_iff (h : isAdded c.toNat = false) :
    IsMark version18 c mark ↔ IsMark version17 c mark := by
  constructor
  · rintro ⟨first, last, hmem, hrange⟩
    rcases mem_addEntries.mp hmem with hmem | hmem
    · have hadded : isAdded c.toNat = true := by
        rw [isAdded, Bool.or_eq_true, List.any_eq_true, List.any_eq_true]
        exact .inr ⟨_, hmem, by simpa using hrange⟩
      rw [h] at hadded
      cases hadded
    · exact ⟨first, last, hmem, hrange⟩
  · rintro ⟨first, last, hmem, hrange⟩
    exact ⟨first, last, mem_addEntries.mpr (.inr hmem), hrange⟩

theorem combiningClass_version18 (h : isAdded c.toNat = false) :
    version18.combiningClass c = version17.combiningClass c := by
  have hsame : ∀ mark, 0 < mark →
      (version18.combiningClass c = mark ↔ version17.combiningClass c = mark) := by
    intro mark hmark
    rw [combiningClass_eq_iff hmark, combiningClass_eq_iff hmark]
    exact isMark_version18_iff h
  rcases Nat.eq_zero_or_pos (version17.combiningClass c) with hzero | hpos
  · rcases Nat.eq_zero_or_pos (version18.combiningClass c) with hzero' | hpos
    · rw [hzero, hzero']
    · exact ((hsame _ hpos).mp rfl).symm
  · exact (hsame _ hpos).mpr rfl

theorem decompose_version18 (h : isAdded c.toNat = false) :
    decompose version18 c = decompose version17 c := by
  have hrow : version18.decomposition? c = version17.decomposition? c := by
    ext form
    rw [decomposition?_eq_some_iff, decomposition?_eq_some_iff, mem_rows_version18_iff h]
  rw [decompose, decompose, hrow]

end added

/-! ### What characters decompose into -/

/-- Ranges of code points without added ones, a first and a last one each. -/
def keptRanges : List (Nat × Nat) :=
  [(0, 0x557), (0x559, 0x58a), (0x58d, 0x5c7), (0x5ca, 0x1add), (0x1af1, 0x209c),
    (0x20a0, 0x107ba), (0x10efa, 0x1b122), (0x1d129, 0x1d24f), (0x1d6a7, 0x1df94),
    (0x1e000, 0x10ffff)]

/-- Whether a code point is in one of these ranges. -/
def isKept (code : Nat) : Bool :=
  keptRanges.any fun (first, last) => first ≤ code && code ≤ last

theorem forall_keptRanges_apart : ∀ range ∈ keptRanges,
    (∀ row ∈ addedRows, row.1 < range.1 ∨ range.2 < row.1) ∧
      ∀ added ∈ addedRanges, added.2.1 < range.1 ∨ range.2 < added.1 := by
  decide +kernel

theorem isAdded_of_isKept {code : Nat} (h : isKept code = true) : isAdded code = false := by
  obtain ⟨range, hrange, hcode⟩ := List.any_eq_true.mp h
  obtain ⟨hrows, hranges⟩ := forall_keptRanges_apart range hrange
  rw [Bool.and_eq_true, decide_eq_true_iff, decide_eq_true_iff] at hcode
  rw [isAdded, Bool.or_eq_false_iff, List.any_eq_false, List.any_eq_false]
  constructor
  · intro row hrow heq
    have hapart := hrows row hrow
    rw [beq_iff_eq] at heq
    omega
  · rintro ⟨first, last, _⟩ hadded hin
    have hapart : last < range.1 ∨ range.2 < first := hranges _ hadded
    rw [Bool.and_eq_true, decide_eq_true_iff, decide_eq_true_iff] at hin
    omega

theorem all_version17Rows_isKept :
    (version17Rows.all fun row => row.2.all fun code => isKept (Char.ofNat code).toNat) = true := by
  decide +kernel

/-- The letters of syllables are not added. -/
theorem isKept_letter {code : Nat} (hfirst : 0x1100 ≤ code) (hlast : code < 0x1200) :
    isKept (Char.ofNat code).toNat = true := by
  have hvalid : code.isValidChar := .inl (by omega)
  have hcode : (Char.ofNat code).toNat = code := by
    rw [Char.ofNat, dif_pos hvalid]
    rfl
  rw [hcode, isKept, List.any_eq_true]
  refine ⟨(0x5ca, 0x1add), by decide, ?_⟩
  rw [Bool.and_eq_true, decide_eq_true_iff, decide_eq_true_iff]
  omega

theorem isAdded_of_decomposes {c : Char} {form : List Char} (hform : Decomposes version17 c form)
    (h : isAdded c.toNat = false) : ∀ d ∈ form, isAdded d.toNat = false := by
  cases hform with
  | row other mem =>
      obtain ⟨row, hrow, hform⟩ := List.mem_map.mp mem
      obtain rfl : row.2.map Char.ofNat = form := congrArg Prod.snd hform
      have hcodes := List.all_eq_true.mp all_version17Rows_isKept row hrow
      intro d hd
      obtain ⟨code, hcode, rfl⟩ := List.mem_map.mp hd
      exact isAdded_of_isKept (List.all_eq_true.mp hcodes code hcode)
  | syllable leading vowel trailing leading_lt vowel_lt trailing_lt count =>
      refine List.forall_mem_cons.mpr ⟨isAdded_of_isKept (isKept_letter (by omega) (by omega)), ?_⟩
      refine List.forall_mem_cons.mpr ⟨isAdded_of_isKept (isKept_letter (by omega) (by omega)), ?_⟩
      by_cases hnone : trailing = 0
      · rw [if_pos hnone]
        exact List.forall_mem_nil _
      · rw [if_neg hnone]
        exact List.forall_mem_singleton.mpr
          (isAdded_of_isKept (isKept_letter (by omega) (by omega)))
  | itself other absent =>
      exact List.forall_mem_singleton.mpr h

/-- A text without added characters has the same normal form by both versions. -/
theorem isNormalForm_version18_iff {text form : String} (hadded : hasAdded text = false) :
    IsNormalForm version18 text form ↔ IsNormalForm version17 text form := by
  have h : ∀ c ∈ text.toList, isAdded c.toNat = false := by
    intro c hc
    exact Bool.eq_false_iff.mpr (List.any_eq_false.mp hadded c hc)
  have hsame : normalize version18 text = normalize version17 text := by
    refine normalize_congr (fun c hc => decompose_version18 (h c hc)) fun c hc d hd => ?_
    rw [decompose_version18 (h c hc)] at hd
    exact combiningClass_version18 (isAdded_of_decomposes (decomposes_iff.mpr rfl) (h c hc) d hd)
  rw [isNormalForm_iff, isNormalForm_iff, hsame]

end DidKeys.Text
