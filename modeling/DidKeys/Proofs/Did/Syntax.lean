import DidKeys.Proofs.Did.Layout
import DidKeys.Proofs.Text.Pattern

/-! # The syntax of identifiers

Identifiers and their two forms as regular expressions: `Did.pattern` is
`did:(prism|test)(:[A-Za-z0-9_-]+)+`, and each form is a pattern of its own.

A text is parsed exactly if its pattern takes it (`Did.parse_eq_ok_iff`), and an identifier has a
form exactly if the pattern of the form takes its text (`Did.isCanonicalForm_iff`,
`Did.isLongForm_iff`).  The short form of an identifier is one, and its own short form
(`Did.canonical?_ofSuffix`).  `Did.parse_and_forms_match` says all of this. -/

namespace DidKeys

open Text.Pattern

/-! ### Classes of characters -/

/-- The characters of a part. -/
def partChars : String := "ABCDEFGHIJKLMNOPQRSTUVWXYZabcdefghijklmnopqrstuvwxyz0123456789_-"

/-- The digits of a state hash. -/
def hashDigits : String := "0123456789abcdef"

/-- A class of ASCII characters is the list of them. -/
theorem iff_mem_of_ascii {test : Char → Bool} {chars : String}
    (hbound : ∀ c, test c = true → c.toNat < 128)
    (hchars : chars.toList.all test = true)
    (htable : (((List.range 128).map Char.ofNat).filter test).all chars.toList.contains = true)
    (c : Char) : test c = true ↔ c ∈ chars.toList := by
  constructor
  · intro h
    have hascii : c ∈ (List.range 128).map Char.ofNat :=
      List.mem_map.mpr ⟨c.toNat, List.mem_range.mpr (hbound c h), Char.ofNat_toNat c⟩
    exact List.contains_iff_mem.mp
      (List.all_eq_true.mp htable c (List.mem_filter.mpr ⟨hascii, h⟩))
  · exact List.all_eq_true.mp hchars c

theorem isPartChar_iff_mem (c : Char) : isPartChar c = true ↔ c ∈ partChars.toList := by
  refine iff_mem_of_ascii (fun c h => ?_) (by decide) (by decide) c
  simp only [isPartChar, Bool.or_eq_true, Bool.and_eq_true, decide_eq_true_eq, beq_iff_eq] at h
  rcases h with (((⟨-, hle⟩ | ⟨-, hle⟩) | ⟨-, hle⟩) | rfl) | rfl
  · exact Nat.lt_of_le_of_lt hle (by decide)
  · exact Nat.lt_of_le_of_lt hle (by decide)
  · exact Nat.lt_of_le_of_lt hle (by decide)
  · decide
  · decide

theorem isHashDigit_iff_mem (c : Char) : isHashDigit c = true ↔ c ∈ hashDigits.toList := by
  refine iff_mem_of_ascii (fun c h => ?_) (by decide) (by decide) c
  simp only [isHashDigit, Bool.or_eq_true, Bool.and_eq_true, decide_eq_true_eq] at h
  rcases h with ⟨-, hle⟩ | ⟨-, hle⟩
  · exact Nat.lt_of_le_of_lt hle (by decide)
  · exact Nat.lt_of_le_of_lt hle (by decide)

namespace Did

/-! ### Patterns -/

/-- `[A-Za-z0-9_-]+`. -/
def partPattern : RegularExpression Char := oneOrMore (oneOf partChars)

/-- `[0-9a-f]{64}`. -/
def hashPattern : RegularExpression Char := oneOf hashDigits ^ 64

/-- `did:(prism|test)(:[A-Za-z0-9_-]+)+`. -/
def pattern : RegularExpression Char :=
  exactly "did:" * (exactly "prism" + exactly "test") * oneOrMore (exactly ":" * partPattern)

/-- `did:prism:[0-9a-f]{64}`. -/
def canonicalPattern : RegularExpression Char := exactly "did:prism:" * hashPattern

/-- `did:prism:[0-9a-f]{64}:[A-Za-z0-9_-]+`. -/
def longPattern : RegularExpression Char := canonicalPattern * (exactly ":" * partPattern)

section patterns
variable {cs : List Char}

theorem mem_partPattern : cs ∈ partPattern.matches' ↔ isPart cs = true := by
  rw [partPattern, mem_oneOrMore_oneOf, isPart, Bool.and_eq_true, Bool.not_eq_true',
    List.isEmpty_eq_false_iff, List.all_eq_true]
  simp only [isPartChar_iff_mem]

theorem mem_hashPattern : cs ∈ hashPattern.matches' ↔ isStateHash cs = true := by
  rw [hashPattern, mem_oneOf_pow, isStateHash, Bool.and_eq_true, List.all_eq_true, beq_iff_eq]
  simp only [isHashDigit_iff_mem]
  rfl

theorem mem_exactly_mul {text : String} {rest : RegularExpression Char} :
    cs ∈ (exactly text * rest).matches' ↔ ∃ after ∈ rest.matches', cs = text.toList ++ after := by
  rw [RegularExpression.matches'_mul, Language.mem_mul]
  simp only [mem_exactly, exists_eq_left, eq_comm]

theorem mem_canonicalPattern :
    cs ∈ canonicalPattern.matches' ↔
      ∃ hash, isStateHash hash = true ∧ cs = prismHead.toList ++ hash := by
  rw [canonicalPattern, mem_exactly_mul]
  simp only [mem_hashPattern]
  rfl

theorem mem_longPattern :
    cs ∈ longPattern.matches' ↔ ∃ hash state, isStateHash hash = true ∧ isPart state = true ∧
      cs = prismHead.toList ++ (hash ++ ':' :: state) := by
  rw [longPattern, RegularExpression.matches'_mul, Language.mem_mul]
  simp only [mem_canonicalPattern, mem_exactly_mul, mem_partPattern]
  constructor
  · rintro ⟨_, ⟨hash, hhash, rfl⟩, _, ⟨state, hstate, rfl⟩, rfl⟩
    exact ⟨hash, state, hhash, hstate, List.append_assoc ..⟩
  · rintro ⟨hash, state, hhash, hstate, rfl⟩
    exact ⟨_, ⟨hash, hhash, rfl⟩, _, ⟨state, hstate, rfl⟩, List.append_assoc ..⟩

theorem mem_pattern :
    cs ∈ pattern.matches' ↔ ∃ head ∈ ["did:prism", "did:test"], ∃ parts : List (List Char),
      parts ≠ [] ∧ (∀ part ∈ parts, isPart part = true) ∧
        cs = head.toList ++ parts.flatMap (':' :: ·) := by
  have hparts : ∀ piece, piece ∈ (exactly ":" * partPattern).matches' ↔
      ∃ part, isPart part = true ∧ piece = ':' :: part := by
    intro piece
    rw [mem_exactly_mul]
    simp only [mem_partPattern]
    rfl
  rw [pattern, RegularExpression.matches'_mul, Language.mem_mul]
  simp only [mem_exactly_mul, RegularExpression.matches'_add, Language.mem_add, mem_exactly,
    mem_oneOrMore hparts]
  constructor
  · rintro ⟨_, ⟨_, rfl | rfl, rfl⟩, _, ⟨parts, hne, hall, rfl⟩, rfl⟩
    · exact ⟨"did:prism", by decide, parts, hne, hall, rfl⟩
    · exact ⟨"did:test", by decide, parts, hne, hall, rfl⟩
  · rintro ⟨head, hhead, parts, hne, hall, rfl⟩
    refine ⟨head.toList, ?_, _, ⟨parts, hne, hall, rfl⟩, rfl⟩
    rcases List.mem_pair.mp hhead with rfl | rfl
    · exact ⟨_, .inl rfl, rfl⟩
    · exact ⟨_, .inr rfl, rfl⟩

end patterns

/-! ### Parsing -/

section parsing
variable {text : String} {did : Did}

theorem afterHead?_eq_some_iff {cs rest : List Char} :
    afterHead? cs = some rest ↔
      ∃ head ∈ ["did:prism", "did:test"], cs = head.toList ++ ':' :: rest := by
  constructor
  · intro h
    rcases Option.or_eq_some_iff.mp h with hprism | ⟨-, htest⟩
    · have hcs := Text.eq_append_of_dropFront? hprism
      exact ⟨"did:prism", by decide, hcs⟩
    · have hcs := Text.eq_append_of_dropFront? htest
      exact ⟨"did:test", by decide, hcs⟩
  · rintro ⟨head, hhead, rfl⟩
    rcases List.mem_pair.mp hhead with rfl | rfl
    · exact Option.or_eq_some_iff.mpr (.inl (Text.dropFront?_append prismHead.toList rest))
    · exact Option.or_eq_some_iff.mpr
        (.inr ⟨rfl, Text.dropFront?_append testHead.toList rest⟩)

/-- What is cut into parts is one part, and then each of the others behind a colon. -/
theorem all_isPart_split_iff {rest : List Char} :
    (Text.split ':' rest).all isPart = true ↔ ∃ parts : List (List Char), parts ≠ [] ∧
      (∀ part ∈ parts, isPart part = true) ∧ ':' :: rest = parts.flatMap (':' :: ·) := by
  constructor
  · intro h
    obtain ⟨part, parts, hsplit⟩ := List.exists_cons_of_ne_nil (Text.split_ne_nil ':' rest)
    have hjoin := Text.join_split ':' rest
    rw [hsplit, Text.join_cons] at hjoin
    rw [hsplit, List.all_eq_true] at h
    exact ⟨part :: parts, List.cons_ne_nil _ _, h, congrArg (':' :: ·) hjoin.symm⟩
  · rintro ⟨parts, hne, hall, hrest⟩
    obtain ⟨part, parts, rfl⟩ := List.exists_cons_of_ne_nil hne
    obtain rfl : rest = part ++ parts.flatMap (':' :: ·) := (List.cons.inj hrest).2
    have hcolon : ∀ piece ∈ part :: parts, ':' ∉ piece := by
      intro piece hpiece
      have hpart := hall piece hpiece
      rw [isPart, Bool.and_eq_true] at hpart
      exact colon_not_mem_of_all hpart.2
    obtain ⟨hfirst, hothers⟩ := List.forall_mem_cons.mp hcolon
    rw [Text.split_append_flatMap hfirst hothers, List.all_eq_true]
    exact hall

/-- The pattern takes a text exactly if a head is taken off it and the rest is cut into parts. -/
theorem mem_pattern_iff_split :
    text.toList ∈ pattern.matches' ↔
      ∃ rest, afterHead? text.toList = some rest ∧ (Text.split ':' rest).all isPart = true := by
  simp only [mem_pattern, afterHead?_eq_some_iff, all_isPart_split_iff]
  constructor
  · rintro ⟨head, hhead, parts, hne, hall, htext⟩
    obtain ⟨part, others, rfl⟩ := List.exists_cons_of_ne_nil hne
    exact ⟨_, ⟨head, hhead, htext⟩, part :: others, hne, hall, rfl⟩
  · rintro ⟨rest, ⟨head, hhead, htext⟩, parts, hne, hall, hrest⟩
    exact ⟨head, hhead, parts, hne, hall, hrest ▸ htext⟩

theorem parse_eq_ok_iff :
    parse text = .ok did ↔ text.toList ∈ pattern.matches' ∧ did.value = text := by
  rw [mem_pattern_iff_split]
  unfold parse
  split
  · next rest hrest =>
    simp only [hrest, Option.some.injEq, exists_eq_left']
    split
    · next hall =>
      rw [and_iff_right hall]
      constructor
      · rintro ⟨⟩
        rfl
      · rintro rfl
        rfl
    · next hall => exact iff_of_false nofun fun h => hall h.1
  · next hnone =>
    refine iff_of_false nofun ?_
    rintro ⟨⟨rest, hrest, -⟩, -⟩
    rw [hnone] at hrest
    cases hrest

theorem parse_eq_error_iff {cause : DidError} :
    parse text = .error cause ↔ text.toList ∉ pattern.matches' ∧ cause = .notDid text := by
  have hok : (∃ did, parse text = .ok did) ↔ text.toList ∈ pattern.matches' := by
    simp only [parse_eq_ok_iff, exists_and_left]
    exact and_iff_left ⟨⟨text⟩, rfl⟩
  rw [← hok]
  unfold parse
  split
  · split
    · exact iff_of_false nofun fun h => h.1 ⟨_, rfl⟩
    · simp [eq_comm]
  · simp [eq_comm]

end parsing

/-! ### Forms -/

section forms
variable {did short : Did} {suffix : String}

theorem eq_iff_toList {other : Did} : did = other ↔ did.value.toList = other.value.toList := by
  rw [String.toList_inj]
  exact ⟨fun h => congrArg Did.value h, fun h => by cases did; cases other; exact congrArg Did.mk h⟩

theorem isCanonicalForm_iff :
    did.isCanonicalForm = true ↔ did.value.toList ∈ canonicalPattern.matches' := by
  have hform : did.isCanonicalForm = true ↔ ∃ suffix, did.format = .canonical suffix := by
    unfold isCanonicalForm
    cases did.format <;> simp
  simp only [hform, format_eq_canonical_iff, mem_canonicalPattern, eq_iff_toList,
    toList_ofParts_none]
  constructor
  · rintro ⟨suffix, hhash, hvalue⟩
    exact ⟨suffix.toList, hhash, hvalue⟩
  · rintro ⟨hash, hhash, hvalue⟩
    refine ⟨String.ofList hash, ?_⟩
    rw [String.toList_ofList]
    exact ⟨hhash, hvalue⟩

theorem isLongForm_iff :
    did.isLongForm = true ↔ did.value.toList ∈ longPattern.matches' := by
  have hform : did.isLongForm = true ↔ ∃ form, did.format = .long form := by
    unfold isLongForm
    cases did.format <;> simp
  simp only [hform, format_eq_long_iff, mem_longPattern, eq_iff_toList, toList_ofParts]
  constructor
  · rintro ⟨form, hhash, hstate, hvalue⟩
    exact ⟨form.stateHash.toList, form.encodedState.toList, hhash, hstate, hvalue⟩
  · rintro ⟨hash, state, hhash, hstate, hvalue⟩
    refine ⟨⟨String.ofList hash, String.ofList state⟩, ?_⟩
    rw [String.toList_ofList, String.toList_ofList]
    exact ⟨hhash, hstate, hvalue⟩

/-- No identifier has two forms. -/
theorem count_forms (did : Did) :
    [did.isCanonicalForm, did.isLongForm, decide (did.format = .unknown)].count true = 1 := by
  unfold isCanonicalForm isLongForm
  cases did.format <;> rfl

/-! ### Short forms -/

theorem isSome_canonicalSuffix?_iff :
    did.canonicalSuffix?.isSome = true ↔ did.format ≠ .unknown := by
  unfold canonicalSuffix?
  cases did.format <;> simp

theorem isSome_canonical?_iff : did.canonical?.isSome = true ↔ did.format ≠ .unknown := by
  rw [canonical?, Option.isSome_map, isSome_canonicalSuffix?_iff]

theorem isStateHash_of_canonicalSuffix? (h : did.canonicalSuffix? = some suffix) :
    isStateHash suffix.toList = true := by
  unfold canonicalSuffix? at h
  split at h
  · next hformat =>
    cases h
    exact (format_eq_canonical_iff.mp hformat).1
  · next hformat =>
    cases h
    exact (format_eq_long_iff.mp hformat).1
  · cases h

theorem format_ofSuffix (h : isStateHash suffix.toList = true) :
    (ofSuffix suffix).format = .canonical suffix :=
  format_eq_canonical_iff.mpr ⟨h, rfl⟩

theorem canonicalSuffix?_ofSuffix (h : isStateHash suffix.toList = true) :
    (ofSuffix suffix).canonicalSuffix? = some suffix := by
  rw [canonicalSuffix?, format_ofSuffix h]

/-- The short form of an identifier is made of a state hash, which both of them have. -/
theorem exists_of_canonical? (h : did.canonical? = some short) :
    ∃ suffix, isStateHash suffix.toList = true ∧ did.canonicalSuffix? = some suffix ∧
      short = ofSuffix suffix := by
  obtain ⟨suffix, hsuffix, rfl⟩ := Option.map_eq_some_iff.mp h
  exact ⟨suffix, isStateHash_of_canonicalSuffix? hsuffix, hsuffix, rfl⟩

theorem canonical?_ofSuffix (h : isStateHash suffix.toList = true) :
    (ofSuffix suffix).canonical? = some (ofSuffix suffix) := by
  rw [canonical?, canonicalSuffix?_ofSuffix h, Option.map_some]

/-- What the beginning was taken off is put back behind it. -/
theorem value_eq_append_suffix {rest : String} (h : did.value = "did:prism:" ++ rest) :
    did.value = "did:prism:" ++ did.suffix := by
  have hdrop : Text.dropFront? prismHead.toList did.value.toList = some rest.toList := by
    rw [h, String.toList_append]
    exact Text.dropFront?_append _ _
  rw [suffix, hdrop]
  dsimp only
  rw [String.ofList_toList]
  exact h

end forms

/-- A text is an identifier exactly if the pattern takes it, and the identifier is the text; any
other text is refused as such.  An identifier has one form and no other, and the forms are those of
their patterns.  It has a short form unless its form is unknown; the short form is an identifier of
that form, with the same hash, and its own short form.  What follows the beginning of an identifier
is its suffix. -/
theorem parse_and_forms_match :
    (∀ (text : String) (did : Did),
      parse text = .ok did ↔ text.toList ∈ pattern.matches' ∧ did.value = text) ∧
    (∀ (text : String) (cause : DidError),
      parse text = .error cause ↔ text.toList ∉ pattern.matches' ∧ cause = .notDid text) ∧
    ∀ did : Did,
      [did.isCanonicalForm, did.isLongForm, decide (did.format = .unknown)].count true = 1 ∧
      (did.isCanonicalForm = true ↔ did.value.toList ∈ canonicalPattern.matches') ∧
      (did.isLongForm = true ↔ did.value.toList ∈ longPattern.matches') ∧
      (did.canonicalSuffix?.isSome = true ↔ did.format ≠ .unknown) ∧
      (did.canonical?.isSome = true ↔ did.format ≠ .unknown) ∧
      (∀ short, did.canonical? = some short →
        parse short.value = .ok short ∧ short.isCanonicalForm = true ∧
        short.isLongForm = false ∧ short.canonicalSuffix? = did.canonicalSuffix? ∧
        short.canonical? = some short) ∧
      ∀ rest, did.value = "did:prism:" ++ rest → did.value = "did:prism:" ++ did.suffix := by
  refine ⟨fun text did => parse_eq_ok_iff, fun text cause => parse_eq_error_iff, fun did =>
    ⟨count_forms did, isCanonicalForm_iff, isLongForm_iff, isSome_canonicalSuffix?_iff,
      isSome_canonical?_iff, fun short hshort => ?_, fun rest => value_eq_append_suffix⟩⟩
  obtain ⟨suffix, hhash, hsuffix, rfl⟩ := exists_of_canonical? hshort
  have hformat := format_ofSuffix hhash
  refine ⟨parse_ofSuffix hhash, ?_, ?_, ?_, canonical?_ofSuffix hhash⟩
  · rw [isCanonicalForm, hformat]
  · rw [isLongForm, hformat]
  · rw [canonicalSuffix?_ofSuffix hhash, hsuffix]

/-- A long identifier, with its short form. -/
theorem parse_and_forms_match_zeros :
    let hash := String.ofList (List.replicate 64 '0')
    let did := ofParts hash (some "AQ-_")
    did.canonical? = some (ofSuffix hash) ∧ did.isLongForm = true ∧
      parse (ofSuffix hash).value = .ok (ofSuffix hash) ∧
      (ofSuffix hash).canonical? = some (ofSuffix hash) ∧
      did.value = "did:prism:" ++ did.suffix := by
  intro hash did
  have hshort : did.canonical? = some (ofSuffix hash) := by decide
  have hlong : did.isLongForm = true := by decide
  obtain ⟨_, _, _, _, _, hcanonical, hrest⟩ := parse_and_forms_match.2.2 did
  obtain ⟨hparse, _, _, _, hsame⟩ := hcanonical _ hshort
  exact ⟨hshort, hlong, hparse, hsame, hrest _ rfl⟩

end Did
end DidKeys
