import DidKeys.Json.Reader

/-! # Spelled strings

What stands between the quotes of a string spells code points (`Spells`), and these are the
characters of a text once the halves of pairs are joined (`Joins`).

* `Spells.scanString`, `spells_of_scanString`: a spelling is taken off up to its closing quote, and
  nothing else is.
* `Means` is the text that a spelling stands for, `means_iff` says that it is what is read there.
* `means_escape`: every text has a spelling. -/

namespace DidKeys.Json

/-- The characters between two quotes, and the code points that they spell. -/
inductive Spells : List Char → List Nat → Prop where
  | nil : Spells [] []
  /-- A character that is no control stands for itself. -/
  | plain {c : Char} {cs : List Char} {vs : List Nat} (visible : 0x20 ≤ c.toNat)
      (no_quote : c ≠ '"') (no_escape : c ≠ '\\') (rest : Spells cs vs) :
      Spells (c :: cs) (c.toNat :: vs)
  /-- A letter behind a backslash stands for one character. -/
  | letter {e c : Char} {cs : List Char} {vs : List Nat} (named : escapedChar? e = some c)
      (rest : Spells cs vs) : Spells ('\\' :: e :: cs) (c.toNat :: vs)
  /-- Four digits behind `u` stand for their number, which may be a half of a pair. -/
  | digits {a b c d : Char} {v : Nat} {cs : List Char} {vs : List Nat}
      (number : hexValue4? a b c d = some v) (rest : Spells cs vs) :
      Spells ('\\' :: 'u' :: a :: b :: c :: d :: cs) (v :: vs)

/-- Code points, and the characters that they are once the halves of pairs are joined. -/
inductive Joins : List Nat → List Char → Prop where
  | nil : Joins [] []
  | char {vs : List Nat} {cs : List Char} (c : Char) (rest : Joins vs cs) :
      Joins (c.toNat :: vs) (c :: cs)
  | pair {high low : Nat} {vs : List Nat} {cs : List Char} (is_high : isHigh high = true)
      (is_low : isLow low = true) (rest : Joins vs cs) :
      Joins (high :: low :: vs)
        (Char.ofNat (0x10000 + (high - 0xD800) * 0x400 + (low - 0xDC00)) :: cs)

/-- The text that a spelling stands for. -/
def Means (spelling : List Char) (text : String) : Prop :=
  ∃ vs, Spells spelling vs ∧ Joins vs text.toList

/-! ### Code points -/

section spelling
variable {spelling rest : List Char} {vs : List Nat} {text : List Char}

theorem escapedChar?_ne_u {e c : Char} (h : escapedChar? e = some c) : e ≠ 'u' := by
  rintro rfl
  cases h

theorem Spells.codePoints? (h : Spells spelling vs) : codePoints? spelling = some vs := by
  induction h with
  | nil =>
      rfl
  | plain _ _ no_escape _ ih =>
      rw [codePoints?_cons no_escape, ih]
      rfl
  | letter named _ ih =>
      rw [codePoints?_letter (escapedChar?_ne_u named) named, ih]
      rfl
  | digits number _ ih =>
      rw [codePoints?_digits number, ih]
      rfl

theorem hexValue4?_lt {a b c d : Char} {v : Nat} (h : hexValue4? a b c d = some v) :
    v < 0x10000 := by
  have hdigit : ∀ {e : Char} {w : Nat}, hexValue? e = some w → w < 16 := by
    intro e w he
    unfold hexValue? at he
    grind
  simp only [hexValue4?, Option.bind_eq_bind, Option.bind_eq_some_iff, Option.pure_def,
    Option.some.injEq] at h
  obtain ⟨w₃, h₃, w₂, h₂, w₁, h₁, w₀, h₀, rfl⟩ := h
  have := hdigit h₃
  have := hdigit h₂
  have := hdigit h₁
  have := hdigit h₀
  omega

theorem toNat_lt_of_char (c : Char) : c.toNat < 0x110000 := by
  have h := c.valid
  simp only [UInt32.isValidChar, Nat.isValidChar] at h
  simp only [Char.toNat]
  omega

/-- Whatever is spelled is the number of a character or of a half of a pair. -/
theorem Spells.lt (h : Spells spelling vs) : ∀ v ∈ vs, v < 0x110000 := by
  induction h with
  | nil =>
      exact List.forall_mem_nil _
  | plain _ _ _ _ ih =>
      exact List.forall_mem_cons.mpr ⟨toNat_lt_of_char _, ih⟩
  | letter _ _ ih =>
      exact List.forall_mem_cons.mpr ⟨toNat_lt_of_char _, ih⟩
  | digits number _ ih =>
      have hlt := hexValue4?_lt number
      exact List.forall_mem_cons.mpr ⟨by omega, ih⟩

/-! ### Pairs -/

theorem joinPairs?_pair {high low : Nat} (hh : isHigh high = true) (hl : isLow low = true)
    (vs : List Nat) :
    joinPairs? (high :: low :: vs) = (joinPairs? vs).map
      (Char.ofNat (0x10000 + (high - 0xD800) * 0x400 + (low - 0xDC00)) :: ·) := by
  have hnot : isLow high = false := by
    simp only [isHigh, isLow, Bool.and_eq_true, Bool.and_eq_false_iff, decide_eq_true_eq,
      decide_eq_false_iff_not] at hh ⊢
    omega
  simp [joinPairs?, hh, hl, hnot]

theorem Joins.joinPairs? (h : Joins vs text) : joinPairs? vs = some text := by
  induction h with
  | nil =>
      rfl
  | char c _ ih =>
      obtain ⟨hh, hl⟩ := isHalf_toNat c
      rw [joinPairs?_cons hh hl, ih, Char.ofNat_toNat]
      rfl
  | pair is_high is_low _ ih =>
      rw [joinPairs?_pair is_high is_low, ih]
      rfl

theorem toNat_ofNat_of_not_half {v : Nat} (hlt : v < 0x110000) (hh : isHigh v = false)
    (hl : isLow v = false) : (Char.ofNat v).toNat = v := by
  have hvalid : v.isValidChar := by
    simp only [isHigh, isLow, Bool.and_eq_false_iff, decide_eq_false_iff_not] at hh hl
    simp only [Nat.isValidChar]
    omega
  rw [Char.ofNat, dif_pos hvalid]
  rfl

/-- Joining the halves of pairs finds what the characters are. -/
theorem joins_of_joinPairs? (hlt : ∀ v ∈ vs, v < 0x110000) (h : joinPairs? vs = some text) :
    Joins vs text := by
  have hchar : ∀ {v : Nat} {vs : List Nat} {text : List Char}, v < 0x110000 → isHigh v = false →
      isLow v = false → Joins vs text → Joins (v :: vs) (Char.ofNat v :: text) := by
    intro v vs text hlt hh hl hrest
    have hjoins := Joins.char (Char.ofNat v) hrest
    rwa [toNat_ofNat_of_not_half hlt hh hl] at hjoins
  fun_induction joinPairs? vs generalizing text with
  | case1 =>
      cases h
      exact .nil
  | case2 | case4 | case6 =>
      cases h
  | case3 v hhalf =>
      cases h
      rw [Bool.or_eq_true, not_or, Bool.not_eq_true, Bool.not_eq_true] at hhalf
      exact hchar (hlt v (List.mem_singleton_self v)) hhalf.1 hhalf.2 .nil
  | case5 high low vs _ is_high is_low ih =>
      obtain ⟨rest, hrest, rfl⟩ := Option.map_eq_some_iff.mp h
      have htail := (List.forall_mem_cons.mp (List.forall_mem_cons.mp hlt).2).2
      exact .pair is_high is_low (ih htail hrest)
  | case7 v w vs hlow hhigh ih =>
      obtain ⟨rest, hrest, rfl⟩ := Option.map_eq_some_iff.mp h
      obtain ⟨hv, htail⟩ := List.forall_mem_cons.mp hlt
      exact hchar hv (Bool.not_eq_true _ ▸ hhigh) (Bool.not_eq_true _ ▸ hlow) (ih htail hrest)

/-- The text that a spelling stands for. -/
theorem unescape?_eq_some_iff (h : Spells spelling vs) :
    unescape? spelling = some text ↔ Joins vs text := by
  rw [unescape?, h.codePoints?, Option.bind_eq_bind, Option.bind_some]
  exact ⟨joins_of_joinPairs? h.lt, Joins.joinPairs?⟩

/-! ### Taking a spelling off -/

theorem scanString_plain {c : Char} (visible : 0x20 ≤ c.toNat) (no_quote : c ≠ '"')
    (no_escape : c ≠ '\\') (cs : List Char) :
    scanString (c :: cs) =
      (scanString cs).map fun (spelling, rest) => (c :: spelling, rest) := by
  rw [scanString]
  · exact if_neg (Nat.not_lt.mpr visible)
  · exact no_quote
  · rintro - - - - - rfl
    exact absurd rfl no_escape
  · rintro - - rfl
    exact absurd rfl no_escape

theorem scanString_letter {e c : Char} (named : escapedChar? e = some c) (cs : List Char) :
    scanString ('\\' :: e :: cs) =
      (scanString cs).map fun (spelling, rest) => ('\\' :: e :: spelling, rest) := by
  rw [scanString]
  · rw [named]
    cases scanString cs <;> rfl
  · rintro - - - - - rfl
    exact absurd rfl (escapedChar?_ne_u named)

theorem scanString_digits {a b c d : Char} {v : Nat} (number : hexValue4? a b c d = some v)
    (cs : List Char) :
    scanString ('\\' :: 'u' :: a :: b :: c :: d :: cs) = (scanString cs).map
      fun (spelling, rest) => ('\\' :: 'u' :: a :: b :: c :: d :: spelling, rest) := by
  rw [scanString, number]
  cases scanString cs <;> rfl

/-- A spelling is taken off up to the first quote behind it. -/
theorem Spells.scanString (h : Spells spelling vs) (rest : List Char) :
    scanString (spelling ++ '"' :: rest) = some (spelling, rest) := by
  induction h with
  | nil =>
      rfl
  | plain visible no_quote no_escape _ ih =>
      rw [List.cons_append, scanString_plain visible no_quote no_escape, ih]
      rfl
  | letter named _ ih =>
      rw [List.cons_append, List.cons_append, scanString_letter named, ih]
      rfl
  | digits number _ ih =>
      rw [List.cons_append, List.cons_append, List.cons_append, List.cons_append,
        List.cons_append, List.cons_append, scanString_digits number, ih]
      rfl

/-- Nothing else is taken off. -/
theorem spells_of_scanString {cs : List Char} (h : scanString cs = some (spelling, rest)) :
    cs = spelling ++ '"' :: rest ∧ ∃ vs, Spells spelling vs := by
  fun_induction Json.scanString cs generalizing spelling with
  | case1 | case5 =>
      cases h
  | case2 cs =>
      cases h
      exact ⟨rfl, _, .nil⟩
  | case3 a b c d cs ih =>
      obtain ⟨v, hv, h⟩ := Option.bind_eq_some_iff.mp h
      obtain ⟨⟨tail, _⟩, htail, h⟩ := Option.bind_eq_some_iff.mp h
      cases h
      obtain ⟨rfl, vs, hvs⟩ := ih htail
      exact ⟨rfl, _, .digits hv hvs⟩
  | case4 e cs _ ih =>
      obtain ⟨c, hc, h⟩ := Option.bind_eq_some_iff.mp h
      obtain ⟨⟨tail, _⟩, htail, h⟩ := Option.bind_eq_some_iff.mp h
      cases h
      obtain ⟨rfl, vs, hvs⟩ := ih htail
      exact ⟨rfl, _, .letter hc hvs⟩
  | case6 c cs no_quote _ no_escape visible ih =>
      obtain ⟨⟨tail, _⟩, htail, h⟩ := Option.map_eq_some_iff.mp h
      cases h
      obtain ⟨rfl, vs, hvs⟩ := ih htail
      refine ⟨rfl, _, .plain (Nat.not_lt.mp visible) no_quote ?_ hvs⟩
      rintro rfl
      -- a backslash at the end would leave no closing quote
      cases tail with
      | nil => exact no_escape _ _ rfl rfl
      | cons e tail => exact no_escape _ _ rfl rfl

/-! ### Spelling a text -/

theorem spells_escapeChar_append (c : Char) (h : Spells spelling vs) :
    Spells (escapeChar c ++ spelling) (c.toNat :: vs) := by
  unfold escapeChar
  split
  · next hc => rcases hc with rfl | rfl <;> exact .letter rfl h
  · next hc =>
    obtain ⟨no_quote, no_escape⟩ := not_or.mp hc
    split
    · next heq => subst heq; exact .letter rfl h
    split
    · next heq => subst heq; exact .letter rfl h
    split
    · next heq => subst heq; exact .letter rfl h
    split
    · next heq => subst heq; exact .letter rfl h
    split
    · next heq => subst heq; exact .letter rfl h
    split
    · exact .digits (hexValue4?_hexDigit (by omega)) h
    · next hvisible => exact .plain (Nat.not_lt.mp hvisible) no_quote no_escape h

/-- The spelling of a text spells its characters. -/
theorem spells_escape (text : List Char) : Spells (escape text) (text.map Char.toNat) := by
  induction text with
  | nil => exact .nil
  | cons c text ih => exact spells_escapeChar_append c ih

theorem joins_toNat (text : List Char) : Joins (text.map Char.toNat) text := by
  induction text with
  | nil => exact .nil
  | cons c text ih => exact .char c ih

theorem means_escape (text : String) : Means (escape text.toList) text :=
  ⟨_, spells_escape _, joins_toNat _⟩

/-- What a spelling stands for is what is read there. -/
theorem means_iff {text : String} (h : ∃ vs, Spells spelling vs) :
    Means spelling text ↔ unescape? spelling = some text.toList := by
  constructor
  · rintro ⟨vs, hspells, hjoins⟩
    exact (unescape?_eq_some_iff hspells).mpr hjoins
  · obtain ⟨vs, hspells⟩ := h
    exact fun hread => ⟨vs, hspells, (unescape?_eq_some_iff hspells).mp hread⟩

/-- A written text is the only one that its spelling stands for. -/
theorem means_escape_iff {text other : String} :
    Means (escape text.toList) other ↔ text = other := by
  rw [means_iff ⟨_, spells_escape _⟩, unescape?_escape, Option.some.injEq, String.toList_inj]

end spelling
end DidKeys.Json
