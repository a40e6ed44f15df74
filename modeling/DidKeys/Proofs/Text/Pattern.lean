import Mathlib.Computability.RegularExpressions

/-! # Patterns

Regular expressions over characters: a text itself (`exactly`), any one of some characters
(`oneOf`), and whatever a pattern takes, once or more (`oneOrMore`).  Beside each stands which texts
it takes; a pattern that is repeated takes the rows of what it takes once (`mem_oneOrMore`,
`mem_pow`).

The meaning of a pattern is the language of its regular expression and mentions no matcher. -/

namespace DidKeys.Text.Pattern

/-- The pattern of one text. -/
def exactly (text : String) : RegularExpression Char := (text.toList.map .char).prod

/-- The pattern of any one of some characters. -/
def oneOf (chars : String) : RegularExpression Char := (chars.toList.map .char).sum

/-- A pattern, once or more. -/
def oneOrMore (pattern : RegularExpression Char) : RegularExpression Char :=
  pattern * pattern.star

section
variable {text chars : String} {cs : List Char} {pattern : RegularExpression Char}

theorem mem_exactly : cs ∈ (exactly text).matches' ↔ cs = text.toList := by
  unfold exactly
  induction text.toList generalizing cs with
  | nil => exact Language.mem_one cs
  | cons c text ih =>
      rw [List.map_cons, List.prod_cons, RegularExpression.matches'_mul, Language.mem_mul]
      simp only [ih]
      constructor
      · rintro ⟨_, rfl, _, rfl, rfl⟩
        rfl
      · rintro rfl
        exact ⟨[c], rfl, text, rfl, rfl⟩

theorem mem_oneOf : cs ∈ (oneOf chars).matches' ↔ ∃ c ∈ chars.toList, cs = [c] := by
  unfold oneOf
  induction chars.toList with
  | nil => exact iff_of_false (Language.notMem_zero cs) fun ⟨_, hc, _⟩ => nomatch hc
  | cons d chars ih =>
      rw [List.map_cons, List.sum_cons, RegularExpression.matches'_add, Language.mem_add, ih,
        List.exists_mem_cons_iff]
      rfl

/-! ### Repetition -/

/-- A list of things that were made one by one was made of a list. -/
theorem forall_mem_exists_iff {α β : Type} {P : α → Prop} {make : α → β} {bs : List β} :
    (∀ b ∈ bs, ∃ a, P a ∧ b = make a) ↔
      ∃ as : List α, (∀ a ∈ as, P a) ∧ bs = as.map make := by
  induction bs with
  | nil => exact iff_of_true (List.forall_mem_nil _) ⟨[], List.forall_mem_nil _, rfl⟩
  | cons b bs ih =>
      rw [List.forall_mem_cons, ih]
      constructor
      · rintro ⟨⟨a, ha, rfl⟩, as, has, rfl⟩
        exact ⟨a :: as, List.forall_mem_cons.mpr ⟨ha, has⟩, rfl⟩
      · rintro ⟨as, has, hbs⟩
        obtain ⟨a, as, rfl, rfl, rfl⟩ := List.map_eq_cons_iff.mp hbs.symm
        obtain ⟨ha, has⟩ := List.forall_mem_cons.mp has
        exact ⟨⟨a, ha, rfl⟩, as, has, rfl⟩

section repetition
variable {α : Type} {P : α → Prop} {make : α → List Char}

/-- A pattern that takes what is made of some things takes rows of it when it is repeated. -/
theorem mem_oneOrMore (h : ∀ cs, cs ∈ pattern.matches' ↔ ∃ a, P a ∧ cs = make a) :
    cs ∈ (oneOrMore pattern).matches' ↔
      ∃ as : List α, as ≠ [] ∧ (∀ a ∈ as, P a) ∧ cs = as.flatMap make := by
  rw [oneOrMore, RegularExpression.matches'_mul, RegularExpression.matches'_star, Language.mem_mul]
  constructor
  · rintro ⟨piece, hpiece, _, hrest, rfl⟩
    obtain ⟨pieces, rfl, hpieces⟩ := Language.mem_kstar.mp hrest
    simp only [h] at hpiece hpieces
    obtain ⟨a, ha, rfl⟩ := hpiece
    obtain ⟨as, has, rfl⟩ := forall_mem_exists_iff.mp hpieces
    exact ⟨a :: as, List.cons_ne_nil _ _, List.forall_mem_cons.mpr ⟨ha, has⟩, rfl⟩
  · rintro ⟨as, hne, hall, rfl⟩
    obtain ⟨a, as, rfl⟩ := List.exists_cons_of_ne_nil hne
    obtain ⟨ha, has⟩ := List.forall_mem_cons.mp hall
    refine ⟨make a, (h _).mpr ⟨a, ha, rfl⟩, (as.map make).flatten, Language.join_mem_kstar ?_, rfl⟩
    simp only [h]
    exact forall_mem_exists_iff.mpr ⟨as, has, rfl⟩

theorem mem_pow {count : Nat} (h : ∀ cs, cs ∈ pattern.matches' ↔ ∃ a, P a ∧ cs = make a) :
    cs ∈ (pattern ^ count).matches' ↔
      ∃ as : List α, as.length = count ∧ (∀ a ∈ as, P a) ∧ cs = as.flatMap make := by
  rw [RegularExpression.matches'_pow, Language.mem_pow]
  simp only [h, forall_mem_exists_iff]
  constructor
  · rintro ⟨_, rfl, rfl, as, has, rfl⟩
    exact ⟨as, (List.length_map _).symm, has, rfl⟩
  · rintro ⟨as, rfl, has, rfl⟩
    exact ⟨as.map make, rfl, List.length_map _, as, has, rfl⟩

end repetition

theorem mem_oneOrMore_oneOf :
    cs ∈ (oneOrMore (oneOf chars)).matches' ↔ cs ≠ [] ∧ ∀ c ∈ cs, c ∈ chars.toList := by
  rw [mem_oneOrMore fun _ => mem_oneOf]
  simp only [List.flatMap_singleton', ← and_assoc, exists_eq_right']

theorem mem_oneOf_pow {count : Nat} :
    cs ∈ (oneOf chars ^ count).matches' ↔ cs.length = count ∧ ∀ c ∈ cs, c ∈ chars.toList := by
  rw [mem_pow fun _ => mem_oneOf]
  simp only [List.flatMap_singleton', ← and_assoc, exists_eq_right']

end
end DidKeys.Text.Pattern
