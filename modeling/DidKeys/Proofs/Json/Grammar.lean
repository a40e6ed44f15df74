import DidKeys.Proofs.Json.Literal
import DidKeys.Proofs.Json.Spelling
import Mathlib.Data.List.DropRight

/-! # Texts of values

`IsText value chars` says that the characters are a text of the value, with any blanks inside, and
`IsJson chars value` allows blanks around it too.  Neither mentions a reader.

* A `Slot` is a place of a value among blanks, a `Member` a place of a name and a value; both hold
  that their blanks are blanks.
* `IsText.head`: how a text of a value begins. -/

namespace DidKeys.Json

/-- Nothing but blanks. -/
def Blank (cs : List Char) : Prop := ∀ c ∈ cs, isBlank c = true

/-- A value and its characters, between blanks. -/
structure Slot where
  before : List Char
  value : Json
  chars : List Char
  after : List Char
  before_blank : Blank before
  after_blank : Blank after

/-- A name, a colon and a value, with blanks between all of them. -/
structure Member where
  before : List Char
  name : List Char
  after : List Char
  slot : Slot
  before_blank : Blank before
  after_blank : Blank after
  name_spelled : ∃ vs, Spells name vs

/-- The characters of a slot with its blanks. -/
def Slot.text (slot : Slot) : List Char := slot.before ++ (slot.chars ++ slot.after)

/-- The characters of a member with its blanks. -/
def Member.text (member : Member) : List Char :=
  member.before ++ (quote member.name ++ (member.after ++ ':' :: member.slot.text))

/-- What a member says. -/
def Member.entry (member : Member) : List Char × Json := (member.name, member.slot.value)

/-- A value, and the characters of a text of it. -/
inductive IsText : Json → List Char → Prop where
  | null : IsText .null ['n', 'u', 'l', 'l']
  | bool_true : IsText (.bool true) ['t', 'r', 'u', 'e']
  | bool_false : IsText (.bool false) ['f', 'a', 'l', 's', 'e']
  | number {literal : List Char} (is_literal : IsLiteral literal) :
      IsText (.number literal) literal
  | string {spelling : List Char} {vs : List Nat} (spells : Spells spelling vs) :
      IsText (.string spelling) (quote spelling)
  | array_nil {blanks : List Char} (blank : Blank blanks) :
      IsText (.array []) ('[' :: (blanks ++ [']']))
  | array (slots : List Slot) (nonempty : slots ≠ [])
      (texts : ∀ slot ∈ slots, IsText slot.value slot.chars) :
      IsText (.array (slots.map Slot.value))
        ('[' :: (Text.join ',' (slots.map Slot.text) ++ [']']))
  | object_nil {blanks : List Char} (blank : Blank blanks) :
      IsText (.object []) ('\x7b' :: (blanks ++ ['\x7d']))
  | object (members : List Member) (nonempty : members ≠ [])
      (texts : ∀ member ∈ members, IsText member.slot.value member.slot.chars) :
      IsText (.object (members.map Member.entry))
        ('\x7b' :: (Text.join ',' (members.map Member.text) ++ ['\x7d']))

/-- A text of a value, with blanks around it. -/
def IsJson (cs : List Char) (value : Json) : Prop :=
  ∃ slot : Slot, slot.value = value ∧ IsText value slot.chars ∧ slot.text = cs

/-! ### Blanks -/

section blanks
variable {before cs : List Char} {c : Char}

theorem blank_nil : Blank [] := List.forall_mem_nil _

theorem skipBlanks_append (h : Blank before) (cs : List Char) :
    skipBlanks (before ++ cs) = skipBlanks cs :=
  List.dropWhile_append_of_pos h

theorem skipBlanks_cons (h : isBlank c = false) (cs : List Char) :
    skipBlanks (c :: cs) = c :: cs := by
  rw [skipBlanks, List.dropWhile_cons_of_neg (by rw [h]; decide)]

/-- Blanks are skipped up to the first other character. -/
theorem skipBlanks_append_cons (h : Blank before) (hc : isBlank c = false) (cs : List Char) :
    skipBlanks (before ++ c :: cs) = c :: cs := by
  rw [skipBlanks_append h, skipBlanks_cons hc]

@[simp] theorem skipBlanks_skipBlanks (cs : List Char) :
    skipBlanks (skipBlanks cs) = skipBlanks cs :=
  List.dropWhile_idempotent _ _

/-- What is skipped are blanks. -/
theorem exists_blank_append (cs : List Char) :
    ∃ before, Blank before ∧ cs = before ++ skipBlanks cs :=
  ⟨cs.takeWhile isBlank, fun _ => List.mem_takeWhile_imp, List.takeWhile_append_dropWhile.symm⟩

theorem skipBlanks_eq_nil_iff : skipBlanks cs = [] ↔ Blank cs := List.dropWhile_eq_nil_iff

theorem stops_nil : Stops [] := by
  rintro c ⟨⟩

/-- No number goes on with a blank. -/
theorem Blank.stops_append (h : Blank before) (hcs : Stops cs) : Stops (before ++ cs) := by
  cases before with
  | nil =>
      exact hcs
  | cons b before =>
      rintro c ⟨⟩
      have hb := h b List.mem_cons_self
      simp only [isBlank, Bool.or_eq_true, beq_iff_eq] at hb
      rcases hb with ((rfl | rfl) | rfl) | rfl <;> decide

end blanks

/-! ### Beginnings -/

/-- A text of a value begins with a character of its own. -/
theorem IsText.head {value : Json} {chars : List Char} (h : IsText value chars) :
    ∃ c cs, chars = c :: cs ∧ isBlank c = false ∧ c ≠ ']' := by
  cases h with
  | null | bool_true | bool_false | string | array_nil | array | object_nil | object =>
      exact ⟨_, _, rfl, by decide, by decide⟩
  | number is_literal =>
      obtain ⟨c, cs, rfl, rfl | hdigit⟩ := is_literal.head
      · exact ⟨_, _, rfl, by decide, by decide⟩
      · refine ⟨c, cs, rfl, ?_, ?_⟩
        · rw [isBlank, Bool.eq_false_iff]
          intro hblank
          simp only [Bool.or_eq_true, beq_iff_eq] at hblank
          rcases hblank with ((rfl | rfl) | rfl) | rfl <;> exact absurd hdigit (by decide)
        · rintro rfl
          exact absurd hdigit (by decide)

end DidKeys.Json
