import DidKeys.Json.Printer
import DidKeys.Proofs.Json.Grammar

/-! # The writer and the texts of values

A value has a text exactly if its strings, names and numbers are spelled as they have to be
(`wellSpelled_iff`), and what the writer makes of such a value is a text of it, in every layout
(`WellSpelled.isJson_write`). -/

namespace DidKeys.Json

/-- A value whose strings, names and numbers are spelled as they have to be. -/
inductive WellSpelled : Json → Prop where
  | null : WellSpelled .null
  | bool (value : Bool) : WellSpelled (.bool value)
  | number {literal : List Char} (is_literal : IsLiteral literal) : WellSpelled (.number literal)
  | string {spelling : List Char} {vs : List Nat} (spells : Spells spelling vs) :
      WellSpelled (.string spelling)
  | array {items : List Json} (items_spelled : ∀ item ∈ items, WellSpelled item) :
      WellSpelled (.array items)
  | object {entries : List (List Char × Json)} (names_spelled : ∀ entry ∈ entries,
      ∃ vs, Spells entry.1 vs) (values_spelled : ∀ entry ∈ entries, WellSpelled entry.2) :
      WellSpelled (.object entries)

section writing
variable {value : Json} {cs : List Char} {layout : Layout} {depth : Nat}

/-- Whatever has a text is well spelled. -/
theorem IsText.wellSpelled (h : IsText value cs) : WellSpelled value := by
  induction h with
  | null => exact .null
  | bool_true | bool_false => exact .bool _
  | number is_literal => exact .number is_literal
  | string spells => exact .string spells
  | array_nil _ => exact .array (List.forall_mem_nil _)
  | object_nil _ => exact .object (List.forall_mem_nil _) (List.forall_mem_nil _)
  | array slots _ _ ih => exact .array (List.forall_mem_map.mpr ih)
  | object members _ _ ih =>
      exact .object (List.forall_mem_map.mpr fun member _ => member.name_spelled)
        (List.forall_mem_map.mpr ih)

theorem IsJson.wellSpelled (h : IsJson cs value) : WellSpelled value := by
  obtain ⟨_, _, htext, _⟩ := h
  exact htext.wellSpelled

/-! ### Lists of values -/

/-- The items of an array, written one behind the other, are slots. -/
theorem exists_slots {item : Json} {items : List Json}
    (h : ∀ i ∈ item :: items, IsText i (chars layout depth i)) {last : List Char}
    (hlast : Blank last) :
    ∃ slots : List Slot, slots ≠ [] ∧ (∀ slot ∈ slots, IsText slot.value slot.chars) ∧
      slots.map Slot.value = item :: items ∧
      Text.join ',' (slots.map Slot.text) = layout.line depth ++ chars layout depth item ++
        charsOfItems layout depth items ++ last := by
  -- the blanks before the end of the array are those behind its last item
  induction items generalizing item with
  | nil =>
      have hitem := List.forall_mem_singleton.mp h
      refine ⟨[⟨layout.line depth, item, chars layout depth item, last, layout.line_blank depth,
        hlast⟩], List.cons_ne_nil _ _, List.forall_mem_singleton.mpr hitem, rfl, ?_⟩
      simp [Text.join, Slot.text, charsOfItems]
  | cons next items ih =>
      obtain ⟨hitem, hitems⟩ := List.forall_mem_cons.mp h
      obtain ⟨slots, nonempty, texts, hvalues, hjoin⟩ := ih hitems
      have hmap : slots.map Slot.text ≠ [] := mt List.map_eq_nil_iff.mp nonempty
      refine ⟨⟨layout.line depth, item, chars layout depth item, [], layout.line_blank depth,
        blank_nil⟩ :: slots, List.cons_ne_nil _ _, List.forall_mem_cons.mpr ⟨hitem, texts⟩,
        by rw [List.map_cons, hvalues], ?_⟩
      rw [List.map_cons, Text.join_cons_of_ne_nil _ _ hmap, hjoin]
      simp [Slot.text, charsOfItems]

/-- The members of an object, written one behind the other, are members among blanks. -/
theorem exists_members {entry : List Char × Json} {entries : List (List Char × Json)}
    (hnames : ∀ e ∈ entry :: entries, ∃ vs, Spells e.1 vs)
    (h : ∀ e ∈ entry :: entries, IsText e.2 (chars layout depth e.2)) {last : List Char}
    (hlast : Blank last) :
    ∃ members : List Member, members ≠ [] ∧
      (∀ member ∈ members, IsText member.slot.value member.slot.chars) ∧
      members.map Member.entry = entry :: entries ∧
      Text.join ',' (members.map Member.text) = layout.line depth ++ quote entry.1 ++
        ':' :: layout.afterColon ++ chars layout depth entry.2 ++
        charsOfMembers layout depth entries ++ last := by
  induction entries generalizing entry with
  | nil =>
      have hentry := List.forall_mem_singleton.mp h
      let slot : Slot := ⟨layout.afterColon, entry.2, chars layout depth entry.2, last,
        layout.afterColon_blank, hlast⟩
      refine ⟨[⟨layout.line depth, entry.1, [], slot, layout.line_blank depth, blank_nil,
        hnames entry (List.mem_singleton_self entry)⟩], List.cons_ne_nil _ _,
        List.forall_mem_singleton.mpr hentry, rfl, ?_⟩
      simp [slot, Text.join, Slot.text, Member.text, charsOfMembers]
  | cons next entries ih =>
      obtain ⟨hentry, hentries⟩ := List.forall_mem_cons.mp h
      obtain ⟨hname, hnames⟩ := List.forall_mem_cons.mp hnames
      obtain ⟨members, nonempty, texts, hmembers, hjoin⟩ := ih hnames hentries
      have hmap : members.map Member.text ≠ [] := mt List.map_eq_nil_iff.mp nonempty
      let slot : Slot := ⟨layout.afterColon, entry.2, chars layout depth entry.2, [],
        layout.afterColon_blank, blank_nil⟩
      refine ⟨⟨layout.line depth, entry.1, [], slot, layout.line_blank depth, blank_nil, hname⟩ ::
        members, List.cons_ne_nil _ _, List.forall_mem_cons.mpr ⟨hentry, texts⟩,
        by rw [List.map_cons, hmembers]; rfl, ?_⟩
      rw [List.map_cons, Text.join_cons_of_ne_nil _ _ hmap, hjoin]
      simp [slot, Slot.text, Member.text, charsOfMembers]

/-! ### Written values -/

/-- What the writer makes of a well spelled value is a text of it. -/
theorem WellSpelled.isText_chars (h : WellSpelled value) (layout : Layout) (depth : Nat) :
    IsText value (chars layout depth value) := by
  induction h generalizing depth with
  | null =>
      rw [chars]
      exact .null
  | bool value =>
      cases value with
      | true => rw [chars]; exact .bool_true
      | false => rw [chars]; exact .bool_false
  | number is_literal =>
      rw [chars]
      exact .number is_literal
  | string spells =>
      rw [chars]
      exact .string spells
  | @array items _ ih =>
      cases items with
      | nil =>
          rw [chars]
          exact .array_nil blank_nil
      | cons item items =>
          obtain ⟨slots, nonempty, texts, hvalues, hjoin⟩ :=
            exists_slots (fun i hi => ih i hi (depth + 1)) (layout.line_blank depth)
          have htext := IsText.array slots nonempty texts
          rw [hvalues, hjoin] at htext
          rw [chars]
          simpa only [List.append_assoc, List.cons_append] using htext
  | @object entries names_spelled _ ih =>
      cases entries with
      | nil =>
          rw [chars]
          exact .object_nil blank_nil
      | cons entry entries =>
          obtain ⟨members, nonempty, texts, hentries, hjoin⟩ :=
            exists_members names_spelled (fun e he => ih e he (depth + 1)) (layout.line_blank depth)
          have htext := IsText.object members nonempty texts
          rw [hentries, hjoin] at htext
          rw [chars]
          simpa only [List.append_assoc, List.cons_append] using htext

theorem wellSpelled_iff : WellSpelled value ↔ ∃ cs, IsText value cs :=
  ⟨fun h => ⟨_, h.isText_chars .compact 0⟩, fun ⟨_, h⟩ => h.wellSpelled⟩

theorem WellSpelled.isJson_write (h : WellSpelled value) (layout : Layout) :
    IsJson (write layout value).toList value := by
  refine ⟨⟨[], value, chars layout 0 value, [], blank_nil, blank_nil⟩, rfl,
    h.isText_chars layout 0, ?_⟩
  rw [write, String.toList_ofList, Slot.text, List.append_nil, List.nil_append]

/-! ### Values that are made -/

@[simp] theorem wellSpelled_text (s : String) : WellSpelled (text s) := .string (spells_escape _)

@[simp] theorem wellSpelled_nat (n : Nat) : WellSpelled (nat n) := .number (isLiteral_digits n)

theorem wellSpelled_array_map {α : Type} {make : α → Json} (h : ∀ a, WellSpelled (make a))
    (as : List α) : WellSpelled (.array (as.map make)) :=
  .array (List.forall_mem_map.mpr fun a _ => h a)

@[simp] theorem wellSpelled_bool (b : Bool) : WellSpelled (.bool b) := .bool b

theorem wellSpelled_record {fields : List (String × Json)}
    (h : ∀ field ∈ fields, WellSpelled field.2) : WellSpelled (record fields) :=
  .object (List.forall_mem_map.mpr fun _ _ => ⟨_, spells_escape _⟩) (List.forall_mem_map.mpr h)

end writing
end DidKeys.Json
