import DidKeys.Proofs.Json.Writing
import DidKeys.Proofs.Readings
import Mathlib.Data.List.Nodup

/-! # Records

A record is an object in which each of the wanted names stands exactly once, in any order and among
any others, or an array with exactly the fields (`IsRecord`).  The reader of records finds the
fields of these values and of no others (`allFields?_eq_some_iff`), so what is written as a record
is found again (`allFields?_record`). -/

namespace DidKeys.Json

/-- One member has the name and the value, and no other one has the name. -/
def Only (name : String) (value : Json) (entries : List (List Char × Json)) : Prop :=
  ∃ spelling before after, entries = before ++ (spelling, value) :: after ∧
    Means spelling name ∧ ∀ entry ∈ before ++ after, ¬Means entry.1 name

/-- A value that is a record, the names of its fields, and the fields. -/
inductive IsRecord : Json → List String → List Json → Prop where
  | object {entries : List (List Char × Json)} {names : List String} {fields : List Json}
      (named : ∀ entry ∈ entries, ∃ name, Means entry.1 name)
      (only : List.Forall₂ (fun name field => Only name field entries) names fields) :
      IsRecord (.object entries) names fields
  | array {names : List String} {fields : List Json} (complete : fields.length = names.length) :
      IsRecord (.array fields) names fields

/-! ### Members of an object -/

/-- Exactly one value of a list passes a test. -/
theorem filter_eq_singleton_iff {α : Type} {test : α → Bool} {as : List α} {a : α} :
    as.filter test = [a] ↔ ∃ before after, as = before ++ a :: after ∧ test a = true ∧
      ∀ b ∈ before ++ after, ¬test b = true := by
  rw [List.filter_eq_cons_iff]
  refine exists₂_congr fun before after => and_congr_right fun _ => ?_
  rw [List.filter_eq_nil_iff, List.forall_mem_append, and_left_comm]

section record
variable {names : List String} {entries : List (List Char × Json)} {fields : List Json}
  {value : Json}

theorem means_iff_beq {name : String} {entry : List Char × Json}
    (h : ∃ vs, Spells entry.1 vs) :
    (unescape? entry.1 == some name.toList) = true ↔ Means entry.1 name := by
  rw [beq_iff_eq, means_iff h]

theorem memberNames?_eq_some_iff (h : ∀ entry ∈ entries, ∃ vs, Spells entry.1 vs) :
    (∃ spelled, memberNames? entries = some spelled) ↔
      ∀ entry ∈ entries, ∃ name, Means entry.1 name := by
  rw [memberNames?, exists_mapM_eq_some_iff]
  refine forall₂_congr fun entry hentry => ?_
  simp only [means_iff (h entry hentry)]
  exact ⟨fun ⟨cs, hcs⟩ => ⟨String.ofList cs, by rw [hcs, String.toList_ofList]⟩,
    fun ⟨name, hname⟩ => ⟨_, hname⟩⟩

theorem only?_eq_some_iff {name : String} (h : ∀ entry ∈ entries, ∃ vs, Spells entry.1 vs) :
    only? name.toList entries = some (some value) ↔ Only name value entries := by
  have hfilter : only? name.toList entries = some (some value) ↔ ∃ spelling,
      entries.filter (fun entry => unescape? entry.1 == some name.toList) =
        [(spelling, value)] := by
    unfold only?
    split
    · next heq => simp [heq]
    · next member heq =>
      rw [heq]
      constructor
      · rintro ⟨⟩
        exact ⟨member.1, rfl⟩
      · rintro ⟨spelling, ⟨⟩⟩
        rfl
    · next hother => exact iff_of_false nofun fun ⟨spelling, heq⟩ => hother _ heq
  rw [hfilter, Only]
  simp only [filter_eq_singleton_iff]
  refine exists_congr fun spelling => exists₂_congr fun before after => and_congr_right ?_
  rintro rfl
  have hmember := h (spelling, value) (by simp)
  refine and_congr (means_iff_beq hmember) (forall₂_congr fun entry hentry => ?_)
  refine not_congr (means_iff_beq (h entry ?_))
  rcases List.mem_append.mp hentry with hbefore | hafter <;> simp [*]

/-! ### All fields -/

theorem allFields?_object_eq_some_iff (h : ∀ entry ∈ entries, ∃ vs, Spells entry.1 vs) :
    (Json.object entries).allFields? names = some fields ↔
      IsRecord (.object entries) names fields := by
  have honly : ∀ name field, only? name.toList entries = some (some field) ↔
      Only name field entries := fun _ _ => only?_eq_some_iff h
  have hfields : IsRecord (.object entries) names fields ↔
      (∃ spelled, memberNames? entries = some spelled) ∧
        List.Forall₂ (fun name field => only? name.toList entries = some (some field)) names
          fields := by
    simp only [memberNames?_eq_some_iff h, honly]
    exact ⟨fun | .object named only => ⟨named, only⟩, fun ⟨named, only⟩ => .object named only⟩
  rw [hfields, ← mapM_bind_mapM_id_eq_some_iff, allFields?, fields?]
  cases memberNames? entries with
  | none => exact iff_of_false nofun fun ⟨⟨_, hnone⟩, _⟩ => nomatch hnone
  | some spelled => exact (and_iff_right ⟨_, rfl⟩).symm

theorem allFields?_array_eq_some_iff {items : List Json} :
    (Json.array items).allFields? names = some fields ↔ IsRecord (.array items) names fields := by
  have hrecord : IsRecord (.array items) names fields ↔
      items = fields ∧ items.length = names.length :=
    ⟨fun | .array complete => ⟨rfl, complete⟩, fun ⟨heq, complete⟩ => heq ▸ .array complete⟩
  have hitems : (items.map some).mapM id = some items :=
    @mapM_map (Option Json) Json id some (fun _ => rfl) items
  rw [hrecord, allFields?, fields?]
  rcases Nat.lt_trichotomy items.length names.length with hlt | heq | hgt
  · obtain ⟨k, hk⟩ := Nat.exists_eq_succ_of_ne_zero (Nat.sub_ne_zero_of_lt hlt)
    rw [if_pos hlt.le, hk, List.replicate_succ]
    show (items.map some ++ none :: List.replicate k none).mapM id = some fields ↔ _
    rw [List.mapM_append, List.mapM_cons, hitems]
    exact iff_of_false nofun fun h => hlt.ne h.2
  · rw [if_pos heq.le, heq, Nat.sub_self, List.replicate_zero, List.append_nil]
    show (items.map some).mapM id = some fields ↔ _
    rw [hitems, Option.some.injEq]
    exact (and_iff_left rfl).symm
  · rw [if_neg (by omega)]
    exact iff_of_false nofun fun h => by omega

/-- The fields of a value are those of the record that it is. -/
theorem allFields?_eq_some_iff (h : WellSpelled value) :
    value.allFields? names = some fields ↔ IsRecord value names fields := by
  cases h with
  | object names_spelled _ => exact allFields?_object_eq_some_iff names_spelled
  | array _ => exact allFields?_array_eq_some_iff
  | null | bool | number | string => exact iff_of_false nofun nofun

/-- The fields of a record are spelled as it is. -/
theorem IsRecord.wellSpelled (h : IsRecord value names fields) (hvalue : WellSpelled value) :
    ∀ field ∈ fields, WellSpelled field := by
  cases h with
  | array complete =>
      cases hvalue with
      | array items_spelled => exact items_spelled
  | object named only =>
      cases hvalue with
      | object names_spelled values_spelled =>
          clear named
          induction only with
          | nil => exact List.forall_mem_nil _
          | cons honly _ ih =>
              obtain ⟨spelling, before, after, hentries, -, -⟩ := honly
              refine List.forall_mem_cons.mpr ⟨values_spelled (spelling, _) ?_, ih⟩
              rw [hentries]
              exact List.mem_append_right _ List.mem_cons_self

/-! ### Written records -/

/-- A field of a written record stands there once, if no two fields have one name. -/
theorem only_of_mem {written : List (String × Json)} (hnodup : (written.map Prod.fst).Nodup)
    {field : String × Json} (hfield : field ∈ written) :
    Only field.1 field.2 (written.map fun field => (escape field.1.toList, field.2)) := by
  obtain ⟨before, after, rfl⟩ := List.append_of_mem hfield
  refine ⟨escape field.1.toList, _, _, List.map_append, means_escape _, ?_⟩
  rw [List.map_append, List.map_cons, List.nodup_middle, List.nodup_cons, ← List.map_append]
    at hnodup
  rw [← List.map_append, List.forall_mem_map]
  intro other hother hmeans
  exact hnodup.1 (means_escape_iff.mp hmeans ▸ List.mem_map_of_mem hother)

/-- What is written as a record is one, whichever of its fields are wanted, in any order. -/
theorem isRecord_record {written wanted : List (String × Json)}
    (hnodup : (written.map Prod.fst).Nodup) (hwanted : wanted ⊆ written) :
    IsRecord (record written) (wanted.map Prod.fst) (wanted.map Prod.snd) := by
  refine .object (List.forall_mem_map.mpr fun field _ => ⟨_, means_escape _⟩) ?_
  rw [List.forall₂_map_left_iff, List.forall₂_map_right_iff]
  exact List.forall₂_same.mpr fun field hfield => only_of_mem hnodup (hwanted hfield)

/-- What was written as a record has its fields. -/
theorem allFields?_record {written : List (String × Json)} (hnames : written.map Prod.fst = names)
    (hnodup : names.Nodup) :
    (record written).allFields? names = some (written.map Prod.snd) := by
  subst hnames
  refine (allFields?_object_eq_some_iff ?_).mpr (isRecord_record hnodup (List.Subset.refl _))
  exact List.forall_mem_map.mpr fun _ _ => ⟨_, spells_escape _⟩

end record
end DidKeys.Json
