import DidKeys.Proofs.Except
import Mathlib.Data.List.Forall2

/-! # Lists of readings

A reading that may fail is made of each entry of a list.  All of them succeed together exactly if
each of them does (`mapM_eq_some_iff`, `mapM_eq_ok_iff`), and then the results stand in the order of
the entries.  Otherwise the fault is that of the first entry that has one (`mapM_eq_error_iff`). -/

namespace DidKeys

variable {α β : Type} {f : α → Option β}

/-- A list of readings succeeds exactly if each of them does. -/
theorem mapM_eq_some_iff {as : List α} {bs : List β} :
    as.mapM f = some bs ↔ List.Forall₂ (fun a b => f a = some b) as bs := by
  induction as generalizing bs with
  | nil =>
      rw [List.mapM_nil, List.forall₂_nil_left_iff]
      exact ⟨fun h => (Option.some.inj h).symm, fun h => congrArg some h.symm⟩
  | cons a as ih =>
      rw [List.mapM_cons, List.forall₂_cons_left_iff]
      simp only [Option.bind_eq_bind, Option.bind_eq_some_iff, Option.pure_def, Option.some.injEq,
        ih]
      exact ⟨fun ⟨b, hb, bs, hbs, heq⟩ => ⟨b, bs, hb, hbs, heq.symm⟩,
        fun ⟨b, bs, hb, hbs, heq⟩ => ⟨b, hb, bs, hbs, heq.symm⟩⟩

theorem exists_mapM_eq_some_iff {as : List α} :
    (∃ bs, as.mapM f = some bs) ↔ ∀ a ∈ as, ∃ b, f a = some b := by
  induction as with
  | nil => exact iff_of_true ⟨[], rfl⟩ (List.forall_mem_nil _)
  | cons a as ih =>
      rw [List.forall_mem_cons, ← ih]
      simp only [mapM_eq_some_iff, List.forall₂_cons_left_iff]
      exact ⟨fun ⟨_, b, bs, hb, hbs, _⟩ => ⟨⟨b, hb⟩, bs, hbs⟩,
        fun ⟨⟨b, hb⟩, bs, hbs⟩ => ⟨_, b, bs, hb, hbs, rfl⟩⟩

/-- Two readings in a row succeed exactly if both do for each value. -/
theorem mapM_bind_mapM_id_eq_some_iff {g : α → Option (Option β)} {as : List α} {bs : List β} :
    ((as.mapM g).bind fun readings => readings.mapM id) = some bs ↔
      List.Forall₂ (fun a b => g a = some (some b)) as bs := by
  simp only [Option.bind_eq_some_iff, mapM_eq_some_iff]
  constructor
  · rintro ⟨readings, hfirst, hsecond⟩
    induction hfirst generalizing bs with
    | nil =>
        cases hsecond
        exact .nil
    | cons hg _ ih =>
        cases hsecond with
        | cons hid hrest => exact .cons (hg.trans (congrArg some hid)) (ih hrest)
  · intro h
    exact ⟨bs.map some, List.forall₂_map_right_iff.mpr h, List.forall₂_map_left_iff.mpr
      (List.forall₂_same.mpr fun _ _ => rfl)⟩

/-- What was made of values one by one is read back one by one. -/
theorem mapM_map {make : β → α} (h : ∀ b, f (make b) = some b) (bs : List β) :
    (bs.map make).mapM f = some bs := by
  rw [mapM_eq_some_iff, List.forall₂_map_left_iff]
  exact List.forall₂_same.mpr fun b _ => h b

/-- If a reading takes back exactly what was made of a value, then a list of readings takes back
exactly what was made of a list of values. -/
theorem mapM_eq_some_iff_of_make {make : β → α} (h : ∀ a b, f a = some b ↔ a = make b)
    {as : List α} {bs : List β} : as.mapM f = some bs ↔ as = bs.map make := by
  simp only [mapM_eq_some_iff, h]
  rw [← List.forall₂_map_right_iff, List.forall₂_eq_eq_eq]

/-! ### Readings with faults -/

section faults
variable {ε : Type} {read : α → Except ε β}

theorem mapM_eq_ok_iff {as : List α} {bs : List β} :
    as.mapM read = .ok bs ↔ List.Forall₂ (fun a b => read a = .ok b) as bs := by
  induction as generalizing bs with
  | nil =>
      rw [List.mapM_nil, List.forall₂_nil_left_iff]
      exact ⟨fun h => (Except.ok.inj h).symm, fun h => congrArg Except.ok h.symm⟩
  | cons a as ih =>
      rw [List.mapM_cons, List.forall₂_cons_left_iff]
      simp only [bind_eq_ok_iff, ih, pure, Except.pure, Except.ok.injEq]
      exact ⟨fun ⟨b, hb, bs, hbs, heq⟩ => ⟨b, bs, hb, hbs, heq.symm⟩,
        fun ⟨b, bs, hb, hbs, heq⟩ => ⟨b, hb, bs, hbs, heq.symm⟩⟩

theorem mapM_eq_error_iff {as : List α} {fault : ε} :
    as.mapM read = .error fault ↔ ∃ before a after, as = before ++ a :: after ∧
      (∃ bs, List.Forall₂ (fun a b => read a = .ok b) before bs) ∧ read a = .error fault := by
  simp only [← mapM_eq_ok_iff]
  constructor
  · intro h
    induction as with
    | nil => cases h
    | cons a as ih =>
        rw [List.mapM_cons] at h
        rcases bind_eq_error_iff.mp h with ha | ⟨b, hb, h⟩
        · exact ⟨[], a, as, rfl, ⟨[], rfl⟩, ha⟩
        · obtain ⟨before, bad, after, rfl, ⟨bs, hbs⟩, hbad⟩ := ih (bind_pure_eq_error_iff.mp h)
          refine ⟨a :: before, bad, after, rfl, ⟨b :: bs, ?_⟩, hbad⟩
          rw [List.mapM_cons, hb, ok_bind, hbs]
          rfl
  · rintro ⟨before, a, after, rfl, ⟨bs, hbs⟩, ha⟩
    rw [List.mapM_append, hbs, ok_bind, List.mapM_cons, ha]
    rfl

end faults
end DidKeys
