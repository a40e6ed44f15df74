/-! # Results in sequence

Steps of which each may fail give a result exactly if all of them do, and otherwise the fault of
the first one that does not. -/

namespace DidKeys

variable {ε φ α β : Type} {x : Except ε α}

theorem ok_bind (a : α) (f : α → Except ε β) : Except.ok a >>= f = f a := rfl

theorem bind_eq_ok_iff {f : α → Except ε β} {b : β} :
    x >>= f = .ok b ↔ ∃ a, x = .ok a ∧ f a = .ok b := by
  cases x <;> simp [bind, Except.bind]

theorem bind_eq_error_iff {f : α → Except ε β} {fault : ε} :
    x >>= f = .error fault ↔ x = .error fault ∨ ∃ a, x = .ok a ∧ f a = .error fault := by
  cases x <;> simp [bind, Except.bind]

/-- A last step that cannot fail has no fault of its own. -/
theorem bind_pure_eq_error_iff {g : α → β} {fault : ε} :
    (x >>= fun a => pure (g a)) = .error fault ↔ x = .error fault := by
  rw [bind_eq_error_iff, or_iff_left]
  rintro ⟨_, _, h⟩
  cases h

/-- A result that can have one fault only has it where there is nothing else. -/
theorem eq_error_iff_of_only {only fault : ε} (h : ∀ cause, x = .error cause → cause = only) :
    x = .error fault ↔ fault = only ∧ ¬∃ a, x = .ok a := by
  cases x with
  | ok a =>
    refine iff_of_false (fun herror => nomatch herror) ?_
    rintro ⟨_, hnone⟩
    exact hnone ⟨a, rfl⟩
  | error cause =>
    obtain rfl := h cause rfl
    constructor
    · rintro ⟨⟩
      exact ⟨rfl, fun ⟨_, hok⟩ => nomatch hok⟩
    · rintro ⟨rfl, _⟩
      rfl

theorem mapError_eq_ok_iff {f : ε → φ} {a : α} : x.mapError f = .ok a ↔ x = .ok a := by
  cases x with
  | error cause => exact iff_of_false (fun h => nomatch h) (fun h => nomatch h)
  | ok b =>
    show Except.ok b = Except.ok a ↔ _
    rw [Except.ok.injEq, Except.ok.injEq]

theorem mapError_eq_error_iff {f : ε → φ} {fault : φ} :
    x.mapError f = .error fault ↔ ∃ cause, x = .error cause ∧ f cause = fault := by
  cases x with
  | error cause =>
    show Except.error (f cause) = Except.error fault ↔ _
    simp
  | ok b =>
    show Except.ok b = Except.error fault ↔ _
    simp

end DidKeys
