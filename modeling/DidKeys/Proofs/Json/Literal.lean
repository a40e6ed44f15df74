import DidKeys.Json.Reader
import DidKeys.Proofs.Text.Numeral
import Mathlib.Data.List.TakeWhile

/-! # Literals of numbers

A literal has a sign, a whole part without zeros in front, a fraction and an exponent (`IsLiteral`),
of which only the whole part has to be there.

* `IsLiteral.scanNumber`: a literal is taken off whole where the text behind it does not go on with
  the number (`Stops`).
* `isLiteral_of_scanNumber`: nothing else is taken off.
* `isLiteral_digits`: a number without sign, fraction and exponent is a literal. -/

namespace DidKeys.Json

/-- At most one of the given signs. -/
def IsSign (signs sign : List Char) : Prop := sign = [] ∨ ∃ c ∈ signs, sign = [c]

/-- A zero, or digits that begin with another one. -/
inductive IsWhole : List Char → Prop where
  | zero : IsWhole ['0']
  | numeral {c : Char} {cs : List Char} (nonzero : c ≠ '0')
      (digits : Decimal.isNumeral (c :: cs) = true) : IsWhole (c :: cs)

/-- Nothing, or digits behind a point. -/
inductive IsFraction : List Char → Prop where
  | none : IsFraction []
  | point {digits : List Char} (numeral : Decimal.isNumeral digits = true) :
      IsFraction ('.' :: digits)

/-- Nothing, or digits behind a mark and a sign. -/
inductive IsExponent : List Char → Prop where
  | none : IsExponent []
  | mark {e : Char} {sign digits : List Char} (mark : e = 'e' ∨ e = 'E')
      (is_sign : IsSign ['+', '-'] sign) (numeral : Decimal.isNumeral digits = true) :
      IsExponent (e :: sign ++ digits)

/-- The literal of a number. -/
inductive IsLiteral : List Char → Prop where
  | parts {sign whole fraction exponent : List Char} (is_sign : IsSign ['-'] sign)
      (is_whole : IsWhole whole) (is_fraction : IsFraction fraction)
      (is_exponent : IsExponent exponent) : IsLiteral (sign ++ whole ++ fraction ++ exponent)

/-- A text that does not go on with a number in front of it. -/
def Stops (cs : List Char) : Prop :=
  ∀ c ∈ cs.head?, Decimal.isDigit c = false ∧ c ≠ '.' ∧ c ≠ 'e' ∧ c ≠ 'E'

section literal
variable {cs digits sign whole fraction exponent literal rest : List Char}

/-! ### Digits and signs -/

theorem scanDigits_append (h : Decimal.isNumeral digits = true)
    (hrest : ∀ c ∈ rest.head?, Decimal.isDigit c = false) :
    scanDigits (digits ++ rest) = some (digits, rest) := by
  obtain ⟨hne, hall⟩ := Decimal.isNumeral_iff.mp h
  have htake : rest.takeWhile Decimal.isDigit = [] ∧ rest.dropWhile Decimal.isDigit = rest := by
    cases rest with
    | nil => exact ⟨rfl, rfl⟩
    | cons c rest => simp [hrest c rfl]
  rw [scanDigits, List.takeWhile_append_of_pos hall, List.dropWhile_append_of_pos hall, htake.1,
    htake.2, List.append_nil]
  split
  · exact absurd rfl hne
  · rfl

theorem isNumeral_of_scanDigits (h : scanDigits cs = some (digits, rest)) :
    cs = digits ++ rest ∧ Decimal.isNumeral digits = true := by
  unfold scanDigits at h
  split at h
  · cases h
  · next hne =>
    cases h
    exact ⟨List.takeWhile_append_dropWhile.symm,
      Decimal.isNumeral_iff.mpr ⟨hne, fun c => List.mem_takeWhile_imp⟩⟩

theorem not_mem_of_isDigit {signs : List Char} (hsigns : signs.any Decimal.isDigit = false)
    {c : Char} (hc : Decimal.isDigit c = true) : c ∉ signs :=
  fun hmem => List.any_eq_false.mp hsigns c hmem hc

/-- A numeral begins with a digit. -/
theorem head_of_isNumeral (h : Decimal.isNumeral digits = true) :
    ∃ c cs, digits = c :: cs ∧ Decimal.isDigit c = true := by
  obtain ⟨hne, hall⟩ := Decimal.isNumeral_iff.mp h
  obtain ⟨c, cs, rfl⟩ := List.exists_cons_of_ne_nil hne
  exact ⟨c, cs, rfl, hall c List.mem_cons_self⟩

theorem scanSign_append {signs : List Char} (h : IsSign signs sign) {c : Char} (hc : c ∉ signs)
    (cs : List Char) : scanSign signs (sign ++ c :: cs) = (sign, c :: cs) := by
  obtain rfl | ⟨s, hs, rfl⟩ := h
  · exact if_neg hc
  · exact if_pos hs

theorem isSign_of_scanSign {signs : List Char} (h : scanSign signs cs = (sign, rest)) :
    cs = sign ++ rest ∧ IsSign signs sign := by
  unfold scanSign at h
  split at h
  · split at h
    · next hmem =>
      cases h
      exact ⟨rfl, .inr ⟨_, hmem, rfl⟩⟩
    · cases h
      exact ⟨rfl, .inl rfl⟩
  · cases h
    exact ⟨rfl, .inl rfl⟩

/-! ### Parts -/

theorem IsWhole.isNumeral (h : IsWhole whole) : Decimal.isNumeral whole = true := by
  cases h with
  | zero => rfl
  | numeral _ digits => exact digits

theorem IsWhole.scanWhole (h : IsWhole whole)
    (hrest : ∀ c ∈ rest.head?, Decimal.isDigit c = false) :
    scanWhole (whole ++ rest) = some (whole, rest) := by
  cases h with
  | zero =>
      rfl
  | numeral nonzero digits =>
      rw [Json.scanWhole, scanDigits_append digits hrest]
      rintro tail heq
      exact nonzero (List.cons.inj heq).1

theorem isWhole_of_scanWhole (h : scanWhole cs = some (whole, rest)) :
    cs = whole ++ rest ∧ IsWhole whole := by
  unfold scanWhole at h
  split at h
  · cases h
    exact ⟨rfl, .zero⟩
  · next hzero =>
    obtain ⟨rfl, hnumeral⟩ := isNumeral_of_scanDigits h
    obtain ⟨c, digits, rfl, -⟩ := head_of_isNumeral hnumeral
    exact ⟨rfl, .numeral (fun hc => hzero (digits ++ rest) (hc ▸ rfl)) hnumeral⟩

theorem IsFraction.scanFraction (h : IsFraction fraction)
    (hrest : ∀ c ∈ rest.head?, Decimal.isDigit c = false ∧ c ≠ '.') :
    scanFraction (fraction ++ rest) = some (fraction, rest) := by
  cases h with
  | none =>
      rw [List.nil_append, Json.scanFraction]
      rintro tail rfl
      exact (hrest '.' rfl).2 rfl
  | point numeral =>
      rw [List.cons_append, Json.scanFraction, scanDigits_append numeral fun c hc => (hrest c hc).1]
      rfl

theorem isFraction_of_scanFraction (h : scanFraction cs = some (fraction, rest)) :
    cs = fraction ++ rest ∧ IsFraction fraction := by
  unfold scanFraction at h
  split at h
  · obtain ⟨⟨digits, _⟩, hdigits, h⟩ := Option.map_eq_some_iff.mp h
    cases h
    obtain ⟨rfl, hnumeral⟩ := isNumeral_of_scanDigits hdigits
    exact ⟨rfl, .point hnumeral⟩
  · cases h
    exact ⟨rfl, .none⟩

theorem IsExponent.scanExponent (h : IsExponent exponent)
    (hrest : ∀ c ∈ rest.head?, Decimal.isDigit c = false ∧ c ≠ 'e' ∧ c ≠ 'E') :
    scanExponent (exponent ++ rest) = some (exponent, rest) := by
  cases h with
  | none =>
      cases rest with
      | nil => rfl
      | cons c rest => exact if_neg fun hc => hc.elim (hrest c rfl).2.1 (hrest c rfl).2.2
  | @mark e sign digits mark is_sign numeral =>
      obtain ⟨c, cs, rfl, hdigit⟩ := head_of_isNumeral numeral
      have hc : c ∉ ['+', '-'] := not_mem_of_isDigit (by decide) hdigit
      have hsign := scanSign_append is_sign hc (cs ++ rest)
      have hdigits := scanDigits_append numeral fun c hc => (hrest c hc).1
      rw [List.cons_append] at hdigits
      simp only [List.append_assoc, List.cons_append, Json.scanExponent, if_pos mark, hsign,
        hdigits]
      rfl

theorem isExponent_of_scanExponent (h : scanExponent cs = some (exponent, rest)) :
    cs = exponent ++ rest ∧ IsExponent exponent := by
  unfold scanExponent at h
  split at h
  · next e cs =>
    split at h
    · next mark =>
      cases hsign : scanSign ['+', '-'] cs with
      | mk sign tail =>
        rw [hsign] at h
        obtain ⟨⟨digits, _⟩, hdigits, h⟩ := Option.bind_eq_some_iff.mp h
        cases h
        obtain ⟨rfl, is_sign⟩ := isSign_of_scanSign hsign
        obtain ⟨rfl, numeral⟩ := isNumeral_of_scanDigits hdigits
        exact ⟨by simp, .mark mark is_sign numeral⟩
    · cases h
      exact ⟨rfl, .none⟩
  · cases h
    exact ⟨rfl, .none⟩

/-! ### Literals -/

/-- What follows the fraction does not go on with it. -/
theorem IsExponent.head_append (h : IsExponent exponent) (hrest : Stops rest) :
    ∀ c ∈ (exponent ++ rest).head?, Decimal.isDigit c = false ∧ c ≠ '.' := by
  cases h with
  | none =>
      exact fun c hc => ⟨(hrest c hc).1, (hrest c hc).2.1⟩
  | mark mark _ _ =>
      rintro c hc
      cases hc
      rcases mark with rfl | rfl <;> decide

/-- What follows the whole part does not go on with it. -/
theorem IsFraction.head_append (h : IsFraction fraction) {cs : List Char}
    (hcs : ∀ c ∈ cs.head?, Decimal.isDigit c = false ∧ c ≠ '.') :
    ∀ c ∈ (fraction ++ cs).head?, Decimal.isDigit c = false := by
  cases h with
  | none =>
      exact fun c hc => (hcs c hc).1
  | point _ =>
      rintro c hc
      cases hc
      decide

/-- A literal is taken off whole. -/
theorem IsLiteral.scanNumber (h : IsLiteral literal) (hrest : Stops rest) :
    scanNumber (literal ++ rest) = some (literal, rest) := by
  obtain @⟨sign, whole, fraction, exponent, is_sign, is_whole, is_fraction, is_exponent⟩ := h
  have hexponent := is_exponent.scanExponent fun c hc => ⟨(hrest c hc).1, (hrest c hc).2.2⟩
  have hfraction := is_fraction.scanFraction (is_exponent.head_append hrest)
  have hwhole := is_whole.scanWhole (is_fraction.head_append (is_exponent.head_append hrest))
  obtain ⟨c, cs, rfl, hdigit⟩ := head_of_isNumeral is_whole.isNumeral
  have hc : c ∉ ['-'] := not_mem_of_isDigit (by decide) hdigit
  have hsign := scanSign_append is_sign hc (cs ++ (fraction ++ (exponent ++ rest)))
  rw [List.cons_append] at hwhole
  simp only [Json.scanNumber, List.append_assoc, List.cons_append, hsign, hwhole, hfraction,
    hexponent, Option.bind_eq_bind, Option.bind_some, Option.pure_def]

/-- Nothing but a literal is taken off. -/
theorem isLiteral_of_scanNumber (h : scanNumber cs = some (literal, rest)) :
    cs = literal ++ rest ∧ IsLiteral literal := by
  unfold scanNumber at h
  cases hsign : scanSign ['-'] cs with
  | mk sign tail =>
    rw [hsign] at h
    obtain ⟨⟨whole, _⟩, hwhole, h⟩ := Option.bind_eq_some_iff.mp h
    obtain ⟨⟨fraction, _⟩, hfraction, h⟩ := Option.bind_eq_some_iff.mp h
    obtain ⟨⟨exponent, _⟩, hexponent, h⟩ := Option.bind_eq_some_iff.mp h
    cases h
    obtain ⟨rfl, is_sign⟩ := isSign_of_scanSign hsign
    obtain ⟨rfl, is_whole⟩ := isWhole_of_scanWhole hwhole
    obtain ⟨rfl, is_fraction⟩ := isFraction_of_scanFraction hfraction
    obtain ⟨rfl, is_exponent⟩ := isExponent_of_scanExponent hexponent
    exact ⟨by simp only [List.append_assoc], .parts is_sign is_whole is_fraction is_exponent⟩

/-- A literal begins with a minus or a digit. -/
theorem IsLiteral.head (h : IsLiteral literal) :
    ∃ c cs, literal = c :: cs ∧ (c = '-' ∨ Decimal.isDigit c = true) := by
  obtain ⟨is_sign, is_whole, -, -⟩ := h
  obtain ⟨c, cs, rfl, hdigit⟩ := head_of_isNumeral is_whole.isNumeral
  obtain rfl | ⟨s, hs, rfl⟩ := is_sign
  · exact ⟨c, _, rfl, .inr hdigit⟩
  · exact ⟨s, _, rfl, .inl (List.mem_singleton.mp hs)⟩

/-! ### Natural numbers -/

/-- A number is written without zeros in front. -/
theorem isWhole_digits (n : Nat) : IsWhole (Decimal.digits n) := by
  have hnumeral := Decimal.isNumeral_digits n
  fun_induction Decimal.digits n with
  | case1 v hv =>
      by_cases hzero : v = 0
      · subst hzero
        exact .zero
      · refine .numeral (fun hc => hzero ?_) hnumeral
        have hcode := congrArg Char.toNat hc
        rw [Decimal.toNat_digitChar, Nat.mod_eq_of_lt hv] at hcode
        exact Nat.add_left_cancel hcode
  | case2 v hv ih =>
      have hvalue := Decimal.value_digits (v / 10)
      have hwhole := ih (Decimal.isNumeral_digits _)
      generalize Decimal.digits (v / 10) = front at hvalue hwhole hnumeral
      cases hwhole with
      | zero =>
          have hzero : 0 = v / 10 := hvalue
          omega
      | numeral nonzero _ =>
          exact .numeral nonzero hnumeral

theorem isLiteral_digits (n : Nat) : IsLiteral (Decimal.digits n) := by
  have hparts := IsLiteral.parts (.inl rfl) (isWhole_digits n) .none .none
  rwa [List.nil_append, List.append_nil, List.append_nil] at hparts

theorem IsWhole.digits_value (h : IsWhole whole) :
    Decimal.digits (Decimal.value whole) = whole := by
  cases h with
  | zero =>
      rw [Decimal.digits_value (List.forall_mem_singleton.mpr (by decide))]
      rfl
  | numeral nonzero digits =>
      exact Decimal.digits_value_cons nonzero (Decimal.isNumeral_iff.mp digits).2

/-- A literal of digits is the way its number is written. -/
theorem IsLiteral.eq_digits {n : Nat} (h : IsLiteral literal)
    (hvalue : Decimal.value? literal = some n) : literal = Decimal.digits n := by
  rw [Decimal.value?, Option.ite_none_right_eq_some, Option.some.injEq] at hvalue
  obtain ⟨hnumeral, rfl⟩ := hvalue
  obtain ⟨-, hall⟩ := Decimal.isNumeral_iff.mp hnumeral
  obtain ⟨is_sign, is_whole, is_fraction, is_exponent⟩ := h
  -- whatever the other parts hold would be no digit
  cases is_sign with
  | inr hsign =>
      obtain ⟨c, hc, rfl⟩ := hsign
      rw [List.mem_singleton.mp hc] at hall
      exact absurd (hall '-' (by simp)) (by decide)
  | inl hsign =>
      cases is_fraction with
      | point _ => exact absurd (hall '.' (by simp)) (by decide)
      | none =>
          cases is_exponent with
          | @mark e _ _ mark _ _ =>
              have he := hall e (by simp)
              rcases mark with rfl | rfl <;> exact absurd he (by decide)
          | none =>
              rw [hsign, List.nil_append, List.append_nil, List.append_nil, is_whole.digits_value]

end literal
end DidKeys.Json
