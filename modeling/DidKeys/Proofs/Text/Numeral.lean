import DidKeys.Text.Decimal
import Mathlib.Data.List.Induction

/-! # Numerals and their zeros

A number is written without zeros in front, and a numeral that has none is the way its value is
written (`digits_value_cons`).  So writing the value of any numeral again takes its zeros off
(`digits_value`). -/

namespace DidKeys.Decimal

/-! ### One digit -/

theorem digitValue_lt {c : Char} (h : isDigit c = true) : digitValue c < 10 := by
  simp only [isDigit, Bool.and_eq_true, decide_eq_true_eq] at h
  unfold digitValue
  omega

theorem digitChar_digitValue {c : Char} (h : isDigit c = true) : digitChar (digitValue c) = c := by
  have hlt := digitValue_lt h
  simp only [isDigit, Bool.and_eq_true, decide_eq_true_eq] at h
  have hcode : 48 + digitValue c % 10 = c.toNat := by
    rw [Nat.mod_eq_of_lt hlt, digitValue]
    omega
  rw [digitChar, hcode, Char.ofNat_toNat]

/-- A digit behind a number other than zero is written behind that number. -/
theorem digits_mul_add {v d : Nat} (hv : v ≠ 0) (hd : d < 10) :
    digits (v * 10 + d) = digits v ++ [digitChar d] := by
  have hdiv : (v * 10 + d) / 10 = v := by omega
  have hmod : (v * 10 + d) % 10 = d % 10 := by omega
  rw [digits, if_neg (by omega), hdiv, digitChar, hmod]
  rfl

/-! ### Many digits -/

theorem isNumeral_iff {cs : List Char} :
    isNumeral cs = true ↔ cs ≠ [] ∧ ∀ c ∈ cs, isDigit c = true := by
  rw [isNumeral, Bool.and_eq_true, Bool.not_eq_true', List.isEmpty_eq_false_iff, List.all_eq_true]

/-- A numeral without a zero in front is the way its value is written. -/
theorem digits_value_cons {c : Char} {cs : List Char} (hc : c ≠ '0')
    (hall : ∀ d ∈ c :: cs, isDigit d = true) : digits (value (c :: cs)) = c :: cs := by
  induction cs using List.reverseRecOn with
  | nil =>
      have hdigit := List.forall_mem_singleton.mp hall
      have hvalue : value [c] = digitValue c := by
        rw [value, List.foldl_cons, List.foldl_nil, Nat.zero_mul, Nat.zero_add]
      rw [hvalue, digits, if_pos (digitValue_lt hdigit), digitChar_digitValue hdigit]
  | append_singleton init d ih =>
      rw [← List.cons_append] at hall ⊢
      have hinit := ih fun e he => hall e (List.mem_append_left _ he)
      have hd := hall d (List.mem_append_right _ (List.mem_singleton_self d))
      have hvalue : value (c :: init) ≠ 0 := by
        intro hzero
        rw [hzero, digits, if_pos (by decide)] at hinit
        exact hc (List.cons.inj hinit).1.symm
      rw [value_concat, digits_mul_add hvalue (digitValue_lt hd), hinit, digitChar_digitValue hd]

/-- A numeral without the zeros in front; of zeros only, one is left. -/
def trim (cs : List Char) : List Char :=
  match cs.dropWhile (· == '0') with
  | [] => ['0']
  | cs => cs

/-- Zeros in front do not count. -/
theorem value_dropWhile_zero (cs : List Char) : value (cs.dropWhile (· == '0')) = value cs := by
  induction cs with
  | nil =>
      rfl
  | cons c cs ih =>
      rw [List.dropWhile_cons]
      split
      · next hzero =>
        rw [eq_of_beq hzero, ih]
        rfl
      · rfl

theorem isDigit_of_mem_trim {cs : List Char} (h : ∀ c ∈ cs, isDigit c = true) :
    ∀ c ∈ trim cs, isDigit c = true := by
  unfold trim
  split
  · exact List.forall_mem_singleton.mpr (by decide)
  · exact fun c hc => h c (List.dropWhile_subset _ hc)

theorem trim_ne_nil (cs : List Char) : trim cs ≠ [] := by
  unfold trim
  split
  · exact List.cons_ne_nil _ _
  · next hne => exact hne

/-- Writing the value of a numeral takes the zeros in front off. -/
theorem digits_value {cs : List Char} (h : ∀ c ∈ cs, isDigit c = true) :
    digits (value cs) = trim cs := by
  have hall : ∀ c ∈ cs.dropWhile (· == '0'), isDigit c = true :=
    fun c hc => h c (List.dropWhile_subset _ hc)
  have hhead := List.head?_dropWhile_not (· == '0') cs
  rw [← value_dropWhile_zero, trim]
  cases hrest : cs.dropWhile (· == '0') with
  | nil =>
      rw [value, List.foldl_nil, digits, if_pos (by decide)]
      rfl
  | cons c rest =>
      rw [hrest] at hall hhead
      have hc : c ≠ '0' := by simpa using hhead
      exact digits_value_cons hc hall

end DidKeys.Decimal
