/-! # Decimal numerals

A number is written with the fewest decimal digits.  A numeral is one or more digits; zeros in
front are read over.

* `value_digits`: reading what was written gives the number back.
* `digits_ne_nil`, `isDigit_of_mem_digits`: what is written is a numeral. -/

namespace DidKeys.Decimal

/-- The character of a digit; only the last decimal place of the value counts. -/
def digitChar (v : Nat) : Char := Char.ofNat (48 + v % 10)

/-- Whether a character is one of the ten ASCII digits. -/
def isDigit (c : Char) : Bool := 48 ≤ c.toNat && c.toNat ≤ 57

/-- The value of a digit. -/
def digitValue (c : Char) : Nat := c.toNat - 48

/-- The digits of a number, as few as possible. -/
def digits (v : Nat) : List Char :=
  if v < 10 then [digitChar v] else digits (v / 10) ++ [digitChar v]

/-- The number that a row of digits spells. -/
def value (cs : List Char) : Nat := cs.foldl (fun v c => v * 10 + digitValue c) 0

/-- The numeral of a number. -/
def text (v : Nat) : String := String.ofList (digits v)

/-- Whether a text is a numeral: one or more digits and nothing else. -/
def isNumeral (cs : List Char) : Bool := !cs.isEmpty && cs.all isDigit

/-- The number that a numeral spells. -/
def value? (cs : List Char) : Option Nat := if isNumeral cs then some (value cs) else none

/-! ### Reading what was written -/

theorem toNat_digitChar (v : Nat) : (digitChar v).toNat = 48 + v % 10 := by
  have h : v % 10 < 10 := Nat.mod_lt _ (by decide)
  have hall : ∀ d : Fin 10, (Char.ofNat (48 + d.val)).toNat = 48 + d.val := by decide
  exact hall ⟨v % 10, h⟩

@[simp] theorem isDigit_digitChar (v : Nat) : isDigit (digitChar v) = true := by
  simp [isDigit, toNat_digitChar]
  omega

@[simp] theorem digitValue_digitChar (v : Nat) : digitValue (digitChar v) = v % 10 := by
  simp [digitValue, toNat_digitChar]

theorem value_concat (cs : List Char) (c : Char) :
    value (cs ++ [c]) = value cs * 10 + digitValue c := by
  simp [value, List.foldl_append]

@[simp] theorem value_digits (v : Nat) : value (digits v) = v := by
  fun_induction digits v with
  | case1 v h => simp [value]; omega
  | case2 v h ih => rw [value_concat, ih, digitValue_digitChar]; omega

theorem digits_ne_nil (v : Nat) : digits v ≠ [] := by
  unfold digits; split <;> simp

theorem isDigit_of_mem_digits {v : Nat} {c : Char} (h : c ∈ digits v) : isDigit c = true := by
  revert h
  fun_induction digits v with
  | case1 v h => intro hc; simp at hc; simp [hc]
  | case2 v h ih =>
    intro hc
    rcases List.mem_append.1 hc with hc | hc
    · exact ih hc
    · simp at hc; simp [hc]

theorem isNumeral_digits (v : Nat) : isNumeral (digits v) = true := by
  have hnil := digits_ne_nil v
  simp only [isNumeral, Bool.and_eq_true, Bool.not_eq_true', List.isEmpty_eq_false_iff,
    List.all_eq_true]
  exact ⟨hnil, fun c hc => isDigit_of_mem_digits hc⟩

@[simp] theorem value?_digits (v : Nat) : value? (digits v) = some v := by
  simp [value?, isNumeral_digits]

end DidKeys.Decimal
