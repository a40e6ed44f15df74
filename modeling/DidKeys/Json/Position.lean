import DidKeys.Text.Decimal
import DidKeys.Text.Split

/-! # Positions behind messages

What a reader reports is a message with a position in the text behind it: ` at line L column C`.  A
message that ends in a position of its own keeps it and gets no second one, so of such a message
only what stands before its position is the reader's to tell.

* The numbers of a position have 64 bits; one with a larger number is none.
* `dropPosition?_append` says that a position is taken off whole and nothing else with it. -/

namespace DidKeys.Json

/-- The bound of the numbers in a position. -/
def positionBound : Nat := UInt64.size

/-- What stands before the number of a line. -/
def lineHead : List Char := [' ', 'a', 't', ' ', 'l', 'i', 'n', 'e', ' ']

/-- What stands between the numbers of a line and a column. -/
def columnHead : List Char := [' ', 'c', 'o', 'l', 'u', 'm', 'n', ' ']

/-- A position as it is written. -/
def positionChars (line column : Nat) : List Char :=
  lineHead ++ Decimal.digits line ++ (columnHead ++ Decimal.digits column)

/-- What stands before the numeral at the end of a text. -/
def dropNumeral? (cs : List Char) : Option (List Char) :=
  match Decimal.value? (cs.reverse.takeWhile Decimal.isDigit).reverse with
  | some v =>
    if v < positionBound then some (cs.reverse.dropWhile Decimal.isDigit).reverse else none
  | none => none

/-- What stands before the position at the end of a text. -/
def dropPosition? (cs : List Char) : Option (List Char) := do
  let cs ← dropNumeral? cs
  let cs ← Text.dropBack? columnHead cs
  let cs ← dropNumeral? cs
  Text.dropBack? lineHead cs

/-- A message without the position at its end, if it has one. -/
def withoutPosition (message : String) : String :=
  match dropPosition? message.toList with
  | some cs => String.ofList cs
  | none => message

/-! ### Taking off what is there -/

/-- The numeral of a number is taken off whole, behind a text that does not end in a digit. -/
theorem dropNumeral?_append {cs : List Char} {c : Char} (hc : Decimal.isDigit c = false)
    {v : Nat} (h : v < positionBound) :
    dropNumeral? (cs ++ [c] ++ Decimal.digits v) = some (cs ++ [c]) := by
  have hdigits : ∀ d ∈ (Decimal.digits v).reverse, Decimal.isDigit d = true := by
    intro d hd
    exact Decimal.isDigit_of_mem_digits (List.mem_reverse.1 hd)
  have htake : ((cs ++ [c] ++ Decimal.digits v).reverse.takeWhile Decimal.isDigit) =
      (Decimal.digits v).reverse := by
    rw [List.reverse_append, List.takeWhile_append_of_pos hdigits]
    simp [hc]
  have hdrop : ((cs ++ [c] ++ Decimal.digits v).reverse.dropWhile Decimal.isDigit) =
      (cs ++ [c]).reverse := by
    rw [List.reverse_append, List.dropWhile_append_of_pos hdigits]
    simp [hc]
  rw [dropNumeral?, htake, hdrop, List.reverse_reverse, List.reverse_reverse,
    Decimal.value?_digits]
  simp [h]

theorem dropPosition?_append (cs : List Char) {line column : Nat} (hline : line < positionBound)
    (hcolumn : column < positionBound) :
    dropPosition? (cs ++ positionChars line column) = some cs := by
  have hblank : Decimal.isDigit ' ' = false := by decide
  have hlast : dropNumeral? (cs ++ lineHead ++ Decimal.digits line ++ columnHead ++
      Decimal.digits column) = some (cs ++ lineHead ++ Decimal.digits line ++ columnHead) := by
    have hhead : columnHead = [' ', 'c', 'o', 'l', 'u', 'm', 'n'] ++ [' '] := rfl
    rw [hhead, ← List.append_assoc]
    exact dropNumeral?_append hblank hcolumn
  have hfirst : dropNumeral? (cs ++ lineHead ++ Decimal.digits line) = some (cs ++ lineHead) := by
    have hhead : lineHead = [' ', 'a', 't', ' ', 'l', 'i', 'n', 'e'] ++ [' '] := rfl
    rw [hhead, ← List.append_assoc]
    exact dropNumeral?_append hblank hline
  have hwhole : cs ++ positionChars line column =
      cs ++ lineHead ++ Decimal.digits line ++ columnHead ++ Decimal.digits column := by
    simp only [positionChars, List.append_assoc]
  simp only [dropPosition?, hwhole, hlast, hfirst, Option.bind_eq_bind, Option.bind_some,
    Text.dropBack?_append]

end DidKeys.Json
