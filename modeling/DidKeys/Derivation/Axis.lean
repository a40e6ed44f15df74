import DidKeys.Text.Decimal

/-! # Steps of a derivation

An axis is one step down the tree of keys: a number below `2³¹` and whether the step is hardened.
Both are packed into one word of 32 bits, the index of the child, whose top bit marks a hardened
step; `index_ofIndex` and `ofIndex_index` say that packing loses nothing. -/

namespace DidKeys

/-- The bit of an index that marks a hardened step. -/
def Axis.hardenedBit : Nat := 0x80000000

/-- One step of a derivation. -/
structure Axis where
  number : Nat
  hardened : Bool
  number_lt : number < Axis.hardenedBit
  deriving DecidableEq, Repr

namespace Axis

/-- The largest number of a step. -/
def maxNumber : Nat := hardenedBit - 1

/-- The step with a given number, if the number is small enough. -/
def ofNumber? (number : Nat) (hardened : Bool) : Option Axis :=
  if h : number < hardenedBit then some ⟨number, hardened, h⟩ else none

/-- The index of a child. -/
def index (axis : Axis) : UInt32 :=
  UInt32.ofNat (if axis.hardened then axis.number + hardenedBit else axis.number)

/-- The step that an index stands for. -/
def ofIndex (index : UInt32) : Axis where
  number := index.toNat % hardenedBit
  hardened := hardenedBit ≤ index.toNat
  number_lt := Nat.mod_lt _ (by decide)

/-- The characters of a step: its number, and a quote for a hardened one. -/
def chars (axis : Axis) : List Char :=
  Decimal.digits axis.number ++ if axis.hardened then ['\''] else []

/-- The text of a step. -/
def text (axis : Axis) : String := String.ofList axis.chars

/-- The place of a step among all steps: by number, and the hardened one second. -/
def rank (axis : Axis) : Nat := 2 * axis.number + axis.hardened.toNat

/-- Steps in the order of their ranks. -/
def sort (axes : List Axis) : List Axis := axes.mergeSort fun a b => a.rank ≤ b.rank

/-! ### Packing -/

theorem toNat_index (axis : Axis) :
    axis.index.toNat = if axis.hardened then axis.number + hardenedBit else axis.number := by
  have h := axis.number_lt
  unfold hardenedBit at h
  unfold index
  split <;> simp [hardenedBit] <;> omega

@[simp] theorem ofIndex_index (axis : Axis) : ofIndex axis.index = axis := by
  have h := axis.number_lt
  have hi := toNat_index axis
  cases axis with
  | mk number hardened lt =>
    simp only [ofIndex, hi, Axis.mk.injEq, hardenedBit] at h ⊢
    cases hardened <;> simp <;> omega

@[simp] theorem index_ofIndex (index : UInt32) : (ofIndex index).index = index := by
  apply UInt32.toNat_inj.1
  have h := index.toNat_lt
  have hmark : (ofIndex index).hardened = decide (0x80000000 ≤ index.toNat) := rfl
  have hnumber : (ofIndex index).number = index.toNat % 0x80000000 := rfl
  have hbit : hardenedBit = 0x80000000 := rfl
  rw [toNat_index, hmark, hnumber, hbit]
  by_cases htop : 0x80000000 ≤ index.toNat
  · rw [decide_eq_true htop, if_pos rfl]
    omega
  · rw [decide_eq_false htop, if_neg (by decide)]
    omega

end Axis
end DidKeys
