import DidKeys.Proofs.Bytes.Number

/-! # Rows of bits

A number is written as a row of bits, the most significant one first, and a row of bits spells a
number (`Bits.toNat`).  Rows of one length that spell one number are equal (`Bits.eq_of_toNat_eq`),
so a statement on bits is a statement on numbers.

Numbers of one width, written one behind the other, are the digits of the number that all their bits
spell (`Bits.toNat_flatMap`); for the bits of a byte string it is the number of the byte string
(`Bytes.toNat_bits`).  Any eight bits are those of a byte, so bits begin with a byte string of any
length that they have room for (`Bytes.exists_bits_append`). -/

namespace DidKeys

namespace Bits

/-- The last `width` bits of a number. -/
def ofNat : (width : Nat) → Nat → List Bool
  | 0, _ => []
  | width + 1, v => v.testBit width :: ofNat width v

/-- The number that a row of bits spells. -/
def toNat : List Bool → Nat
  | [] => 0
  | bit :: bits => 2 ^ bits.length * bit.toNat + toNat bits

section bits
variable {bits more : List Bool} {width v : Nat}

@[simp] theorem length_ofNat (width v : Nat) : (ofNat width v).length = width := by
  induction width with
  | zero => rfl
  | succ width ih => rw [ofNat, List.length_cons, ih]

theorem toNat_lt (bits : List Bool) : toNat bits < 2 ^ bits.length := by
  induction bits with
  | nil => exact Nat.zero_lt_one
  | cons bit bits ih =>
      rw [toNat, List.length_cons, Nat.pow_succ]
      cases bit <;> simp <;> omega

theorem toNat_append (bits more : List Bool) :
    toNat (bits ++ more) = toNat bits * 2 ^ more.length + toNat more := by
  induction bits with
  | nil => simp [toNat]
  | cons bit bits ih =>
      rw [List.cons_append, toNat, toNat, ih, List.length_append, Nat.pow_add]
      ring

theorem toNat_ofNat (width v : Nat) : toNat (ofNat width v) = v % 2 ^ width := by
  induction width with
  | zero => rw [Nat.pow_zero, Nat.mod_one]; rfl
  | succ width ih =>
      rw [ofNat, toNat, length_ofNat, ih, Nat.toNat_testBit, Nat.mod_pow_succ, Nat.add_comm]

theorem toNat_ofNat_of_lt (h : v < 2 ^ width) : toNat (ofNat width v) = v := by
  rw [toNat_ofNat, Nat.mod_eq_of_lt h]

/-- The first bit decides, and then the others do. -/
theorem eq_of_toNat_eq (hlength : bits.length = more.length) (h : toNat bits = toNat more) :
    bits = more := by
  induction bits generalizing more with
  | nil => exact (List.length_eq_zero_iff.mp hlength.symm).symm
  | cons bit bits ih =>
      cases more with
      | nil => cases hlength
      | cons other more =>
          have htail : bits.length = more.length := Nat.succ.inj hlength
          have hlt := toNat_lt bits
          have hlt' := toNat_lt more
          rw [toNat, toNat, htail] at h
          rw [htail] at hlt
          cases bit <;> cases other <;> simp at h
          · rw [ih htail h]
          · omega
          · omega
          · rw [ih htail h]

/-- The last bits of a number are shifted out. -/
theorem shiftRight_of_lt {front back : Nat} (h : back < 2 ^ width) :
    (front * 2 ^ width + back) >>> width = front := by
  rw [Nat.shiftRight_eq_div_pow, Nat.mul_comm, Nat.mul_add_div (Nat.two_pow_pos _),
    Nat.div_eq_of_lt h, Nat.add_zero]

/-- Without the last bits of a row, a number is divided by a power of two. -/
theorem toNat_take (count : Nat) (bits : List Bool) :
    toNat (bits.take count) = toNat bits >>> (bits.length - count) := by
  have hsplit := toNat_append (bits.take count) (bits.drop count)
  have hrest := toNat_lt (bits.drop count)
  rw [List.take_append_drop] at hsplit
  rw [List.length_drop] at hsplit hrest
  rw [hsplit, shiftRight_of_lt hrest]

/-- The bits of numbers of one width, one number behind the other. -/
theorem toNat_flatMap {α : Type} {value : α → Nat} {items : List α}
    (h : ∀ item ∈ items, value item < 2 ^ width) :
    toNat (items.flatMap fun item => ofNat width (value item)) =
      items.foldl (fun v item => v * 2 ^ width + value item) 0 := by
  induction items using List.reverseRecOn with
  | nil => rfl
  | append_singleton init last ih =>
      have hlast := h last (by simp)
      have hinit := ih fun item hitem => h item (by simp [hitem])
      rw [List.flatMap_append, List.flatMap_singleton, toNat_append, hinit, length_ofNat,
        toNat_ofNat_of_lt hlast, List.foldl_append]
      rfl

theorem length_flatMap {α : Type} (value : α → Nat) (items : List α) :
    (items.flatMap fun item => ofNat width (value item)).length = width * items.length := by
  rw [List.length_flatMap]
  simp only [length_ofNat, List.map_const', List.sum_replicate_nat]
  exact Nat.mul_comm _ _

end bits
end Bits

namespace Bytes

/-- The bits of a byte string. -/
def bits (bs : Bytes) : List Bool := bs.flatMap fun b => Bits.ofNat 8 b.toNat

@[simp] theorem length_bits (bs : Bytes) : bs.bits.length = 8 * bs.length :=
  Bits.length_flatMap UInt8.toNat bs

theorem toNat_bits (bs : Bytes) : Bits.toNat bs.bits = toNat bs :=
  Bits.toNat_flatMap fun b _ => b.toNat_lt

/-- Enough bits are those of a byte string and of what follows it. -/
theorem exists_bits_append {bits : List Bool} {length width : Nat}
    (h : bits.length = 8 * length + width) :
    ∃ (bs : Bytes) (rest : List Bool), bs.length = length ∧ rest.length = width ∧
      bits = bs.bits ++ rest := by
  have hfront : (bits.take (8 * length)).length = 8 * length := by
    rw [List.length_take, h]
    exact Nat.min_eq_left (Nat.le_add_right _ _)
  have hback : (bits.drop (8 * length)).length = width := by
    rw [List.length_drop, h, Nat.add_sub_cancel_left]
  have hsmall := Bits.toNat_lt (bits.take (8 * length))
  rw [hfront, Nat.pow_mul] at hsmall
  refine ⟨ofNat length (Bits.toNat (bits.take (8 * length))), bits.drop (8 * length),
    length_ofNat _ _, hback, ?_⟩
  have hbytes : (ofNat length (Bits.toNat (bits.take (8 * length)))).bits =
      bits.take (8 * length) := by
    apply Bits.eq_of_toNat_eq
    · rw [length_bits, length_ofNat, hfront]
    · rw [toNat_bits, toNat_ofNat_of_lt hsmall]
  rw [hbytes, List.take_append_drop]

end Bytes
end DidKeys
