import DidKeys.Bytes
import Mathlib.Algebra.Group.Nat.Defs
import Mathlib.Data.List.Induction
import Mathlib.Tactic.Ring

/-! # Numbers as bytes

Writing a number and reading it again gives the number modulo `256 ^ width` (`toNat_ofNat`), and a
byte string spells a number below that bound (`toNat_lt`).

A number at a fixed width is a matter of its value alone: `fit?_eq` says what becomes of a byte
string of any length. -/

namespace DidKeys.Bytes

theorem toNat_ofNat (width v : Nat) : toNat (ofNat width v) = v % 256 ^ width := by
  induction width generalizing v with
  | zero =>
      rw [ofNat, toNat_nil, Nat.pow_zero, Nat.mod_one]
  | succ width ih =>
      have hbyte : (UInt8.ofNat v).toNat = v % 256 := UInt8.toNat_ofNat'
      rw [ofNat, toNat_concat, ih, hbyte, Nat.pow_succ, Nat.mul_comm (256 ^ width) 256,
        Nat.mod_mul]
      omega

theorem toNat_ofNat_of_lt {width v : Nat} (h : v < 256 ^ width) : toNat (ofNat width v) = v := by
  rw [toNat_ofNat, Nat.mod_eq_of_lt h]

theorem toNat_lt (bs : Bytes) : toNat bs < 256 ^ bs.length := by
  have h := toNat_ofNat bs.length (toNat bs)
  rw [ofNat_toNat] at h
  rw [h]
  exact Nat.mod_lt _ (Nat.pow_pos (by decide))

/-! ### Zeros in front -/

theorem toNat_append (as bs : Bytes) :
    toNat (as ++ bs) = toNat as * 256 ^ bs.length + toNat bs := by
  induction bs using List.reverseRecOn with
  | nil =>
      rw [List.append_nil, toNat_nil, List.length_nil, Nat.pow_zero, Nat.mul_one, Nat.add_zero]
  | append_singleton init last ih =>
      rw [← List.append_assoc, toNat_concat, toNat_concat, ih, List.length_append,
        List.length_singleton, Nat.pow_succ]
      ring

theorem toNat_cons (b : UInt8) (bs : Bytes) :
    toNat (b :: bs) = b.toNat * 256 ^ bs.length + toNat bs := by
  have hb : toNat [b] = b.toNat := Nat.zero_add b.toNat
  rw [← List.singleton_append, toNat_append, hb]

theorem toNat_dropWhile_zero (bs : Bytes) : toNat (bs.dropWhile (· == 0)) = toNat bs := by
  induction bs with
  | nil => rfl
  | cons b bs ih =>
      rw [List.dropWhile_cons]
      split
      · next hzero =>
          rw [beq_iff_eq.1 hzero, ih, toNat_cons]
          simp
      · rfl

theorem toNat_replicate_zero_append (count : Nat) (bs : Bytes) :
    toNat (List.replicate count 0 ++ bs) = toNat bs := by
  induction count with
  | zero => rfl
  | succ count ih =>
      rw [List.replicate_succ, List.cons_append, toNat_cons, ih]
      simp

/-- A first byte other than zero counts. -/
theorem pow_le_toNat_cons {b : UInt8} (hb : b ≠ 0) (bs : Bytes) :
    256 ^ bs.length ≤ toNat (b :: bs) := by
  have hpos : 0 < b.toNat := by
    apply Nat.pos_of_ne_zero
    intro hzero
    exact hb (UInt8.toNat_inj.1 hzero)
  rw [toNat_cons]
  exact Nat.le_add_right_of_le (Nat.le_mul_of_pos_left _ hpos)

/-- A byte other than zero counts, whatever stands in front of it. -/
theorem pow_le_toNat_append_cons {b : UInt8} (hb : b ≠ 0) (front back : Bytes) :
    256 ^ back.length ≤ toNat (front ++ b :: back) := by
  rw [toNat_append]
  exact Nat.le_trans (pow_le_toNat_cons hb back) (Nat.le_add_left _ _)

/-- Without zeros in front, a byte string is empty or begins with another byte. -/
theorem dropWhile_zero_cases (bs : Bytes) :
    bs.dropWhile (· == 0) = [] ∨ ∃ top rest, top ≠ 0 ∧ bs.dropWhile (· == 0) = top :: rest := by
  have hhead := List.head?_dropWhile_not (fun b : UInt8 => b == 0) bs
  cases hdigits : bs.dropWhile (· == 0) with
  | nil => exact .inl rfl
  | cons top rest =>
      rw [hdigits] at hhead
      exact .inr ⟨top, rest, by simpa using hhead, rfl⟩

/-- Without zeros in front, the length of a byte string says how large its number is. -/
theorem length_dropWhile_le_iff (width : Nat) (bs : Bytes) :
    (bs.dropWhile (· == 0)).length ≤ width ↔ toNat bs < 256 ^ width := by
  have hvalue := toNat_dropWhile_zero bs
  constructor
  · intro hlength
    rw [← hvalue]
    exact Nat.lt_of_lt_of_le (toNat_lt _) (Nat.pow_le_pow_right (by decide) hlength)
  · intro hlt
    rcases dropWhile_zero_cases bs with hnil | ⟨top, rest, htop, hdigits⟩
    · rw [hnil]
      exact Nat.zero_le width
    · rw [hdigits] at hvalue ⊢
      have hpow : 256 ^ rest.length < 256 ^ width := by
        refine Nat.lt_of_le_of_lt (pow_le_toNat_cons htop rest) ?_
        rw [hvalue]
        exact hlt
      exact (Nat.pow_lt_pow_iff_right (by decide)).1 hpow

/-- At a fixed width there is room for the numbers below the bound, however they were spelled. -/
theorem fit?_eq (width : Nat) (bs : Bytes) :
    fit? width bs = if toNat bs < 256 ^ width then some (ofNat width (toNat bs)) else none := by
  unfold fit?
  dsimp only
  by_cases hlength : (bs.dropWhile (· == 0)).length ≤ width
  · rw [if_pos hlength, if_pos ((length_dropWhile_le_iff width bs).1 hlength)]
    congr 1
    have hwidth : (List.replicate (width - (bs.dropWhile (· == 0)).length) 0 ++
        bs.dropWhile (· == 0)).length = width := by
      rw [List.length_append, List.length_replicate]
      omega
    rw [← ofNat_toNat_of_length hwidth, toNat_replicate_zero_append, toNat_dropWhile_zero]
  · rw [if_neg hlength, if_neg fun hlt => hlength ((length_dropWhile_le_iff width bs).2 hlt)]

end DidKeys.Bytes
