import DidKeys.Bytes

/-! # Numbers of variable width

A number is cut into groups of seven bits, the lowest group first, one group a byte; the top bit of
a byte says that more follow.

* `write` takes as few bytes as possible, `read?` need not find as few.
* A number has 64 bits: at most ten bytes, of which the tenth is zero or one.
* `read?_write`: reading what was written gives the number and the rest back. -/

namespace DidKeys.Wire.Varint

/-- The bytes of a number. -/
def write (v : Nat) : Bytes :=
  if v < 128 then [UInt8.ofNat v] else UInt8.ofNat (v % 128 + 128) :: write (v / 128)

/-- A number of at most `room` bytes at the front, and what follows it; the last byte that there is
room for holds a single bit. -/
def readWithin? : (room : Nat) → Bytes → Option (Nat × Bytes)
  | 0, _ => none
  | _ + 1, [] => none
  | room + 1, b :: bs =>
    if b.toNat < 128 then
      if room = 0 ∧ 2 ≤ b.toNat then none else some (b.toNat, bs)
    else (readWithin? room bs).map fun (high, rest) => (b.toNat - 128 + 128 * high, rest)

theorem length_write_le (v : Nat) : (write v).length ≤ v / 128 + 1 := by
  fun_induction write v with
  | case1 v _ => simp
  | case2 v _ ih =>
    rw [List.length_cons]
    omega

/-- The most bytes of a number. -/
def maxLength : Nat := 10

/-- The number at the front, and what follows it. -/
def read? (bs : Bytes) : Option (Nat × Bytes) := readWithin? maxLength bs

/-! ### Reading what was written -/

/-- The numbers that fit into some bytes, the last of which holds a single bit. -/
def capacity : (room : Nat) → Nat
  | 0 => 0
  | 1 => 2
  | room + 2 => 128 * capacity (room + 1)

theorem readWithin?_write (room v : Nat) (h : v < capacity room) (rest : Bytes) :
    readWithin? room (write v ++ rest) = some (v, rest) := by
  induction room generalizing v with
  | zero => simp [capacity] at h
  | succ room ih =>
    unfold write
    split
    · next hv =>
      have hb : (UInt8.ofNat v).toNat = v := by rw [UInt8.toNat_ofNat']; omega
      have hroom : ¬ (room = 0 ∧ 2 ≤ v) := by
        rintro ⟨rfl, h2⟩
        simp [capacity] at h
        omega
      simp [readWithin?, hb, hv, hroom]
    · next hv =>
      have hb : (UInt8.ofNat (v % 128 + 128)).toNat = v % 128 + 128 := by
        rw [UInt8.toNat_ofNat']; omega
      cases room with
      | zero => simp [capacity] at h; omega
      | succ room =>
        have hnot : ¬ v % 128 + 128 < 128 := by omega
        have hrest := ih (v / 128) (by simp only [capacity] at h; omega)
        have hv' : v % 128 + 128 - 128 + 128 * (v / 128) = v := by omega
        rw [List.cons_append, readWithin?, hb, if_neg hnot, hrest, Option.map_some]
        simp only [hv']

theorem capacity_maxLength : capacity maxLength = UInt64.size := by decide

theorem read?_write {v : Nat} (h : v < UInt64.size) (rest : Bytes) :
    read? (write v ++ rest) = some (v, rest) :=
  readWithin?_write maxLength v (capacity_maxLength ▸ h) rest

theorem length_lt_of_readWithin? {room : Nat} {bs rest : Bytes} {v : Nat}
    (h : readWithin? room bs = some (v, rest)) : rest.length < bs.length := by
  induction room generalizing bs v with
  | zero => simp [readWithin?] at h
  | succ room ih =>
    cases bs with
    | nil => simp [readWithin?] at h
    | cons b bs =>
      unfold readWithin? at h
      split at h
      · split at h
        · simp at h
        · simp only [Option.some.injEq, Prod.mk.injEq] at h
          simp [h.2]
      · obtain ⟨⟨high, r⟩, hr, he⟩ := Option.map_eq_some_iff.1 h
        simp only [Prod.mk.injEq] at he
        have := ih (he.2 ▸ hr)
        rw [List.length_cons]
        omega

/-- A number has at least one byte. -/
theorem length_lt_of_read? {bs rest : Bytes} {v : Nat} (h : read? bs = some (v, rest)) :
    rest.length < bs.length :=
  length_lt_of_readWithin? h

end DidKeys.Wire.Varint
