import DidKeys.Proofs.Bytes.Number
import DidKeys.Signature.Der
import Mathlib.Data.Nat.Size

/-! # Integers in the fewest bytes

The content of an integer that is not negative has a first byte below 128, and a zero in front only
where the next byte is not below 128 (`Der.IsInteger`).  So its length is that of the bits of the
value and one for the sign (`Der.IsInteger.length_eq`), and an integer has no two contents
(`Der.IsInteger.unique`).

Reading takes exactly these contents (`Der.integerValue?_eq_some_iff`), and writing gives the one of
its integer (`Der.isInteger_iff_eq_integerContent`). -/

namespace DidKeys

/-- The bits of a number are those of its first byte and eight for each byte behind it. -/
theorem Bytes.size_toNat_cons {top : UInt8} (htop : top ≠ 0) (rest : Bytes) :
    (toNat (top :: rest)).size = top.toNat.size + 8 * rest.length := by
  have hvalue := toNat_cons top rest
  have hrest := toNat_lt rest
  have hpow : 256 ^ rest.length = 2 ^ (8 * rest.length) := by rw [Nat.pow_mul]
  rw [hpow] at hvalue hrest
  apply Nat.le_antisymm
  · have htopSize : top.toNat + 1 ≤ 2 ^ top.toNat.size := Nat.lt_size_self _
    rw [Nat.size_le, Nat.pow_add, hvalue]
    calc top.toNat * 2 ^ (8 * rest.length) + toNat rest
        < top.toNat * 2 ^ (8 * rest.length) + 2 ^ (8 * rest.length) := Nat.add_lt_add_left hrest _
      _ = (top.toNat + 1) * 2 ^ (8 * rest.length) := (Nat.succ_mul _ _).symm
      _ ≤ 2 ^ top.toNat.size * 2 ^ (8 * rest.length) := Nat.mul_le_mul_right _ htopSize
  · have hne : top.toNat ≠ 0 := fun hzero => htop (UInt8.toNat_inj.mp hzero)
    rw [← Nat.size_shiftLeft hne, Nat.shiftLeft_eq, hvalue]
    exact Nat.size_le_size (Nat.le_add_right _ _)

theorem Bytes.toNat_zero_cons (bs : Bytes) : toNat (0 :: bs) = toNat bs :=
  toNat_replicate_zero_append 1 bs

namespace Der

/-- The content of an integer that is not negative, in the fewest bytes. -/
structure IsInteger (content : Bytes) (v : Nat) : Prop where
  value : Bytes.toNat content = v
  /-- The first bit is that of the sign. -/
  sign : ∃ top rest, content = top :: rest ∧ top < 128
  /-- A zero in front of other bytes is there for the sign. -/
  shortest : ∀ next rest, content = 0 :: next :: rest → 128 ≤ next

section integer
variable {content : Bytes} {v : Nat}

/-- An integer takes up the bytes that its bits and one for the sign fill. -/
theorem IsInteger.length_eq (h : IsInteger content v) : content.length = v.size / 8 + 1 := by
  obtain ⟨rfl, ⟨top, rest, rfl, hlow⟩, hshortest⟩ := h
  by_cases htop : top = 0
  · subst htop
    cases rest with
    | nil => rfl
    | cons next rest =>
        have hhigh : 128 ≤ next.toNat := UInt8.le_iff_toNat_le.mp (hshortest next rest rfl)
        have hnext : next ≠ 0 := by
          rintro rfl
          exact absurd hhigh (by decide)
        have hsize : 7 < next.toNat.size := Nat.lt_size.mpr hhigh
        have hbyte : next.toNat.size ≤ 8 := Nat.size_le.mpr next.toNat_lt
        rw [Bytes.toNat_zero_cons, Bytes.size_toNat_cons hnext, List.length_cons, List.length_cons]
        omega
  · have hsize : top.toNat.size ≤ 7 := Nat.size_le.mpr (UInt8.lt_iff_toNat_lt.mp hlow)
    rw [Bytes.size_toNat_cons htop, List.length_cons]
    omega

theorem IsInteger.unique {other : Bytes} (h : IsInteger content v) (hother : IsInteger other v) :
    content = other := by
  rw [← Bytes.ofNat_toNat_of_length h.length_eq, ← Bytes.ofNat_toNat_of_length hother.length_eq,
    h.value, hother.value]

/-! ### Writing -/

theorem isInteger_integerContent (h : v < 256 ^ 32) : IsInteger (integerContent v) v := by
  have hvalue := Bytes.toNat_dropWhile_zero (Bytes.ofNat 32 v)
  rw [Bytes.toNat_ofNat_of_lt h] at hvalue
  rw [integerContent]
  rcases Bytes.dropWhile_zero_cases (Bytes.ofNat 32 v) with hnil | ⟨top, rest, htop, hdigits⟩
  · rw [hnil] at hvalue ⊢
    refine ⟨hvalue, ⟨0, [], rfl, by decide⟩, ?_⟩
    intro next rest hcontent
    cases hcontent
  · rw [hdigits] at hvalue ⊢
    by_cases hlow : top < 128
    · dsimp only
      rw [if_pos hlow]
      refine ⟨hvalue, ⟨top, rest, rfl, hlow⟩, ?_⟩
      intro next rest hcontent
      exact absurd (List.cons.inj hcontent).1 htop
    · dsimp only
      rw [if_neg hlow]
      refine ⟨?_, ⟨0, top :: rest, rfl, by decide⟩, ?_⟩
      · rw [Bytes.toNat_zero_cons, hvalue]
      · intro next rest hcontent
        cases hcontent
        exact UInt8.not_lt.mp hlow

theorem isInteger_iff_eq_integerContent (h : v < 256 ^ 32) :
    IsInteger content v ↔ content = integerContent v := by
  constructor
  · intro hcontent
    exact hcontent.unique (isInteger_integerContent h)
  · intro hcontent
    rw [hcontent]
    exact isInteger_integerContent h

theorem length_integerContent (h : v < 256 ^ 32) : (integerContent v).length = v.size / 8 + 1 :=
  (isInteger_integerContent h).length_eq

/-- A value with some bytes below its first one takes up more than those. -/
theorem lt_length_integerContent {width : Nat} (h : v < 256 ^ 32) (hlarge : 256 ^ width ≤ v) :
    width < (integerContent v).length := by
  have hsize : 8 * width < v.size := by
    rw [Nat.lt_size, Nat.pow_mul]
    exact hlarge
  rw [length_integerContent h]
  omega

/-! ### Reading -/

theorem integerValue?_zero_cons (next : UInt8) (rest : Bytes) :
    integerValue? (0 :: next :: rest) =
      if next < 128 then none else some (Bytes.toNat (next :: rest)) := rfl

theorem integerValue?_cons {top : UInt8} {rest : Bytes} (h : top ≠ 0 ∨ rest = []) :
    integerValue? (top :: rest) = if top < 128 then some (Bytes.toNat (top :: rest)) else none := by
  unfold integerValue?
  split
  · next heq => cases heq
  · next heq =>
      cases heq
      simp [Bytes.toNat]
  · next heq =>
      cases heq
      simp at h
  · next heq =>
      cases heq
      rfl

/-- A content is read as its value if it has the sign and the length that it has to have. -/
theorem integerValue?_eq_some_iff : integerValue? content = some v ↔ IsInteger content v := by
  constructor
  · intro h
    cases content with
    | nil => cases h
    | cons top rest =>
        by_cases hplain : top ≠ 0 ∨ rest = []
        · rw [integerValue?_cons hplain, Option.ite_none_right_eq_some, Option.some.injEq] at h
          refine ⟨h.2, ⟨top, rest, rfl, h.1⟩, ?_⟩
          rintro next rest ⟨⟩
          simp at hplain
        · obtain ⟨htop, hrest⟩ := not_or.mp hplain
          obtain rfl := not_not.mp htop
          obtain ⟨next, rest, rfl⟩ := List.exists_cons_of_ne_nil hrest
          rw [integerValue?_zero_cons, Option.ite_none_left_eq_some, Option.some.injEq] at h
          refine ⟨?_, ⟨0, next :: rest, rfl, by decide⟩, ?_⟩
          · rw [Bytes.toNat_zero_cons, h.2]
          · rintro next rest ⟨⟩
            exact UInt8.not_lt.mp h.1
  · rintro ⟨rfl, ⟨top, rest, rfl, hlow⟩, hshortest⟩
    by_cases hplain : top ≠ 0 ∨ rest = []
    · rw [integerValue?_cons hplain, if_pos hlow]
    · obtain ⟨htop, hrest⟩ := not_or.mp hplain
      obtain rfl := not_not.mp htop
      obtain ⟨next, rest, rfl⟩ := List.exists_cons_of_ne_nil hrest
      rw [integerValue?_zero_cons, if_neg (UInt8.not_lt.mpr (hshortest next rest rfl)),
        Bytes.toNat_zero_cons]

end integer
end Der
end DidKeys
