import DidKeys.Proofs.Key.Encoding
import Mathlib.Logic.Function.Basic

/-! # Numbers are taken by their values

A number that comes in as a byte string counts for its value alone, however many zeros stand in
front of it.  It is brought to a fixed width just when there is room for its value
(`Bytes.fit?_eq_some_iff`), and is a private key just when it is a scalar other than zero
(`PrivateKey.exists_ofBytes_iff`).  So the readers of private keys and of coordinates factor through
the value, with their faults.

The sum of a private key and a tweak is taken modulo the order of the group, and is a key unless the
tweak is too large or the sum is zero (`PrivateKey.tweak_eq_ok_iff`). -/

namespace DidKeys

/-! ### Fixed width -/

namespace Bytes

/-- A number has one form of a width, if it has room there. -/
theorem fit?_eq_some_iff {width : Nat} {bs out : Bytes} :
    fit? width bs = some out ↔
      toNat bs < 256 ^ width ∧ out.length = width ∧ toNat out = toNat bs := by
  rw [fit?_eq]
  constructor
  · intro h
    obtain ⟨hlt, hout⟩ := Option.ite_none_right_eq_some.mp h
    cases hout
    exact ⟨hlt, length_ofNat _ _, toNat_ofNat_of_lt hlt⟩
  · rintro ⟨hlt, hlength, hvalue⟩
    rw [if_pos hlt, ← hvalue, ofNat_toNat_of_length hlength]

theorem exists_fit?_iff {width : Nat} {bs : Bytes} :
    (∃ out, fit? width bs = some out) ↔ toNat bs < 256 ^ width := by
  constructor
  · rintro ⟨out, h⟩
    exact (fit?_eq_some_iff.mp h).1
  · intro hlt
    exact ⟨_, fit?_eq_some_iff.mpr ⟨hlt, length_ofNat _ _, toNat_ofNat_of_lt hlt⟩⟩

theorem fit?_factorsThrough (width : Nat) : (fit? width).FactorsThrough toNat := by
  intro bs cs h
  rw [fit?_eq, fit?_eq, h]

end Bytes

/-! ### Private keys -/

namespace PrivateKey
variable {bs : Bytes} {key child : PrivateKey} {tweak : Nat}

theorem length_toBytes (key : PrivateKey) : key.toBytes.length = 32 := Bytes.length_ofNat _ _

theorem toNat_toBytes (key : PrivateKey) : Bytes.toNat key.toBytes = key.scalar.val :=
  Bytes.toNat_ofNat_of_lt (Nat.lt_trans key.scalar.isLt (by decide))

/-- The scalars of private keys are the numbers from one to the order of the group. -/
theorem exists_scalar_iff {v : Nat} :
    (∃ key : PrivateKey, key.scalar.val = v) ↔ 1 ≤ v ∧ v ≤ groupOrder - 1 := by
  constructor
  · rintro ⟨key, rfl⟩
    exact ⟨key.one_le_scalar, key.scalar_le⟩
  · rintro ⟨hpos, hle⟩
    have hlt : v < groupOrder := Nat.lt_of_le_pred (by decide) hle
    refine ⟨⟨⟨v, hlt⟩, ?_⟩, rfl⟩
    intro hzero
    have hv : v = 0 := congrArg Fin.val hzero
    omega

theorem exists_ofBytes_iff :
    (∃ key, ofBytes bs = .ok key) ↔ 1 ≤ Bytes.toNat bs ∧ Bytes.toNat bs ≤ groupOrder - 1 := by
  rw [← exists_scalar_iff]
  exact exists_congr fun key => ofBytes_eq_ok_iff.trans eq_comm

theorem ofBytes_factorsThrough : ofBytes.FactorsThrough Bytes.toNat := by
  intro bs cs h
  rw [ofBytes, ofBytes, ofBytes?, ofBytes?, Bytes.fit?_factorsThrough _ h]

theorem eq_privateKeyRange_of_ofBytes {cause : KeyError} (h : ofBytes bs = .error cause) :
    cause = .privateKeyRange := by
  unfold ofBytes at h
  cases hkey : ofBytes? bs with
  | some key =>
      rw [hkey] at h
      cases h
  | none =>
      rw [hkey] at h
      cases h
      rfl

/-- What is no private key is refused for its range. -/
theorem ofBytes_eq_error_iff {cause : KeyError} :
    ofBytes bs = .error cause ↔
      cause = .privateKeyRange ∧ ¬(1 ≤ Bytes.toNat bs ∧ Bytes.toNat bs ≤ groupOrder - 1) := by
  rw [← exists_ofBytes_iff]
  exact eq_error_iff_of_only fun _ => eq_privateKeyRange_of_ofBytes

/-- A tweak leads to the key of the sum modulo the order of the group. -/
theorem tweak_eq_ok_iff :
    key.tweak tweak = .ok child ↔
      tweak < groupOrder ∧ child.scalar.val = (key.scalar.val + tweak) % groupOrder := by
  unfold PrivateKey.tweak
  cases hscalar : Scalar.ofNat? tweak with
  | none =>
      have hlarge := Nat.not_lt.mpr (Scalar.ofNat?_eq_none_iff.mp hscalar)
      exact iff_of_false (fun h => nomatch h) fun h => hlarge h.1
  | some t =>
      obtain rfl := Scalar.ofNat?_eq_some_iff.mp hscalar
      dsimp only
      rw [and_iff_right t.isLt, ← Fin.val_add, ← Fin.ext_iff, ← ofScalar?_eq_some_iff]
      cases ofScalar? (key.scalar + t) with
      | none => exact iff_of_false (fun h => nomatch h) (fun h => nomatch h)
      | some found => rw [Except.ok.injEq, Option.some.injEq]

/-- A tweak leads to a key if it is a scalar and the sum is not zero. -/
theorem exists_tweak_iff :
    (∃ child, key.tweak tweak = .ok child) ↔
      tweak < groupOrder ∧ (key.scalar.val + tweak) % groupOrder ≠ 0 := by
  simp only [tweak_eq_ok_iff, exists_and_left, exists_scalar_iff]
  refine and_congr_right fun _ => ?_
  have hlt := Nat.mod_lt (key.scalar.val + tweak) (show 0 < groupOrder by decide)
  omega

theorem tweak_eq_error_iff_mod {cause : KeyError} :
    key.tweak tweak = .error cause ↔
      cause = .tweak ∧ ¬(tweak < groupOrder ∧ (key.scalar.val + tweak) % groupOrder ≠ 0) := by
  rw [← exists_tweak_iff]
  exact eq_error_iff_of_only fun _ => eq_tweak_of_tweak_eq_error

end PrivateKey

/-! ### Coordinates -/

namespace PublicKey

theorem ofCoordinates_factorsThrough_left (y : Bytes) :
    (fun x => ofCoordinates x y).FactorsThrough Bytes.toNat := by
  intro x x' h
  simp only [ofCoordinates, Bytes.fit?_factorsThrough _ h]

theorem ofCoordinates_factorsThrough_right (x : Bytes) :
    (ofCoordinates x).FactorsThrough Bytes.toNat := by
  intro y y' h
  simp only [ofCoordinates, Bytes.fit?_factorsThrough _ h]

end PublicKey

/-! ### Values -/

/-- A byte string fits 32 bytes just when its value does, and is a private key just when its value
is one; either way the value is kept.  Byte strings of one value are taken alike, as private keys
and as coordinates.  The private keys are the numbers from one to the order of the group, and a
tweak leads from one to their sum modulo the order, unless it is too large or the sum is zero. -/
theorem taken_by_value :
    (∀ bs : Bytes,
      ((∃ out, Bytes.fit? 32 bs = some out) ↔ Bytes.toNat bs < 2 ^ 256) ∧
      ∀ out, Bytes.fit? 32 bs = some out →
        out.length = 32 ∧ Bytes.toNat out = Bytes.toNat bs) ∧
    (∀ bs : Bytes,
      ((∃ key, PrivateKey.ofBytes bs = .ok key) ↔
        1 ≤ Bytes.toNat bs ∧ Bytes.toNat bs ≤ groupOrder - 1) ∧
      (∀ key, PrivateKey.ofBytes bs = .ok key →
        key.toBytes.length = 32 ∧ Bytes.toNat key.toBytes = Bytes.toNat bs) ∧
      ∀ cause, PrivateKey.ofBytes bs = .error cause ↔
        cause = .privateKeyRange ∧
          ¬(1 ≤ Bytes.toNat bs ∧ Bytes.toNat bs ≤ groupOrder - 1)) ∧
    (∀ bs cs : Bytes, Bytes.toNat bs = Bytes.toNat cs →
      PrivateKey.ofBytes bs = PrivateKey.ofBytes cs ∧
      (∀ y, PublicKey.ofCoordinates bs y = PublicKey.ofCoordinates cs y) ∧
      ∀ x, PublicKey.ofCoordinates x bs = PublicKey.ofCoordinates x cs) ∧
    (∀ k : Nat, (∃ key : PrivateKey, Bytes.toNat key.toBytes = k) ↔
      1 ≤ k ∧ k ≤ groupOrder - 1) ∧
    ∀ (key : PrivateKey) (tweak : Bytes),
      ((∃ child, key.tweak (Bytes.toNat tweak) = .ok child) ↔
        Bytes.toNat tweak < groupOrder ∧
          (Bytes.toNat key.toBytes + Bytes.toNat tweak) % groupOrder ≠ 0) ∧
      (∀ child, key.tweak (Bytes.toNat tweak) = .ok child →
        Bytes.toNat child.toBytes =
          (Bytes.toNat key.toBytes + Bytes.toNat tweak) % groupOrder) ∧
      ∀ cause, key.tweak (Bytes.toNat tweak) = .error cause ↔
        cause = .tweak ∧ ¬(Bytes.toNat tweak < groupOrder ∧
          (Bytes.toNat key.toBytes + Bytes.toNat tweak) % groupOrder ≠ 0) := by
  refine ⟨fun bs => ⟨?fits, ?fitted⟩, fun bs => ⟨PrivateKey.exists_ofBytes_iff, ?read,
    fun cause => PrivateKey.ofBytes_eq_error_iff⟩, ?alike, fun k => ?keys, ?tweak⟩
  case fits =>
    rw [show (2 ^ 256 : Nat) = 256 ^ 32 by decide]
    exact Bytes.exists_fit?_iff
  case fitted =>
    intro out h
    exact (Bytes.fit?_eq_some_iff.mp h).2
  case read =>
    intro key h
    refine ⟨key.length_toBytes, ?_⟩
    rw [key.toNat_toBytes, PrivateKey.ofBytes_eq_ok_iff.mp h]
  case alike =>
    intro bs cs h
    exact ⟨PrivateKey.ofBytes_factorsThrough h,
      fun y => PublicKey.ofCoordinates_factorsThrough_left y h,
      fun x => PublicKey.ofCoordinates_factorsThrough_right x h⟩
  case keys =>
    simp only [PrivateKey.toNat_toBytes]
    exact PrivateKey.exists_scalar_iff
  case tweak =>
    intro key tweak
    simp only [PrivateKey.toNat_toBytes]
    exact ⟨PrivateKey.exists_tweak_iff, fun child h => (PrivateKey.tweak_eq_ok_iff.mp h).2,
      fun cause => PrivateKey.tweak_eq_error_iff_mod⟩

/-- A key with a zero in front of it, values one past either end of the range, and the tweaks that
lead from the key one to the last key and to zero. -/
theorem taken_by_value_ends :
    (∃ key, PrivateKey.ofBytes (0 :: List.replicate 32 0x7f) = .ok key ∧
      PrivateKey.ofBytes (List.replicate 32 0x7f) = .ok key ∧
      key.toBytes.length = 32 ∧
      Bytes.toNat key.toBytes = Bytes.toNat (List.replicate 32 0x7f)) ∧
    PrivateKey.ofBytes [] = .error .privateKeyRange ∧
    PrivateKey.ofBytes (Bytes.ofNat 32 groupOrder) = .error .privateKeyRange ∧
    (¬∃ out, Bytes.fit? 32 (1 :: List.replicate 32 0) = some out) ∧
    ∃ one last : PrivateKey, Bytes.toNat one.toBytes = 1 ∧
      one.tweak (Bytes.toNat (Bytes.ofNat 32 (groupOrder - 2))) = .ok last ∧
      Bytes.toNat last.toBytes = groupOrder - 1 ∧
      one.tweak (Bytes.toNat (Bytes.ofNat 32 (groupOrder - 1))) = .error .tweak ∧
      one.tweak (Bytes.toNat (Bytes.ofNat 32 groupOrder)) = .error .tweak := by
  obtain ⟨hfit, hread, halike, hkeys, htweak⟩ := taken_by_value
  refine ⟨?_, ?_, ?_, ?_, ?_⟩
  · obtain ⟨key, hkey⟩ := (hread (0 :: List.replicate 32 0x7f)).1.mpr (by decide)
    have hsame := (halike (0 :: List.replicate 32 0x7f) (List.replicate 32 0x7f) (by decide)).1
    rw [hsame] at hkey
    obtain ⟨hlength, hvalue⟩ := (hread (List.replicate 32 0x7f)).2.1 key hkey
    exact ⟨key, hsame.trans hkey, hkey, hlength, hvalue⟩
  · exact ((hread []).2.2 .privateKeyRange).mpr (by decide)
  · exact ((hread (Bytes.ofNat 32 groupOrder)).2.2 .privateKeyRange).mpr (by decide)
  · rw [(hfit (1 :: List.replicate 32 0)).1]
    decide
  · obtain ⟨one, hone⟩ := (hkeys 1).mpr (by decide)
    have hlast := (htweak one (Bytes.ofNat 32 (groupOrder - 2))).1
    rw [hone] at hlast
    obtain ⟨last, hsum⟩ := hlast.mpr (by decide)
    have hvalue := (htweak one _).2.1 last hsum
    rw [hone] at hvalue
    refine ⟨one, last, hone, hsum, hvalue.trans (by decide), ?_, ?_⟩
    · exact ((htweak one _).2.2 .tweak).mpr (by rw [hone]; decide)
    · exact ((htweak one _).2.2 .tweak).mpr (by rw [hone]; decide)

end DidKeys
