import DidKeys.Hash.Digest
import DidKeys.Proofs.Bytes.Utf8
import DidKeys.Proofs.Except

/-! # Reading hexadecimal text

A text is read as the bytes whose digits it has in either case (`Digest.ofHex_eq_ok_iff`).  Any
other has one fault, which `Hex.Fault` describes: the number of octets is odd, or it is not the
wanted one, or some octet is no digit and the first of these counts
(`Digest.ofHex_eq_error_iff`). -/

namespace DidKeys

namespace Hex

/-- The octets of the digits, in either case. -/
def digits : Bytes := Bytes.ofString "0123456789abcdefABCDEF"

/-- What is wrong with octets that do not spell a given number of bytes. -/
inductive Fault (size : Nat) (octets : Bytes) : Error → Prop where
  | oddLength (odd : octets.length % 2 = 1) : Fault size octets .oddLength
  | wrongLength (even : octets.length % 2 = 0) (other : octets.length ≠ 2 * size) :
      Fault size octets .wrongLength
  | badDigit {before after : Bytes} {octet : UInt8} (complete : octets.length = 2 * size)
      (parts : octets = before ++ octet :: after) (before_digits : ∀ o ∈ before, o ∈ digits)
      (not_digit : octet ∉ digits) : Fault size octets (.badDigit octet before.length)

/-! ### Digits -/

theorem value?_eq_none_iff (octet : UInt8) : value? octet = none ↔ octet ∉ digits :=
  byte_cases (P := fun o => value? o = none ↔ o ∉ digits) (by decide +kernel) octet

theorem mem_digits_of_value? {octet v : UInt8} (h : value? octet = some v) : octet ∈ digits := by
  refine Decidable.of_not_not fun hnot => ?_
  rw [(value?_eq_none_iff octet).mpr hnot] at h
  cases h

theorem value?_lower (octet : UInt8) : value? (Bytes.lower octet) = value? octet :=
  byte_cases (P := fun o => value? (Bytes.lower o) = value? o) (by decide +kernel) octet

/-- The value of a digit is below sixteen, and its digit is the one in lowercase. -/
theorem lower_of_value? {octet v : UInt8} (h : value? octet = some v) :
    v < 16 ∧ Bytes.lower octet = digit v := by
  have hall := byte_cases (P := fun o =>
      ((value? o).all fun w => w < 16 && Bytes.lower o == digit w) = true)
    (by decide +kernel) octet
  rw [h, Option.all_some, Bool.and_eq_true, decide_eq_true_eq, beq_iff_eq] at hall
  exact hall

theorem value?_of_lower {octet v : UInt8} (h : Bytes.lower octet = digit v) :
    value? octet = some (v % 16) := by
  rw [← value?_lower, h, value?_digit]

/-! ### Many digits -/

section reading
variable {position : Nat} {octets bs : Bytes}

theorem encodeOctets_cons (b : UInt8) (bs : Bytes) :
    encodeOctets (b :: bs) = digit (b / 16) :: digit b :: encodeOctets bs := rfl

theorem encodeOctets_eq_nil_iff : encodeOctets bs = [] ↔ bs = [] := by
  rw [← List.length_eq_zero_iff, length_encodeOctets, ← List.length_eq_zero_iff]
  omega

/-- Two digits are those of a byte exactly if it has their values. -/
theorem digits_of_byte {h l : UInt8} (hh : h < 16) (hl : l < 16) :
    digit ((16 * h + l) / 16) = digit h ∧ digit (16 * h + l) = digit l := by
  have hall : ∀ a b : Fin 16,
      digit ((16 * UInt8.ofNat a + UInt8.ofNat b) / 16) = digit (UInt8.ofNat a) ∧
        digit (16 * UInt8.ofNat a + UInt8.ofNat b) = digit (UInt8.ofNat b) := by
    decide
  have hbyte := hall ⟨h.toNat, hh⟩ ⟨l.toNat, hl⟩
  rwa [UInt8.ofNat_toNat, UInt8.ofNat_toNat] at hbyte

theorem decodeFrom_eq_ok_iff :
    decodeFrom position octets = .ok bs ↔ octets.map Bytes.lower = encodeOctets bs := by
  fun_induction decodeFrom position octets generalizing bs with
  | case1 =>
      rw [List.map_nil, Except.ok.injEq, eq_comm, @eq_comm _ [], encodeOctets_eq_nil_iff]
  | case2 position octet =>
      refine iff_of_false nofun fun h => ?_
      have hlength := congrArg List.length h
      rw [length_encodeOctets] at hlength
      simp only [List.map_cons, List.map_nil, List.length_cons, List.length_nil] at hlength
      omega
  | case3 position hi lo rest hnone =>
      refine iff_of_false nofun fun h => ?_
      cases bs with
      | nil => cases h
      | cons b bs =>
          rw [List.map_cons, encodeOctets_cons] at h
          rw [value?_of_lower (List.cons.inj h).1] at hnone
          cases hnone
  | case4 position hi lo rest v hnone hsome =>
      refine iff_of_false nofun fun h => ?_
      cases bs with
      | nil => cases h
      | cons b bs =>
          rw [List.map_cons, List.map_cons, encodeOctets_cons] at h
          rw [value?_of_lower (List.cons.inj (List.cons.inj h).2).1] at hnone
          cases hnone
  | case5 position hi lo rest h l hlow hhigh ih =>
      obtain ⟨hh, hhi⟩ := lower_of_value? hhigh
      obtain ⟨hl, hlo⟩ := lower_of_value? hlow
      rw [bind_eq_ok_iff, List.map_cons, List.map_cons]
      constructor
      · rintro ⟨tail, htail, hbs⟩
        cases hbs
        obtain ⟨hfirst, hsecond⟩ := digits_of_byte hh hl
        rw [ih.mp htail, encodeOctets_cons, hhi, hlo, hfirst, hsecond]
      · intro heq
        cases bs with
        | nil => cases heq
        | cons b bs =>
            rw [encodeOctets_cons, List.cons.injEq, List.cons.injEq] at heq
            obtain ⟨hfirst, hsecond, hrest⟩ := heq
            have hb := byte_eq b
            rw [value?_of_lower hfirst, Option.some.injEq] at hhigh
            rw [value?_of_lower hsecond, Option.some.injEq] at hlow
            rw [hhigh, hlow] at hb
            exact ⟨bs, ih.mpr hrest, congrArg (fun first => Except.ok (first :: bs)) hb⟩

/-- The first octet that is no digit is found, and where it stands. -/
theorem decodeFrom_of_badDigit {before after : Bytes} {octet : UInt8}
    (heven : octets.length % 2 = 0) (hparts : octets = before ++ octet :: after)
    (hbefore : ∀ o ∈ before, o ∈ digits) (hoctet : octet ∉ digits) :
    decodeFrom position octets = .error (.badDigit octet (position + before.length)) := by
  -- two octets go at a time, and the bad one is either of two or behind them
  fun_induction decodeFrom position octets generalizing before with
  | case1 => simp at hparts
  | case2 position o => simp at heven
  | case3 position hi lo rest hnone =>
      cases before with
      | nil =>
          cases hparts
          rfl
      | cons o before =>
          obtain ⟨rfl, -⟩ := List.cons.inj hparts
          exact absurd (hbefore hi List.mem_cons_self) ((value?_eq_none_iff hi).mp hnone)
  | case4 position hi lo rest v hnone hsome =>
      cases before with
      | nil =>
          cases hparts
          exact absurd (mem_digits_of_value? hsome) hoctet
      | cons o before =>
          cases before with
          | nil =>
              cases hparts
              rfl
          | cons p before =>
              cases hparts
              have hlo := hbefore lo (List.mem_cons_of_mem _ List.mem_cons_self)
              exact absurd hlo ((value?_eq_none_iff lo).mp hnone)
  | case5 position hi lo rest h l hlow hhigh ih =>
      cases before with
      | nil =>
          cases hparts
          exact absurd (mem_digits_of_value? hhigh) hoctet
      | cons o before =>
          cases before with
          | nil =>
              cases hparts
              exact absurd (mem_digits_of_value? hlow) hoctet
          | cons p before =>
              rw [List.cons_append, List.cons_append, List.cons.injEq, List.cons.injEq] at hparts
              obtain ⟨-, -, hrest⟩ := hparts
              rw [List.length_cons, List.length_cons] at heven
              have hbehind := ih (by omega) hrest fun q hq =>
                hbefore q (List.mem_cons_of_mem _ (List.mem_cons_of_mem _ hq))
              rw [hbehind, List.length_cons, List.length_cons,
                show position + 2 + before.length = position + (before.length + 1 + 1) by omega]
              rfl

theorem exists_decodeFrom_of_digits (position : Nat) (heven : octets.length % 2 = 0)
    (h : ∀ o ∈ octets, o ∈ digits) : ∃ bs, decodeFrom position octets = .ok bs := by
  fun_induction decodeFrom position octets with
  | case1 => exact ⟨[], rfl⟩
  | case2 position o => simp at heven
  | case3 position hi lo rest hnone =>
      exact absurd (h hi List.mem_cons_self) ((value?_eq_none_iff hi).mp hnone)
  | case4 position hi lo rest v hnone hsome =>
      have hlo := h lo (List.mem_cons_of_mem _ List.mem_cons_self)
      exact absurd hlo ((value?_eq_none_iff lo).mp hnone)
  | case5 position hi lo rest high low hlow hhigh ih =>
      rw [List.length_cons, List.length_cons] at heven
      obtain ⟨bs, hbs⟩ := ih (by omega) fun o ho =>
        h o (List.mem_cons_of_mem _ (List.mem_cons_of_mem _ ho))
      rw [hbs]
      exact ⟨_, rfl⟩

/-- An even number of octets is only refused for the first of them that is no digit. -/
theorem exists_badDigit_of_decodeFrom {cause : Error} (heven : octets.length % 2 = 0)
    (h : decodeFrom position octets = .error cause) :
    ∃ before octet after, octets = before ++ octet :: after ∧ (∀ o ∈ before, o ∈ digits) ∧
      octet ∉ digits ∧ cause = .badDigit octet (position + before.length) := by
  have hbad : ∃ o ∈ octets, o ∉ digits := by
    refine Decidable.of_not_not fun hnot => ?_
    have hall : ∀ o ∈ octets, o ∈ digits := fun o ho =>
      Decidable.of_not_not fun hbad => hnot ⟨o, ho, hbad⟩
    obtain ⟨bs, hbs⟩ := exists_decodeFrom_of_digits position heven hall
    rw [h] at hbs
    cases hbs
  have hsome : (octets.find? fun o => decide (o ∉ digits)).isSome = true :=
    List.find?_isSome.mpr (by simpa using hbad)
  obtain ⟨octet, hfind⟩ := Option.isSome_iff_exists.mp hsome
  obtain ⟨hoctet, before, after, hparts, hbefore⟩ := List.find?_eq_some_iff_append.mp hfind
  have hnot : octet ∉ digits := by simpa using hoctet
  have hdigits : ∀ o ∈ before, o ∈ digits := by simpa using hbefore
  rw [decodeFrom_of_badDigit heven hparts hdigits hnot] at h
  exact ⟨before, octet, after, hparts, hdigits, hnot, (Except.error.inj h).symm⟩

end reading

/-! ### Texts of a given size -/

section sized
variable {size : Nat} {text : String}

theorem decodeSized_eq_ok_iff {bs : Bytes} :
    decodeSized size text = .ok bs ↔ bs.length = size ∧ text.toLower = encode bs := by
  have hdigits : text.toLower = encode bs ↔
      (Bytes.ofString text).map Bytes.lower = encodeOctets bs := by
    rw [← Bytes.ofString_toLower, ← ofString_encode]
    exact ⟨congrArg Bytes.ofString, Bytes.ofString_inj⟩
  rw [hdigits]
  constructor
  · intro h
    unfold decodeSized at h
    dsimp only at h
    split at h
    · cases h
    · split at h
      · cases h
      · have hread := decodeFrom_eq_ok_iff.mp h
        have hlength := congrArg List.length hread
        rw [List.length_map, length_encodeOctets] at hlength
        exact ⟨by omega, hread⟩
  · rintro ⟨rfl, hread⟩
    have hlength := congrArg List.length hread
    rw [List.length_map, length_encodeOctets] at hlength
    unfold decodeSized
    dsimp only
    rw [if_neg (by omega), if_neg (by omega)]
    exact decodeFrom_eq_ok_iff.mpr hread

theorem decodeSized_eq_error_iff {cause : Error} :
    decodeSized size text = .error cause ↔ Fault size (Bytes.ofString text) cause := by
  constructor
  · intro h
    unfold decodeSized at h
    dsimp only at h
    split at h
    · next hodd =>
      cases h
      exact .oddLength hodd
    · next hodd =>
      split at h
      · next hother =>
        cases h
        exact .wrongLength (by omega) (by omega)
      · obtain ⟨before, octet, after, hparts, hbefore, hoctet, rfl⟩ :=
          exists_badDigit_of_decodeFrom (by omega) h
        rw [Nat.zero_add]
        exact .badDigit (by omega) hparts hbefore hoctet
  · intro h
    unfold decodeSized
    dsimp only
    cases h with
    | oddLength odd => rw [if_pos odd]
    | wrongLength even other => rw [if_neg (by omega), if_pos (by omega)]
    | badDigit complete parts before_digits not_digit =>
        rw [if_neg (by omega), if_neg (by omega),
          decodeFrom_of_badDigit (by omega) parts before_digits not_digit, Nat.zero_add]

end sized
end Hex

/-! ### Digests -/

namespace Digest
variable {text : String}

/-- A text is read as a digest exactly if it has the digits of the digest in either case. -/
theorem ofHex_eq_ok_iff {digest : Digest} :
    ofHex text = .ok digest ↔ text.toLower = digest.hex := by
  rw [ofHex, bind_eq_ok_iff]
  simp only [Hex.decodeSized_eq_ok_iff]
  constructor
  · rintro ⟨bs, ⟨hlength, hread⟩, hdigest⟩
    rw [ofBytes?, dif_pos hlength] at hdigest
    cases hdigest
    exact hread
  · intro hread
    refine ⟨digest.bytes, ⟨digest.length_bytes, hread⟩, ?_⟩
    rw [ofBytes?_bytes]

theorem ofHex_eq_error_iff {cause : Hex.Error} :
    ofHex text = .error cause ↔ Hex.Fault 32 (Bytes.ofString text) cause := by
  rw [ofHex, bind_eq_error_iff, Hex.decodeSized_eq_error_iff, or_iff_left]
  rintro ⟨bs, hread, hnone⟩
  rw [ofBytes?, dif_pos (Hex.decodeSized_eq_ok_iff.mp hread).1] at hnone
  cases hnone

end Digest
end DidKeys
