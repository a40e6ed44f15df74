import DidKeys.Proofs.Signature.Encoding
import DidKeys.Proofs.Signature.Opposite

/-! # The one encoding of a signature

`Der.Encodes` says which bytes encode a signature: both numbers are scalars other than zero, each is
an integer in the fewest bytes, and lengths are single bytes below 128 that leave nothing behind.

Exactly these bytes are written (`Der.encode_eq_ok_iff`), and exactly these are read
(`Der.decode_eq_ok_iff`), so writing and reading are inverse to each other
(`Der.encode_decode_inverse`). -/

namespace DidKeys.Der

/-! ### Items -/

/-- A tag, the length of a content in one byte, and the content. -/
inductive IsItem (tag : UInt8) : Bytes → Bytes → Prop
  | item {length : UInt8} {content : Bytes} (short : length < 128)
      (length_eq : length.toNat = content.length) : IsItem tag content (tag :: length :: content)

section item
variable {tag : UInt8} {content bs : Bytes}

theorem isItem_iff : IsItem tag content bs ↔ content.length < 128 ∧ bs = item tag content := by
  constructor
  · rintro ⟨hshort, hlength⟩
    refine ⟨?_, ?_⟩
    · rw [← hlength]
      exact UInt8.lt_iff_toNat_lt.mp hshort
    · rw [item, ← hlength, UInt8.ofNat_toNat]
  · rintro ⟨hshort, rfl⟩
    have hlength := toNat_length_of_lt hshort
    apply IsItem.item
    · rw [UInt8.lt_iff_toNat_lt, hlength]
      exact hshort
    · exact hlength

/-- What is split off is an item, and what follows it is left. -/
theorem takeItem?_eq_some_iff {rest : Bytes} :
    takeItem? tag bs = some (content, rest) ↔
      ∃ front, IsItem tag content front ∧ bs = front ++ rest := by
  constructor
  · intro h
    match bs, h with
    | [], h => cases h
    | [_], h => cases h
    | t :: length :: tail, h =>
        rw [takeItem?, Option.ite_none_right_eq_some, Option.some.injEq, Prod.mk.injEq] at h
        obtain ⟨⟨rfl, hshort, hfits⟩, rfl, rfl⟩ := h
        have hlength : length.toNat = (tail.take length.toNat).length := by
          rw [List.length_take, Nat.min_eq_left hfits]
        refine ⟨_, .item hshort hlength, ?_⟩
        rw [List.cons_append, List.cons_append, List.take_append_drop]
  · rintro ⟨front, hfront, rfl⟩
    obtain ⟨hshort, rfl⟩ := isItem_iff.mp hfront
    exact takeItem?_item tag hshort rest

end item

/-! ### Signatures -/

theorem unit?_eq_some_iff {content : Bytes} {k : Scalar} :
    unit? content = some k ↔ IsInteger content k.val ∧ k ≠ 0 := by
  unfold unit?
  simp only [Option.bind_eq_bind, Option.bind_eq_some_iff, integerValue?_eq_some_iff,
    Signature.unit?_eq_some_iff]
  constructor
  · rintro ⟨v, hcontent, rfl, hk⟩
    exact ⟨hcontent, hk⟩
  · rintro ⟨hcontent, hk⟩
    exact ⟨k.val, hcontent, rfl, hk⟩

/-- The bytes encode the signature. -/
structure Encodes (sig : Signature) (der : Bytes) : Prop where
  inRange : sig.InRange
  items : ∃ r s first second, IsInteger r sig.r.toNat ∧ IsInteger s sig.s.toNat ∧
    IsItem 0x02 r first ∧ IsItem 0x02 s second ∧ IsItem 0x30 (first ++ second) der

section signature
variable {sig : Signature} {der : Bytes}

/-- Bytes are read as the signature that they encode. -/
theorem decode_eq_ok_iff : decode der = .ok sig ↔ Encodes sig der := by
  have hread : decode der = .ok sig ↔ decode? der = some sig := by
    unfold decode
    cases decode? der with
    | none => exact iff_of_false (fun h => nomatch h) (fun h => nomatch h)
    | some found => rw [Except.ok.injEq, Option.some.injEq]
  rw [hread]
  unfold decode?
  simp only [Option.bind_eq_bind, Option.bind_eq_some_iff, Prod.exists, takeItem?_eq_some_iff,
    unit?_eq_some_iff, Option.guard_eq_some', exists_const, Option.pure_def, Option.some.injEq]
  constructor
  · rintro ⟨_, _, ⟨front, hder, rfl⟩, rfl, r, _, ⟨first, hfirst, rfl⟩, s, _, ⟨second, hsecond, rfl⟩,
      rfl, x, ⟨hr, hx⟩, y, ⟨hs, hy⟩, rfl⟩
    rw [List.append_nil] at hder ⊢
    refine ⟨Signature.inRange_ofScalars hx hy, r, s, first, second, ?_, ?_, hfirst, hsecond, hder⟩
    · rw [Signature.toNat_r_ofScalars]
      exact hr
    · rw [Signature.toNat_s_ofScalars]
      exact hs
  · rintro ⟨hrange, r, s, first, second, hr, hs, hfirst, hsecond, hder⟩
    obtain ⟨x, y, hx, hy, rfl⟩ := hrange.exists_ofScalars
    rw [Signature.toNat_r_ofScalars] at hr
    rw [Signature.toNat_s_ofScalars] at hs
    exact ⟨first ++ second, [], ⟨der, hder, (List.append_nil der).symm⟩, rfl, r, second,
      ⟨first, hfirst, rfl⟩, s, [], ⟨second, hsecond, (List.append_nil second).symm⟩, rfl,
      x, ⟨hr, hx⟩, y, ⟨hs, hy⟩, rfl⟩

/-- A signature is written as the bytes that encode it. -/
theorem encode_eq_ok_iff : encode sig = .ok der ↔ Encodes sig der := by
  constructor
  · intro h
    cases hscalars : sig.scalars? with
    | none =>
        rw [encode, hscalars] at h
        cases h
    | some pair =>
        obtain ⟨x, y, hx, hy, rfl⟩ := (Signature.inRange_of_scalars? hscalars).exists_ofScalars
        rw [encode_ofScalars hx hy, Except.ok.injEq] at h
        rw [← h, ← decode_eq_ok_iff]
        exact decode_ofScalars hx hy
  · rintro ⟨hrange, r, s, first, second, hr, hs, hfirst, hsecond, hder⟩
    obtain ⟨x, y, hx, hy, rfl⟩ := hrange.exists_ofScalars
    rw [Signature.toNat_r_ofScalars, isInteger_iff_eq_integerContent x.val_lt] at hr
    rw [Signature.toNat_s_ofScalars, isInteger_iff_eq_integerContent y.val_lt] at hs
    obtain ⟨_, rfl⟩ := isItem_iff.mp hfirst
    obtain ⟨_, rfl⟩ := isItem_iff.mp hsecond
    obtain ⟨_, rfl⟩ := isItem_iff.mp hder
    rw [encode_ofScalars hx hy, ofScalars, hr, hs]

theorem encode_of_not_inRange (h : ¬ sig.InRange) : encode sig = .error .signatureEncoding := by
  unfold encode
  split
  · next hscalars => exact absurd (Signature.inRange_of_scalars? hscalars) h
  · rfl

theorem exists_encode (h : sig.InRange) : ∃ der, encode sig = .ok der := by
  obtain ⟨x, y, hx, hy, rfl⟩ := h.exists_ofScalars
  exact ⟨_, encode_ofScalars hx hy⟩

/-- The shortest encodings are those of two numbers of one byte each. -/
theorem Encodes.length_bounds (h : Encodes sig der) : 8 ≤ der.length ∧ der.length ≤ 72 := by
  obtain ⟨x, y, hx, hy, rfl⟩ := h.inRange.exists_ofScalars
  have hwritten := encode_eq_ok_iff.mpr h
  rw [encode_ofScalars hx hy, Except.ok.injEq] at hwritten
  have hxSize := x.size_val_le
  have hySize := y.size_val_le
  rw [← hwritten, length_ofScalars]
  omega

end signature

/-- The signatures in range are written, and bytes are read as a signature exactly if it is written
as these bytes; so what is read again is valid for what the signature was valid for. -/
theorem encode_decode_inverse :
    (∀ sig : Signature,
      if 0 < sig.r.toNat ∧ sig.r.toNat < groupOrder ∧
          0 < sig.s.toNat ∧ sig.s.toNat < groupOrder then
        ∃ der, encode sig = .ok der ∧ decode der = .ok sig
      else encode sig = .error .signatureEncoding) ∧
    (∀ (sig : Signature) (der : Bytes), decode der = .ok sig ↔ encode sig = .ok der) ∧
    (∀ (sig : Signature) (der : Bytes), decode der = .ok sig ↔ Encodes sig der) ∧
    (∀ (sig decoded : Signature) (der : Bytes), encode sig = .ok der → decode der = .ok decoded →
      ∀ (key : PublicKey) (message : Bytes),
        key.verify message decoded = key.verify message sig) := by
  have hinverse : ∀ (sig : Signature) (der : Bytes),
      decode der = .ok sig ↔ encode sig = .ok der := by
    intro sig der
    rw [decode_eq_ok_iff, encode_eq_ok_iff]
  refine ⟨?written, hinverse, fun _ _ => decode_eq_ok_iff, ?judged⟩
  case written =>
    intro sig
    split
    · next hnumbers =>
      obtain ⟨hr, hrLt, hs, hsLt⟩ := hnumbers
      obtain ⟨der, hder⟩ := exists_encode ⟨hr, hrLt, hs, hsLt⟩
      exact ⟨der, hder, (hinverse sig der).mpr hder⟩
    · next hnumbers =>
      apply encode_of_not_inRange
      intro hrange
      exact hnumbers ⟨hrange.r_pos, hrange.r_lt, hrange.s_pos, hrange.s_lt⟩
  case judged =>
    intro sig decoded der hder hdecoded key message
    rw [(hinverse sig der).mpr hder, Except.ok.injEq] at hdecoded
    rw [hdecoded]

/-- The numbers 1 and 128: the second one has a zero in front of it, and no second one. -/
theorem encode_decode_inverse_small :
    decode [0x30, 7, 2, 1, 1, 2, 2, 0, 128] = .ok ⟨1, 128⟩ ∧
      ∀ der, der ≠ [0x30, 7, 2, 1, 1, 2, 2, 0, 128] → decode der ≠ .ok ⟨1, 128⟩ := by
  have hwritten : encode ⟨1, 128⟩ = .ok [0x30, 7, 2, 1, 1, 2, 2, 0, 128] := by decide
  obtain ⟨_, hinverse, _, _⟩ := encode_decode_inverse
  refine ⟨(hinverse _ _).mpr hwritten, ?_⟩
  intro der hne hread
  have hother := (hinverse _ _).mp hread
  rw [hwritten, Except.ok.injEq] at hother
  exact hne hother.symm

end DidKeys.Der
