import DidKeys.Bytes

/-! # Texts as bytes

The bytes of a text are read back as that text, and two texts with the same bytes are equal.  A
character of ASCII is one byte, and all bytes of any other are above those (`le_of_mem_utf8`), so
changing the case of a text changes its bytes one by one (`ofString_toLower`). -/

namespace DidKeys.Bytes

theorem toByteArray_ofString (text : String) :
    (⟨(ofString text).toArray⟩ : ByteArray) = text.toByteArray := by
  rw [← String.utf8Encode_toList]
  apply ByteArray.ext
  rw [List.utf8Encode, List.data_toByteArray]
  rfl

/-- The bytes of a text are those of its UTF-8 encoding. -/
theorem ofString_eq_toUTF8 (text : String) : ofString text = text.toUTF8.data.toList := by
  rw [String.toUTF8_eq_toByteArray, ← toByteArray_ofString]

@[simp] theorem toString?_ofString (text : String) : toString? (ofString text) = some text := by
  rw [toString?, String.fromUTF8?, toByteArray_ofString, dif_pos text.isValidUTF8]
  rfl

/-- Only the bytes of a text are read as it. -/
theorem toString?_eq_some_iff {bs : Bytes} {text : String} :
    toString? bs = some text ↔ bs = ofString text := by
  constructor
  · intro h
    unfold toString? String.fromUTF8? at h
    split at h
    · cases h
      rw [ofString_eq_toUTF8]
      rfl
    · cases h
  · rintro rfl
    exact toString?_ofString text

theorem ofString_inj {s t : String} (h : ofString s = ofString t) : s = t := by
  have hs := toString?_ofString s
  rw [h, toString?_ofString, Option.some.injEq] at hs
  exact hs.symm

@[simp] theorem ofString_eq_nil {text : String} : ofString text = [] ↔ text = "" := by
  constructor
  · intro h
    exact ofString_inj h
  · rintro rfl
    rfl

/-! ### Letters -/

/-- The byte of a letter in lowercase; any other byte stays as it is. -/
def lower (b : UInt8) : UInt8 := if 65 ≤ b ∧ b ≤ 90 then b + 32 else b

theorem le_of_mem_utf8 {c : Char} (hc : 128 ≤ c.toNat) {b : UInt8}
    (hb : b ∈ String.utf8EncodeChar c) : 128 ≤ b.toNat := by
  have hlarge : ¬c.val.toNat ≤ 0x7f := Nat.not_le.mpr hc
  unfold String.utf8EncodeChar at hb
  dsimp only at hb
  rw [if_neg hlarge] at hb
  split at hb
  · simp only [List.mem_cons, List.not_mem_nil, or_false] at hb
    rcases hb with rfl | rfl <;> simp only [UInt8.toNat_ofNat'] <;> omega
  · split at hb
    · simp only [List.mem_cons, List.not_mem_nil, or_false] at hb
      rcases hb with rfl | rfl | rfl <;> simp only [UInt8.toNat_ofNat'] <;> omega
    · simp only [List.mem_cons, List.not_mem_nil, or_false] at hb
      rcases hb with rfl | rfl | rfl | rfl <;> simp only [UInt8.toNat_ofNat'] <;> omega

theorem utf8_toLower (c : Char) :
    String.utf8EncodeChar c.toLower = (String.utf8EncodeChar c).map lower := by
  rcases Nat.lt_or_ge c.toNat 128 with hc | hc
  · have hall : ∀ n : Fin 128, String.utf8EncodeChar (Char.ofNat n).toLower =
        (String.utf8EncodeChar (Char.ofNat n)).map lower := by
      decide
    have hascii := hall ⟨c.toNat, hc⟩
    rwa [Char.ofNat_toNat] at hascii
  · have hupper : ¬(c.val ≥ 'A'.val ∧ c.val ≤ 'Z'.val) := by
      rintro ⟨-, hle⟩
      have hsmall : c.toNat ≤ 90 := hle
      omega
    have hlower : ∀ b ∈ String.utf8EncodeChar c, lower b = b := by
      intro b hb
      have hlarge := le_of_mem_utf8 hc hb
      refine if_neg fun h => ?_
      have hsmall : b.toNat ≤ 90 := h.2
      omega
    have hsame : c.toLower = c := dif_neg hupper
    rw [hsame, List.map_congr_left hlower, List.map_id']

theorem ofString_toLower (text : String) : ofString text.toLower = (ofString text).map lower := by
  change (text.map Char.toLower).toList.flatMap String.utf8EncodeChar = _
  rw [ofString, String.toList_map, List.flatMap_map, List.map_flatMap]
  simp only [utf8_toLower]

end DidKeys.Bytes
