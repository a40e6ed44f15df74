import DidKeys.Derivation.Layout
import DidKeys.Proofs.Except

/-! # The texts of paths

No step has a slash in its text, so the text of a path is cut into `m` and the texts of its steps
(`split_chars`), each of which is read as that step (`readSegment_chars`).  Reading the text of a
path therefore gives the path back (`parse_text`). -/

namespace DidKeys

/-! ### Steps -/

namespace Axis

theorem slash_not_mem_chars (axis : Axis) : '/' ∉ axis.chars := by
  intro hmem
  rcases List.mem_append.1 hmem with hdigit | hquote
  · have hslash := Decimal.isDigit_of_mem_digits hdigit
    exact absurd hslash (by decide)
  · revert hquote
    split <;> decide

theorem ofNumber?_number (axis : Axis) : ofNumber? axis.number axis.hardened = some axis :=
  dif_pos axis.number_lt

end Axis

namespace Path

/-- Digits are split off a quote behind them, and off nothing. -/
theorem splitQuote_append {digits : List Char} (h : ∀ c ∈ digits, Decimal.isDigit c = true)
    (marked : Bool) :
    splitQuote (digits ++ if marked then ['\''] else []) = (digits, marked) := by
  unfold splitQuote
  cases marked with
  | true =>
      rw [if_pos rfl, List.getLast?_concat, if_pos rfl, List.dropLast_concat]
  | false =>
      rw [if_neg Bool.false_ne_true, List.append_nil, if_neg]
      intro hlast
      exact absurd (h _ (List.mem_of_getLast? hlast)) (by decide)

/-- Only a hardened step ends with a quote. -/
theorem splitQuote_chars (axis : Axis) :
    splitQuote axis.chars = (Decimal.digits axis.number, axis.hardened) :=
  splitQuote_append (fun _ => Decimal.isDigit_of_mem_digits) axis.hardened

theorem readSegment_chars (whole : String) (axis : Axis) :
    readSegment whole axis.chars = .ok axis := by
  simp only [readSegment, splitQuote_chars, Decimal.value?_digits, Axis.ofNumber?_number]

theorem readSegments_map_chars (whole : String) (axes : List Axis) :
    readSegments whole (axes.map Axis.chars) = .ok axes := by
  induction axes with
  | nil =>
      rfl
  | cons axis axes ih =>
      rw [List.map_cons, readSegments, readSegment_chars, ok_bind, ih]
      rfl

/-! ### Paths -/

theorem split_chars (path : Path) :
    Text.split '/' path.chars = ['m'] :: path.axes.map Axis.chars := by
  have hpieces : ∀ piece ∈ path.axes.map Axis.chars, '/' ∉ piece :=
    List.forall_mem_map.mpr fun axis _ => axis.slash_not_mem_chars
  rw [← Text.split_append_flatMap (show '/' ∉ ['m'] by decide) hpieces, List.flatMap_map]
  rfl

/-- The text of a path is read as that path. -/
theorem parse_text (path : Path) : parse path.text = .ok path := by
  rw [parse, text, String.toList_ofList, split_chars]
  simp only [readSegments_map_chars]
  rfl

end Path

/-! ### Places of the layout -/

theorem Axis.number_of_ofNumber {number : Nat} {hardened : Bool} {axis : Axis}
    (h : Axis.ofNumber number hardened = .ok axis) :
    axis.number = number ∧ axis.hardened = hardened := by
  unfold ofNumber ofNumber? at h
  split at h
  · next hsome =>
    split at hsome
    · cases hsome
      cases h
      exact ⟨rfl, rfl⟩
    · cases hsome
  · cases h

/-- The place of a key is spelled by its three numbers. -/
theorem text_of_keyPath {didIndex keyIndex : Nat} {role : KeyRole} {path : Path}
    (h : keyPath didIndex role keyIndex = .ok path) :
    path.text = "m/" ++ Decimal.text didIndex ++ "'/" ++ Decimal.text role.number ++ "'/" ++
      Decimal.text keyIndex ++ "'" := by
  obtain ⟨did, hdid, hrest⟩ := bind_eq_ok_iff.mp h
  obtain ⟨key, hkey, hpath⟩ := bind_eq_ok_iff.mp hrest
  obtain ⟨rfl, hdidHardened⟩ := Axis.number_of_ofNumber hdid
  obtain ⟨rfl, hkeyHardened⟩ := Axis.number_of_ofNumber hkey
  cases hpath
  apply String.toList_injective
  simp [Path.text, Path.chars, Axis.chars, Decimal.text, hdidHardened, hkeyHardened]

end DidKeys
