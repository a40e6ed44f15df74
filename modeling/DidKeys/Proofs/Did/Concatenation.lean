import DidKeys.Proofs.Did.Message
import DidKeys.Proofs.Wire.Concatenation

/-! # Payloads behind one another

Two payloads that create identifiers make up one that creates an identifier with the keys of both,
those of the first one in front (`States.append`): their pieces of the message that creates, and
then their pieces of the state, are put together.  A field with a tag of its own, in front of a
payload or behind it, states nothing (`States.append_unknown`, `States.unknown_append`).

There is one limit.  A group may stand inside 99 others, but no field inside a hundred, so the
deepest group that is read over is empty.  `decode_append` says exactly what becomes of a payload
with an unknown field, and `decode_append_deepest` shows a field just below the limit. -/

namespace DidKeys.Operation

open Wire (IsNested IsRow)

section states
variable {payload first second unknown : Bytes} {content : Option (List RawKey)}

/-! ### What is read -/

theorem decode_eq_ok_iff {op : Operation} :
    decode payload = .ok op ↔ States payload (some (op.keys.map OperationKey.raw)) := by
  rw [decode_eq_iff_verdict]
  constructor
  · intro h
    cases h with
    | ok states => exact states
  · exact .ok

theorem decode_eq_malformed_iff :
    decode payload = .error .malformed ↔ ∀ content, ¬States payload content := by
  rw [decode_eq_iff_verdict]
  constructor
  · intro h
    cases h with
    | malformed none_stated => exact none_stated
  · exact .malformed

/-- Reading depends on what is stated alone. -/
theorem decode_eq_of_states (h : States first content) (hother : States second content) :
    decode first = decode second := by
  unfold decode
  rw [rawKeys?_eq_some_iff.mpr h, rawKeys?_eq_some_iff.mpr hother]

theorem States.exists_isRow (h : States payload content) :
    ∃ fields, IsRow groupLimit payload fields := by
  cases h with
  | other row _ => exact ⟨_, row⟩
  | create row _ _ _ _ => exact ⟨_, row⟩

/-! ### Two payloads -/

theorem States.append {keys others : List RawKey} (h : States first (some keys))
    (hother : States second (some others)) :
    States (first ++ second) (some (keys ++ others)) := by
  cases h with
  | @create _ _ state rows _ row creates states lists stated =>
      cases hother with
      | @create _ _ behind more _ row' creates' states' lists' stated' =>
          refine .create (row.append row') (creates.append creates') (states.append states') ?_
            (List.rel_append stated stated')
          have hboth : (state.merge (· ++ ·) behind).getD [] = state.getD [] ++ behind.getD [] := by
            cases state <;> cases behind <;> simp
          rw [hboth]
          exact lists.append lists'

/-! ### A field that nobody asks for -/

variable {field : Wire.Field}

theorem States.append_unknown (h : States payload content) (hrow : IsRow groupLimit unknown [field])
    (htag : field.tag ≠ 1) : States (payload ++ unknown) content := by
  have hnone : Wire.HoldsMessage (groupLimit - 1) 1 [field] none := Wire.holdsMessage_other htag
  cases h with
  | other row creates => exact .other (row.append hrow) (creates.append hnone)
  | create row creates states lists stated =>
      refine .create (row.append hrow) ?_ states lists stated
      have hcreates := creates.append hnone
      rwa [Option.merge_none_right] at hcreates

theorem States.unknown_append (h : States payload content) (hrow : IsRow groupLimit unknown [field])
    (htag : field.tag ≠ 1) : States (unknown ++ payload) content := by
  have hnone : Wire.HoldsMessage (groupLimit - 1) 1 [field] none := Wire.holdsMessage_other htag
  cases h with
  | other row creates => exact .other (hrow.append row) (hnone.append creates)
  | create row creates states lists stated =>
      refine .create (hrow.append row) ?_ states lists stated
      have hcreates := hnone.append creates
      rwa [Option.merge_none_left] at hcreates

/-- Rows of which one has too many levels make up no payload. -/
theorem decode_append_eq_malformed {levels : Nat} {fields more : List Wire.Field}
    (hfirst : IsRow levels first fields) (hsecond : IsRow levels second more)
    (hdeep : ¬(IsRow groupLimit first fields ∧ IsRow groupLimit second more)) :
    decode (first ++ second) = .error .malformed := by
  rw [decode_eq_malformed_iff]
  intro content h
  obtain ⟨all, hall⟩ := h.exists_isRow
  exact hdeep (hfirst.of_append hsecond hall)

end states

/-! ### Both -/

/-- Payloads of two operations make up the payload of the operation with the keys of both.  A field
with an unknown tag, in which groups may nest at any depth, leaves what is read of a message as it
is, in front of it and behind it; but if a field in it stands inside a hundred groups, nothing is
read at all. -/
theorem decode_append :
    (∀ {first second : Bytes} {op other : Operation}, decode first = .ok op →
      decode second = .ok other → decode (first ++ second) = .ok ⟨op.keys ++ other.keys⟩) ∧
    (∀ {payload unknown : Bytes} {depth : Nat} {field : Wire.Field},
      decode payload ≠ .error .malformed → IsNested depth unknown [field] → field.tag ≠ 1 →
      (IsRow groupLimit unknown [field] →
        decode (payload ++ unknown) = decode payload ∧
          decode (unknown ++ payload) = decode payload) ∧
      (¬IsRow groupLimit unknown [field] →
        decode (payload ++ unknown) = .error .malformed ∧
          decode (unknown ++ payload) = .error .malformed)) := by
  constructor
  · intro first second op other h hother
    rw [decode_eq_ok_iff] at h hother ⊢
    rw [List.map_append]
    exact h.append hother
  · intro payload unknown depth field hread hnested htag
    rw [Ne, decode_eq_malformed_iff, not_forall] at hread
    obtain ⟨content, hstates⟩ := hread
    have hstates := not_not.mp hstates
    refine ⟨fun hrow => ⟨?_, ?_⟩, fun hdeep => ?_⟩
    · exact decode_eq_of_states (hstates.append_unknown hrow htag) hstates
    · exact decode_eq_of_states (hstates.unknown_append hrow htag) hstates
    · obtain ⟨fields, hfields⟩ := hstates.exists_isRow
      have hpayload := hfields.mono (Nat.le_max_left groupLimit (depth + 1))
      have hunknown := hnested.isRow.mono (Nat.le_max_right groupLimit (depth + 1))
      constructor
      · exact decode_append_eq_malformed hpayload hunknown fun h => hdeep h.2
      · exact decode_append_eq_malformed hunknown hpayload fun h => hdeep h.1

/-! ### At the limit -/

/-- Groups in groups, each with the tag 2, and something in the innermost one. -/
def grouped : (depth : Nat) → Bytes → Bytes
  | 0, inner => inner
  | depth + 1, inner => [0x13] ++ (grouped depth inner ++ [0x14])

theorem isNested_grouped {inner : Bytes} {hidden : List Wire.Field} (h : IsNested 0 inner hidden)
    (depth : Nat) : IsNested (depth + 1) (grouped (depth + 1) inner) [⟨2, .group⟩] := by
  have hopens : Wire.IsKey [0x13] 2 .openGroup :=
    ⟨⟨.last (by decide), by decide, by decide⟩, by decide, by decide⟩
  have hcloses : Wire.IsKey [0x14] 2 .closeGroup :=
    ⟨⟨.last (by decide), by decide, by decide⟩, by decide, by decide⟩
  induction depth with
  | zero =>
      have hgroup := IsNested.group hopens h hcloses .nil
      rwa [List.append_nil] at hgroup
  | succ depth ih =>
      have hgroup := IsNested.group hopens ih hcloses .nil
      rwa [List.append_nil] at hgroup

/-- A number with the tag 2. -/
theorem isNested_number : IsNested 0 [0x10, 0x01] [⟨2, .varint 1⟩] := by
  have hkey : Wire.IsKey [0x10] 2 .varint :=
    ⟨⟨.last (by decide), by decide, by decide⟩, by decide, by decide⟩
  have hnumber : Wire.Varint.IsNumber [0x01] 1 := ⟨.last (by decide), by decide, by decide⟩
  exact .scalar hkey (.varint hnumber) .nil

theorem not_isRow_grouped_number : ¬IsRow groupLimit (grouped 100 [0x10, 0x01]) [⟨2, .group⟩] := by
  have hrefused : Wire.fields? groupLimit (grouped 100 [0x10, 0x01]) = none := by decide +kernel
  rw [← Wire.fields?_eq_some_iff (by decide), hrefused]
  exact fun h => nomatch h

/-- Two keys with one name, and a hundred groups with nothing in them or a number. -/
theorem decode_append_grouped :
    let op : Operation := ⟨[⟨"a", .master, ⟨"c", [1], [2]⟩⟩]⟩
    let other : Operation := ⟨[⟨"a", .issuing, ⟨"c", [], [3]⟩⟩]⟩
    decode op.encode = .ok op ∧ decode other.encode = .ok other ∧
      decode (op.encode ++ other.encode) = .ok ⟨op.keys ++ other.keys⟩ ∧
      decode op.encode ≠ .error .malformed ∧
      IsNested 100 (grouped 100 []) [⟨2, .group⟩] ∧
      IsRow groupLimit (grouped 100 []) [⟨2, .group⟩] ∧
      decode (op.encode ++ grouped 100 []) = .ok op ∧
      decode (grouped 100 [] ++ op.encode) = .ok op ∧
      IsNested 100 (grouped 100 [0x10, 0x01]) [⟨2, .group⟩] ∧
      ¬IsRow groupLimit (grouped 100 [0x10, 0x01]) [⟨2, .group⟩] ∧
      decode (op.encode ++ grouped 100 [0x10, 0x01]) = .error .malformed ∧
      decode (grouped 100 [0x10, 0x01] ++ op.encode) = .error .malformed := by
  intro op other
  have hop : decode op.encode = .ok op := by decide +kernel
  have hother : decode other.encode = .ok other := by decide +kernel
  have hread : decode op.encode ≠ .error .malformed := by
    rw [hop]
    exact fun h => nomatch h
  have hempty : IsNested 100 (grouped 100 []) [⟨2, .group⟩] := isNested_grouped .nil 99
  have hnumber : IsNested 100 (grouped 100 [0x10, 0x01]) [⟨2, .group⟩] :=
    isNested_grouped isNested_number 99
  have hrow : IsRow groupLimit (grouped 100 []) [⟨2, .group⟩] :=
    (Wire.fields?_eq_some_iff (by decide)).mp (by decide +kernel)
  obtain ⟨hbehind, hfront⟩ := (decode_append.2 hread hempty (by decide)).1 hrow
  obtain ⟨hbehind', hfront'⟩ :=
    (decode_append.2 hread hnumber (by decide)).2 not_isRow_grouped_number
  exact ⟨hop, hother, decode_append.1 hop hother, hread, hempty, hrow, hbehind.trans hop,
    hfront.trans hop, hnumber, not_isRow_grouped_number, hbehind', hfront'⟩

/-- A number inside a hundred groups is well formed, but is not read over. -/
theorem decode_append_deepest :
    decode [0x0a, 0x02, 0x0a, 0x00] = .ok ⟨[]⟩ ∧
      IsNested 100 (grouped 100 [0x10, 0x01]) [⟨2, .group⟩] ∧
      decode ([0x0a, 0x02, 0x0a, 0x00] ++ grouped 100 [0x10, 0x01]) = .error .malformed ∧
      decode (grouped 100 [0x10, 0x01] ++ [0x0a, 0x02, 0x0a, 0x00]) = .error .malformed := by
  refine ⟨by decide +kernel, isNested_grouped isNested_number 99, ?_, ?_⟩
  · decide +kernel
  · decide +kernel

end DidKeys.Operation
