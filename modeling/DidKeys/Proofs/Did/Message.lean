import DidKeys.Did.Operation
import DidKeys.Proofs.Did.OperationRoundTrip
import DidKeys.Proofs.Except
import DidKeys.Proofs.Wire.Grammar

/-! # What the bytes of an operation say

`Operation.States payload content` says that a payload is a message of the schema, and what it
states: nothing about an identifier, or the keys of one, which are not judged yet.
`Operation.Verdict payload outcome` goes on from there and says what the payload is taken for: the
first fault of its keys counts.  Both are written against the grammar of rows and mention no reader.

Reading a payload comes to the outcome of its verdict (`decode_eq_iff_verdict`). -/

namespace DidKeys

open Wire (HoldsBytes HoldsTexts HoldsNumbers HoldsRows HoldsMessage IsRow)

/-! ### Messages of the schema -/

/-- Key data and fields that state them: of each kind the last field counts. -/
structure KeyData.StatedBy (data : KeyData) (fields : List Wire.Field) : Prop where
  curve : ∃ texts, HoldsTexts 1 fields texts ∧ texts.getLast?.getD "" = data.curve
  x : ∃ parts, HoldsBytes 2 fields parts ∧ parts.getLast?.getD [] = data.x
  y : ∃ parts, HoldsBytes 3 fields parts ∧ parts.getLast?.getD [] = data.y

/-- A key and fields that state it, maybe without key data. -/
structure RawKey.StatedBy (key : RawKey) (fields : List Wire.Field) : Prop where
  id : ∃ texts, HoldsTexts 1 fields texts ∧ texts.getLast?.getD "" = key.id
  usage : ∃ values, HoldsNumbers 2 fields values ∧
    usageOfNumber (values.getLast?.getD 0) = key.usage
  data : ∃ inner, HoldsMessage (groupLimit - 4) 8 fields inner ∧
    Option.Rel KeyData.StatedBy key.data inner

namespace Operation

/-- A payload that is a message of the schema, and the keys of the identifier that it creates, if it
creates one. -/
inductive States : Bytes → Option (List RawKey) → Prop where
  | other {payload : Bytes} {fields : List Wire.Field} (row : IsRow groupLimit payload fields)
      (creates : HoldsMessage (groupLimit - 1) 1 fields none) : States payload none
  | create {payload : Bytes} {fields create : List Wire.Field} {state : Option (List Wire.Field)}
      {rows : List (List Wire.Field)} {keys : List RawKey} (row : IsRow groupLimit payload fields)
      (creates : HoldsMessage (groupLimit - 1) 1 fields (some create))
      (states : HoldsMessage (groupLimit - 2) 1 create state)
      (lists : HoldsRows (groupLimit - 3) 2 (state.getD []) rows)
      (stated : List.Forall₂ RawKey.StatedBy keys rows) : States payload (some keys)

/-- A payload and what it is taken for. -/
inductive Verdict : Bytes → Except OperationError Operation → Prop where
  /-- It is no message of the schema. -/
  | malformed {payload : Bytes} (none_stated : ∀ content, ¬States payload content) :
      Verdict payload (.error .malformed)
  /-- It does not create an identifier. -/
  | notCreate {payload : Bytes} (states : States payload none) :
      Verdict payload (.error .notCreate)
  /-- Behind sound keys is one with a usage that nobody has heard of, whether or not it has data. -/
  | unknownUsage {payload : Bytes} {sound : List OperationKey} {key : RawKey} {rest : List RawKey}
      (states : States payload (some (sound.map OperationKey.raw ++ key :: rest)))
      (unknown : ∀ usage : KeyUsage, key.usage ≠ usage.code) :
      Verdict payload (.error (.unknownUsage key.usage))
  /-- Behind sound keys is one of a known usage, but without data. -/
  | noKeyData {payload : Bytes} {sound : List OperationKey} {key : RawKey} {rest : List RawKey}
      {usage : KeyUsage} (states : States payload (some (sound.map OperationKey.raw ++ key :: rest)))
      (known : key.usage = usage.code) (no_data : key.data = none) :
      Verdict payload (.error (.noKeyData key.id))
  /-- All keys are sound. -/
  | ok {payload : Bytes} {op : Operation}
      (states : States payload (some (op.keys.map OperationKey.raw))) : Verdict payload (.ok op)

end Operation

/-! ### Reading messages -/

theorem KeyData.ofFields?_eq_some_iff {fields : List Wire.Field} {data : KeyData} :
    ofFields? fields = some data ↔ data.StatedBy fields := by
  simp only [ofFields?, Option.bind_eq_bind, Option.bind_eq_some_iff, Option.pure_def,
    Option.some.injEq]
  constructor
  · rintro ⟨curve, hcurve, x, hx, y, hy, rfl⟩
    exact ⟨Wire.text?_eq_some_iff.1 hcurve, Wire.bytes?_eq_some_iff.1 hx,
      Wire.bytes?_eq_some_iff.1 hy⟩
  · intro h
    exact ⟨_, Wire.text?_eq_some_iff.2 h.curve, _, Wire.bytes?_eq_some_iff.2 h.x, _,
      Wire.bytes?_eq_some_iff.2 h.y, rfl⟩

namespace RawKey
variable {fields : List Wire.Field}

theorem statedBy_of_read {id : String} {value : Nat} {data : Option KeyData}
    {inner : Option (List Wire.Field)} (hid : Wire.text? 1 fields = some id)
    (hvalue : Wire.number? 2 fields = some value)
    (hinner : Wire.message? (groupLimit - 4) 8 fields = some inner)
    (hdata : Option.Rel KeyData.StatedBy data inner) :
    StatedBy ⟨id, usageOfNumber value, data⟩ fields := by
  obtain ⟨values, hvalues, hlast⟩ := Wire.number?_eq_some_iff.1 hvalue
  refine ⟨Wire.text?_eq_some_iff.1 hid, ⟨values, hvalues, by rw [hlast]⟩, inner, ?_, hdata⟩
  exact (Wire.message?_eq_some_iff_holds (by decide)).1 hinner

theorem ofFields?_eq_some_iff {key : RawKey} : ofFields? fields = some key ↔ key.StatedBy fields := by
  constructor
  · intro h
    rw [ofFields?, Option.bind_eq_bind, Option.bind_eq_some_iff] at h
    obtain ⟨inner, hinner, h⟩ := h
    cases inner with
    | none =>
        simp only [Option.bind_eq_bind, Option.bind_some, Option.bind_eq_some_iff, Option.pure_def,
          Option.some.injEq] at h
        obtain ⟨id, hid, value, hvalue, rfl⟩ := h
        exact statedBy_of_read hid hvalue hinner .none
    | some inner =>
        simp only [Option.bind_eq_bind, Option.bind_map, Option.bind_eq_some_iff, Option.pure_def,
          Option.some.injEq, Function.comp_apply] at h
        obtain ⟨data, hdata, id, hid, value, hvalue, rfl⟩ := h
        exact statedBy_of_read hid hvalue hinner (.some (KeyData.ofFields?_eq_some_iff.1 hdata))
  · rintro ⟨hid, ⟨values, hvalues, husage⟩, inner, hinner, hdata⟩
    have htext := Wire.text?_eq_some_iff.2 hid
    have hnumber := Wire.number?_eq_some_iff.2 ⟨values, hvalues, rfl⟩
    have hmessage := (Wire.message?_eq_some_iff_holds (by decide)).2 hinner
    obtain ⟨id, usage, data⟩ := key
    dsimp only at hdata husage htext
    cases hdata with
    | none => simp [ofFields?, hmessage, htext, hnumber, husage]
    | some hstated =>
        simp [ofFields?, hmessage, KeyData.ofFields?_eq_some_iff.2 hstated, htext, hnumber, husage]

end RawKey

namespace Operation
variable {payload : Bytes}

theorem rawKeys?_eq_some_iff {content : Option (List RawKey)} :
    (Wire.fields? groupLimit payload).bind rawKeys? = some content ↔ States payload content := by
  constructor
  · intro h
    obtain ⟨fields, hfields, h⟩ := Option.bind_eq_some_iff.1 h
    have hrow := (Wire.fields?_eq_some_iff (by decide)).1 hfields
    rw [rawKeys?, Option.bind_eq_bind, Option.bind_eq_some_iff] at h
    obtain ⟨create, hcreate, h⟩ := h
    rw [Wire.message?_eq_some_iff_holds (by decide)] at hcreate
    cases create with
    | none =>
        cases h
        exact .other hrow hcreate
    | some create =>
        simp only [Option.bind_eq_bind, Option.bind_eq_some_iff] at h
        obtain ⟨state, hstate, h⟩ := h
        rw [Wire.message?_eq_some_iff_holds (by decide)] at hstate
        cases state with
        | none =>
            cases h
            exact .create hrow hcreate hstate (Wire.holdsRows_nil_iff.2 rfl) .nil
        | some state =>
            simp only [Option.bind_eq_some_iff, Option.pure_def, Option.some.injEq,
              mapM_eq_some_iff, RawKey.ofFields?_eq_some_iff] at h
            obtain ⟨rows, hrows, keys, hkeys, rfl⟩ := h
            rw [Wire.messages?_eq_some_iff_holds (by decide)] at hrows
            exact .create hrow hcreate hstate hrows hkeys.flip
  · intro h
    cases h with
    | other row creates =>
        rw [(Wire.fields?_eq_some_iff (by decide)).2 row, Option.bind_some, rawKeys?,
          (Wire.message?_eq_some_iff_holds (by decide)).2 creates]
        rfl
    | @create fields create state rows keys row creates states lists stated =>
        rw [(Wire.fields?_eq_some_iff (by decide)).2 row, Option.bind_some, rawKeys?,
          (Wire.message?_eq_some_iff_holds (by decide)).2 creates]
        have hstate := (Wire.message?_eq_some_iff_holds (by decide)).2 states
        cases state with
        | none =>
            rw [Wire.holdsRows_nil_iff.1 lists] at stated
            cases stated
            simp [hstate]
        | some state =>
            have hrows := (Wire.messages?_eq_some_iff_holds (by decide)).2 lists
            have hkeys : rows.mapM RawKey.ofFields? = some keys := by
              simp only [mapM_eq_some_iff, RawKey.ofFields?_eq_some_iff]
              exact stated.flip
            simp only [Option.getD_some] at hrows
            simp [hstate, hrows, hkeys]

end Operation

/-! ### Judging keys -/

theorem KeyUsage.ofCode?_eq_some_iff {code : Int} {usage : KeyUsage} :
    ofCode? code = some usage ↔ code = usage.code := by
  constructor
  · intro h
    have hcode := List.find?_some h
    exact (beq_iff_eq.1 hcode).symm
  · rintro rfl
    exact ofCode?_code usage

theorem KeyUsage.ofCode?_eq_none_iff {code : Int} :
    ofCode? code = none ↔ ∀ usage : KeyUsage, code ≠ usage.code := by
  rw [Option.eq_none_iff_forall_ne_some]
  exact forall_congr' fun usage => not_congr ofCode?_eq_some_iff

namespace RawKey
variable {key : RawKey} {cause : OperationError}

theorem judge_eq_ok_iff {found : OperationKey} : key.judge = .ok found ↔ key = found.raw := by
  constructor
  · intro h
    unfold judge at h
    split at h
    · cases h
    · cases h
    · next usage data husage hdata =>
        cases h
        obtain ⟨id, code, inner⟩ := key
        have hcode := KeyUsage.ofCode?_eq_some_iff.1 husage
        simp only at hcode hdata
        rw [OperationKey.raw, hcode, hdata]
  · rintro rfl
    exact found.judge_raw

theorem judge_eq_error_iff :
    key.judge = .error cause ↔
      ((∀ usage : KeyUsage, key.usage ≠ usage.code) ∧ cause = .unknownUsage key.usage) ∨
        ∃ usage : KeyUsage, key.usage = usage.code ∧ key.data = none ∧ cause = .noKeyData key.id := by
  constructor
  · intro h
    unfold judge at h
    split at h
    · next husage =>
        cases h
        exact .inl ⟨KeyUsage.ofCode?_eq_none_iff.1 husage, rfl⟩
    · next usage husage hdata =>
        cases h
        exact .inr ⟨usage, KeyUsage.ofCode?_eq_some_iff.1 husage, hdata, rfl⟩
    · cases h
  · rintro (⟨hunknown, rfl⟩ | ⟨usage, hknown, hdata, rfl⟩)
    · rw [judge, KeyUsage.ofCode?_eq_none_iff.2 hunknown]
    · rw [judge, KeyUsage.ofCode?_eq_some_iff.2 hknown, hdata]

end RawKey

namespace Operation

theorem judgeKeys_eq_ok_iff {keys : List RawKey} {found : List OperationKey} :
    judgeKeys keys = .ok found ↔ keys = found.map OperationKey.raw := by
  constructor
  · intro h
    induction keys generalizing found with
    | nil =>
        cases h
        rfl
    | cons key keys ih =>
        obtain ⟨first, hfirst, h⟩ := bind_eq_ok_iff.1 h
        obtain ⟨others, hothers, h⟩ := bind_eq_ok_iff.1 h
        cases h
        rw [List.map_cons, RawKey.judge_eq_ok_iff.1 hfirst, ih hothers]
  · rintro rfl
    exact judgeKeys_raw found

/-- Keys are refused for the first of them that is. -/
theorem judgeKeys_eq_error_iff {keys : List RawKey} {cause : OperationError} :
    judgeKeys keys = .error cause ↔ ∃ (sound : List OperationKey) (key : RawKey) (rest : List RawKey),
      keys = sound.map OperationKey.raw ++ key :: rest ∧ key.judge = .error cause := by
  constructor
  · intro h
    induction keys with
    | nil => cases h
    | cons key keys ih =>
        rcases bind_eq_error_iff.1 h with hkey | ⟨first, hfirst, h⟩
        · exact ⟨[], key, keys, rfl, hkey⟩
        · obtain ⟨sound, bad, rest, rfl, hbad⟩ := ih (bind_pure_eq_error_iff.1 h)
          refine ⟨first :: sound, bad, rest, ?_, hbad⟩
          rw [RawKey.judge_eq_ok_iff.1 hfirst]
          rfl
  · rintro ⟨sound, key, rest, rfl, hkey⟩
    induction sound with
    | nil =>
        rw [List.map_nil, List.nil_append, judgeKeys, hkey]
        rfl
    | cons first sound ih =>
        rw [List.map_cons, List.cons_append, judgeKeys, OperationKey.judge_raw, ok_bind, ih]
        rfl

/-! ### Verdicts -/

theorem decode_of_states_some {payload : Bytes} {keys : List RawKey}
    (h : States payload (some keys)) : decode payload = (judgeKeys keys).map Operation.mk := by
  rw [decode, rawKeys?_eq_some_iff.2 h]
  dsimp only
  cases judgeKeys keys <;> rfl

theorem verdict_decode (payload : Bytes) : Verdict payload (decode payload) := by
  cases hread : (Wire.fields? groupLimit payload).bind rawKeys? with
  | none =>
      rw [decode, hread]
      refine .malformed fun content hstates => ?_
      rw [rawKeys?_eq_some_iff.2 hstates] at hread
      cases hread
  | some content =>
      have hstates := rawKeys?_eq_some_iff.1 hread
      cases content with
      | none =>
          rw [decode, hread]
          exact .notCreate hstates
      | some keys =>
          rw [decode_of_states_some hstates]
          cases hjudged : judgeKeys keys with
          | ok found =>
              rw [judgeKeys_eq_ok_iff.1 hjudged] at hstates
              exact .ok hstates
          | error cause =>
              obtain ⟨sound, key, rest, rfl, hkey⟩ := judgeKeys_eq_error_iff.1 hjudged
              rcases RawKey.judge_eq_error_iff.1 hkey with
                ⟨hunknown, rfl⟩ | ⟨usage, hknown, hdata, rfl⟩
              · exact .unknownUsage hstates hunknown
              · exact .noKeyData hstates hknown hdata

theorem Verdict.decode {payload : Bytes} {outcome : Except OperationError Operation}
    (h : Verdict payload outcome) : Operation.decode payload = outcome := by
  cases h with
  | malformed none_stated =>
      cases hread : (Wire.fields? groupLimit payload).bind rawKeys? with
      | none => rw [Operation.decode, hread]
      | some content => exact absurd (rawKeys?_eq_some_iff.1 hread) (none_stated content)
  | notCreate states => rw [Operation.decode, rawKeys?_eq_some_iff.2 states]
  | unknownUsage states unknown =>
      rw [decode_of_states_some states, judgeKeys_eq_error_iff.2
        ⟨_, _, _, rfl, RawKey.judge_eq_error_iff.2 (.inl ⟨unknown, rfl⟩)⟩]
      rfl
  | noKeyData states known no_data =>
      rw [decode_of_states_some states, judgeKeys_eq_error_iff.2
        ⟨_, _, _, rfl, RawKey.judge_eq_error_iff.2 (.inr ⟨_, known, no_data, rfl⟩)⟩]
      rfl
  | ok states =>
      rw [decode_of_states_some states, judgeKeys_raw]
      rfl

/-- A payload is read as what it is taken for. -/
theorem decode_eq_iff_verdict {payload : Bytes} {outcome : Except OperationError Operation} :
    decode payload = outcome ↔ Verdict payload outcome := by
  constructor
  · rintro rfl
    exact verdict_decode payload
  · exact Verdict.decode

end Operation
end DidKeys
