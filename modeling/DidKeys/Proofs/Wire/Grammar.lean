import DidKeys.Proofs.Wire.Spelling

/-! # The grammar of messages

`IsRow levels bs fields` says that the bytes are a row of tagged fields, in which groups nest in so
many levels at most, and does not mention a reader.  A number may have more groups of seven bits
than it needs, so a row of fields can have several spellings.

The reader of messages accepts these byte strings and no others, and finds these fields in them
(`fields?_eq_some_iff`).  So it finds a message in some fields exactly if they hold one
(`message?_eq_some_iff_holds`); one in several fields is in several pieces. -/

namespace DidKeys.Wire

/-! ### Numbers -/

namespace Varint

/-- Groups of seven bits, the lowest first, of which all but the last say that more follow, and the
number that they make. -/
inductive IsGroups : Bytes → Nat → Prop where
  | last {b : UInt8} (small : b.toNat < 128) : IsGroups [b] b.toNat
  | more {b : UInt8} {bs : Bytes} {high : Nat} (large : 128 ≤ b.toNat) (groups : IsGroups bs high) :
      IsGroups (b :: bs) (b.toNat - 128 + 128 * high)

/-- A spelling of a number of 64 bits, in at most ten bytes. -/
structure IsNumber (bs : Bytes) (v : Nat) : Prop where
  groups : IsGroups bs v
  length_le : bs.length ≤ 10
  lt : v < 2 ^ 64

theorem IsGroups.ne_nil {bs : Bytes} {v : Nat} (h : IsGroups bs v) : bs ≠ [] := by
  cases h <;> exact List.cons_ne_nil _ _

theorem two_le_capacity_succ (room : Nat) : 2 ≤ capacity (room + 1) := by
  induction room with
  | zero => exact Nat.le_refl 2
  | succ room ih =>
      rw [capacity]
      omega

theorem readWithin?_of_isGroups {room v : Nat} {front : Bytes} (h : IsGroups front v)
    (hlength : front.length ≤ room) (hv : v < capacity room) (rest : Bytes) :
    readWithin? room (front ++ rest) = some (v, rest) := by
  induction h generalizing room with
  | @last b small =>
      obtain ⟨room, rfl⟩ := Nat.exists_eq_add_of_le' (show 1 ≤ room from hlength)
      have hroom : ¬ (room = 0 ∧ 2 ≤ b.toNat) := by
        rintro ⟨rfl, hlarge⟩
        exact absurd hv (Nat.not_lt.2 hlarge)
      rw [List.singleton_append, readWithin?, if_pos small, if_neg hroom]
  | @more b bs high large groups ih =>
      have hpos := List.length_pos_iff.2 groups.ne_nil
      rw [List.length_cons] at hlength
      obtain ⟨room, rfl⟩ := Nat.exists_eq_add_of_le' (show 2 ≤ room by omega)
      rw [capacity] at hv
      rw [List.cons_append, readWithin?, if_neg (by omega), ih (by omega) (by omega)]
      rfl

theorem isGroups_of_readWithin? {room v : Nat} {bs rest : Bytes}
    (h : readWithin? room bs = some (v, rest)) :
    ∃ front, bs = front ++ rest ∧ IsGroups front v ∧ front.length ≤ room ∧ v < capacity room := by
  induction room generalizing bs v with
  | zero => cases h
  | succ room ih =>
      cases bs with
      | nil => cases h
      | cons b bs =>
          rw [readWithin?] at h
          split at h
          · next hsmall =>
              split at h
              · cases h
              · next hroom =>
                  cases h
                  refine ⟨[b], rfl, .last hsmall, by simp, ?_⟩
                  cases room with
                  | zero => exact Nat.lt_of_not_le fun hlarge => hroom ⟨rfl, hlarge⟩
                  | succ room =>
                      have htwo := two_le_capacity_succ room
                      rw [capacity]
                      omega
          · next hlarge =>
              obtain ⟨⟨high, r⟩, hread, heq⟩ := Option.map_eq_some_iff.1 h
              cases heq
              obtain ⟨front, rfl, hgroups, hlength, hlt⟩ := ih hread
              refine ⟨b :: front, rfl, .more (by omega) hgroups, by simpa using hlength, ?_⟩
              cases room with
              | zero => exact absurd hlt (Nat.not_lt_zero _)
              | succ room =>
                  have hb := b.toNat_lt
                  rw [capacity]
                  omega

theorem read?_eq_some_iff {bs rest : Bytes} {v : Nat} :
    read? bs = some (v, rest) ↔ ∃ front, bs = front ++ rest ∧ IsNumber front v := by
  have hbound : capacity maxLength = 2 ^ 64 := capacity_maxLength
  constructor
  · intro h
    obtain ⟨front, rfl, hgroups, hlength, hlt⟩ := isGroups_of_readWithin? h
    exact ⟨front, rfl, hgroups, hlength, hbound ▸ hlt⟩
  · rintro ⟨front, rfl, hgroups, hlength, hlt⟩
    exact readWithin?_of_isGroups hgroups hlength (hbound ▸ hlt) rest

end Varint

/-! ### Fields -/

/-- The key of a field: a positive tag of at most 29 bits, and the three bits of a kind. -/
structure IsKey (bs : Bytes) (tag : Nat) (kind : Kind) : Prop where
  number : Varint.IsNumber bs (tag * 8 + kind.code)
  pos : 0 < tag
  lt : tag < 2 ^ 29

/-- The content of a field that is no group. -/
inductive IsScalar : Kind → Bytes → Content → Prop where
  | varint {bs : Bytes} {v : Nat} (number : Varint.IsNumber bs v) :
      IsScalar .varint bs (.varint v)
  | eightBytes {bs : Bytes} (length_eq : bs.length = 8) : IsScalar .eightBytes bs (.eightBytes bs)
  | delimited {front bs : Bytes} (number : Varint.IsNumber front bs.length) :
      IsScalar .delimited (front ++ bs) (.delimited bs)
  | fourBytes {bs : Bytes} (length_eq : bs.length = 4) : IsScalar .fourBytes bs (.fourBytes bs)

/-- A row of fields.  What is inside a group is a row in one level less, and no field of it is
kept. -/
inductive IsRow : (levels : Nat) → Bytes → List Field → Prop where
  | nil {levels : Nat} : IsRow levels [] []
  | scalar {levels tag : Nat} {kind : Kind} {content : Content} {key bs rest : Bytes}
      {fields : List Field} (opens : IsKey key tag kind) (holds : IsScalar kind bs content)
      (row : IsRow (levels + 1) rest fields) :
      IsRow (levels + 1) (key ++ bs ++ rest) (⟨tag, content⟩ :: fields)
  | group {levels tag : Nat} {key inner close rest : Bytes} {hidden fields : List Field}
      (opens : IsKey key tag .openGroup) (holds : IsRow levels inner hidden)
      (closes : IsKey close tag .closeGroup) (row : IsRow (levels + 1) rest fields) :
      IsRow (levels + 1) (key ++ (inner ++ close) ++ rest) (⟨tag, .group⟩ :: fields)

theorem Kind.ofCode?_eq_some_iff {code : Nat} {kind : Kind} :
    ofCode? code = some kind ↔ code = kind.code := by
  constructor
  · intro h
    unfold ofCode? at h
    split at h <;> cases h <;> rfl
  · rintro rfl
    exact ofCode?_code kind

theorem readKey?_eq_some_iff {bs rest : Bytes} {tag : Nat} {kind : Kind} :
    readKey? bs = some ((tag, kind), rest) ↔ ∃ front, bs = front ++ rest ∧ IsKey front tag kind := by
  have hbound : keyBound = 2 ^ 32 := rfl
  constructor
  · intro h
    unfold readKey? at h
    split at h
    · cases h
    · next key r hread =>
        split at h
        · cases h
        · next k hkind =>
            split at h
            · next hsize =>
                cases h
                obtain ⟨front, rfl, hnumber⟩ := Varint.read?_eq_some_iff.1 hread
                have hcode := Kind.ofCode?_eq_some_iff.1 hkind
                have hkey : key / 8 * 8 + kind.code = key := by omega
                exact ⟨front, rfl, by rwa [hkey], by omega, by omega⟩
            · cases h
  · rintro ⟨front, rfl, hkey⟩
    have hread := Varint.read?_eq_some_iff.2 ⟨front, (rfl : front ++ rest = _), hkey.number⟩
    have hcode := kind.code_lt
    have hpos := hkey.pos
    have hlt := hkey.lt
    have hmod : (tag * 8 + kind.code) % 8 = kind.code := by omega
    have hdiv : (tag * 8 + kind.code) / 8 = tag := by omega
    have hsize : tag * 8 + kind.code < keyBound ∧ 8 ≤ tag * 8 + kind.code := by omega
    simp only [readKey?, hread, hmod, Kind.ofCode?_code, if_pos hsize, hdiv]

theorem takeExactly?_eq_some_iff {length : Nat} {bs front rest : Bytes} :
    takeExactly? length bs = some (front, rest) ↔ bs = front ++ rest ∧ front.length = length := by
  constructor
  · intro h
    unfold takeExactly? at h
    split at h
    · next hle =>
        cases h
        exact ⟨(List.take_append_drop length bs).symm, List.length_take_of_le hle⟩
    · cases h
  · rintro ⟨rfl, rfl⟩
    exact takeExactly?_append front rest

theorem readScalar?_eq_some_iff {kind : Kind} {bs rest : Bytes} {content : Content} :
    readScalar? kind bs = some (content, rest) ↔
      ∃ front, bs = front ++ rest ∧ IsScalar kind front content := by
  constructor
  · intro h
    cases kind with
    | openGroup => cases h
    | closeGroup => cases h
    | varint =>
        obtain ⟨⟨v, r⟩, hread, heq⟩ := Option.map_eq_some_iff.1 h
        cases heq
        obtain ⟨front, rfl, hnumber⟩ := Varint.read?_eq_some_iff.1 hread
        exact ⟨front, rfl, .varint hnumber⟩
    | eightBytes =>
        obtain ⟨⟨bytes, r⟩, htake, heq⟩ := Option.map_eq_some_iff.1 h
        cases heq
        obtain ⟨rfl, hlength⟩ := takeExactly?_eq_some_iff.1 htake
        exact ⟨bytes, rfl, .eightBytes hlength⟩
    | fourBytes =>
        obtain ⟨⟨bytes, r⟩, htake, heq⟩ := Option.map_eq_some_iff.1 h
        cases heq
        obtain ⟨rfl, hlength⟩ := takeExactly?_eq_some_iff.1 htake
        exact ⟨bytes, rfl, .fourBytes hlength⟩
    | delimited =>
        obtain ⟨⟨length, r⟩, hread, h⟩ := Option.bind_eq_some_iff.1 h
        obtain ⟨⟨bytes, r'⟩, htake, heq⟩ := Option.bind_eq_some_iff.1 h
        cases heq
        obtain ⟨front, rfl, hnumber⟩ := Varint.read?_eq_some_iff.1 hread
        obtain ⟨rfl, rfl⟩ := takeExactly?_eq_some_iff.1 htake
        exact ⟨front ++ bytes, (List.append_assoc ..).symm, .delimited hnumber⟩
  · rintro ⟨front, rfl, hscalar⟩
    cases hscalar with
    | varint number =>
        rw [readScalar?, Varint.read?_eq_some_iff.2 ⟨front, rfl, number⟩]
        rfl
    | eightBytes length_eq =>
        rw [readScalar?, takeExactly?_eq_some_iff.2 ⟨rfl, length_eq⟩]
        rfl
    | fourBytes length_eq =>
        rw [readScalar?, takeExactly?_eq_some_iff.2 ⟨rfl, length_eq⟩]
        rfl
    | @delimited length bytes number =>
        rw [List.append_assoc, readScalar?, Varint.read?_eq_some_iff.2 ⟨length, rfl, number⟩]
        simp only [Option.bind_eq_bind, Option.bind_some, takeExactly?_append, Option.pure_def]

/-! ### Groups -/

section groups
variable {limit tag t : Nat} {kind : Kind} {content : Content} {opened : List Nat}
  {bs rest after : Bytes}

theorem skipGroups?_close (hkey : readKey? bs = some ((tag, .closeGroup), rest)) :
    skipGroups? limit (tag :: opened) bs = skipGroups? limit opened rest := by
  rw [skipGroups?]
  split <;> simp_all

theorem skipGroups?_open (hkey : readKey? bs = some ((t, .openGroup), rest))
    (hroom : opened.length + 1 < limit) :
    skipGroups? limit (tag :: opened) bs = skipGroups? limit (t :: tag :: opened) rest := by
  rw [skipGroups?]
  split <;> simp_all

theorem skipGroups?_scalar (hkey : readKey? bs = some ((t, kind), rest))
    (hcontent : readScalar? kind rest = some (content, after)) (hroom : opened.length + 1 < limit) :
    skipGroups? limit (tag :: opened) bs = skipGroups? limit (tag :: opened) after := by
  rw [skipGroups?]
  split
  · simp_all
  · next hclose =>
      rw [hkey] at hclose
      cases hclose
      cases hcontent
  · next hopen =>
      rw [hkey] at hopen
      cases hopen
      cases hcontent
  · next hscalar =>
      rw [hkey] at hscalar
      cases hscalar
      rw [if_pos hroom]
      split
      · simp_all
      · simp_all

/-- A row inside open groups is skipped, if there is room for its levels. -/
theorem IsRow.skip {levels : Nat} {inner : Bytes} {hidden : List Field}
    (h : IsRow levels inner hidden) (hroom : opened.length + 1 + levels ≤ limit) (rest : Bytes) :
    skipGroups? limit (tag :: opened) (inner ++ rest) = skipGroups? limit (tag :: opened) rest := by
  induction h generalizing tag opened rest with
  | nil => rfl
  | @scalar levels t kind content key bs after fields opens holds _ ih =>
      have hkey := readKey?_eq_some_iff.2 ⟨key, (rfl : key ++ (bs ++ (after ++ rest)) = _), opens⟩
      have hcontent := readScalar?_eq_some_iff.2 ⟨bs, (rfl : bs ++ (after ++ rest) = _), holds⟩
      rw [List.append_assoc, List.append_assoc, skipGroups?_scalar hkey hcontent (by omega),
        ih hroom]
  | @group levels t key inner close after hidden fields opens _ closes _ ihInner ih =>
      have hkey := readKey?_eq_some_iff.2
        ⟨key, (rfl : key ++ (inner ++ (close ++ (after ++ rest))) = _), opens⟩
      have hclose := readKey?_eq_some_iff.2 ⟨close, (rfl : close ++ (after ++ rest) = _), closes⟩
      rw [List.append_assoc, List.append_assoc, List.append_assoc,
        skipGroups?_open hkey (by omega), ihInner (by rw [List.length_cons]; omega),
        skipGroups?_close hclose, ih hroom]

/-- What is still to come inside some open groups, the innermost first, and what follows them. -/
inductive Closes (limit : Nat) : (opened : List Nat) → Bytes → Bytes → Prop where
  | done {rest : Bytes} : Closes limit [] rest rest
  | close {tag : Nat} {opened : List Nat} {inner key bs rest : Bytes} {hidden : List Field}
      (holds : IsRow (limit - (opened.length + 1)) inner hidden)
      (closes : IsKey key tag .closeGroup) (outer : Closes limit opened bs rest) :
      Closes limit (tag :: opened) (inner ++ (key ++ bs)) rest

theorem closes_of_skipGroups? (h : skipGroups? limit opened bs = some rest) :
    Closes limit opened bs rest := by
  fun_induction skipGroups? limit opened bs with
  | case1 bs =>
      cases h
      exact .done
  | case3 _ _ _ after hkey ih =>
      obtain ⟨key, rfl, hopens⟩ := readKey?_eq_some_iff.1 hkey
      exact .close .nil hopens (ih h)
  | case5 tag opened bs t after hkey hroom ih =>
      obtain ⟨key, rfl, hopens⟩ := readKey?_eq_some_iff.1 hkey
      obtain ⟨levels, hlevels⟩ := Nat.exists_eq_add_of_lt hroom
      -- the group that opens here is a field of the row inside the one around it
      cases ih h with
      | @close _ _ inner close _ _ _ holds closes outer =>
          cases outer with
          | @close _ _ behind outerClose bs _ _ holds' closes' outer =>
              rw [List.length_cons, show limit - (opened.length + 1 + 1) = levels by omega] at holds
              rw [show limit - (opened.length + 1) = levels + 1 by omega] at holds'
              have hrow := IsRow.group hopens holds closes holds'
              rw [show levels + 1 = limit - (opened.length + 1) by omega] at hrow
              have hclose := Closes.close hrow closes' outer
              simpa only [List.append_assoc] using hclose
  | case8 tag opened bs t kind after _ _ hkey hroom content behind hcontent ih =>
      obtain ⟨key, rfl, hopens⟩ := readKey?_eq_some_iff.1 hkey
      obtain ⟨front, rfl, hscalar⟩ := readScalar?_eq_some_iff.1 hcontent
      obtain ⟨levels, hlevels⟩ := Nat.exists_eq_add_of_lt hroom
      cases ih h with
      | @close _ _ inner close bs _ _ holds closes outer =>
          rw [show limit - (opened.length + 1) = levels + 1 by omega] at holds
          have hrow := IsRow.scalar hopens hscalar holds
          rw [show levels + 1 = limit - (opened.length + 1) by omega] at hrow
          have hclose := Closes.close hrow closes outer
          simpa only [List.append_assoc] using hclose
  | _ => cases h

end groups

/-! ### Rows -/

section rows
variable {limit levels : Nat} {bs : Bytes} {fields : List Field}

theorem Spells.cons {tag : Nat} {kind : Kind} {content : Content} {key after : Bytes}
    (hopens : IsKey key tag kind)
    (hcontent : ∀ rest, readContent? limit tag kind (bs ++ rest) = some (content, rest))
    (h : Spells limit after fields) :
    Spells limit (key ++ bs ++ after) (⟨tag, content⟩ :: fields) := by
  have hfield : Spells limit (key ++ bs) [⟨tag, content⟩] := by
    intro rest
    have hkey := readKey?_eq_some_iff.2 ⟨key, (rfl : key ++ (bs ++ rest) = _), hopens⟩
    rw [List.append_assoc]
    exact fields?_of_readKey? hkey (hcontent rest)
  exact hfield.append h

/-- A row spells its fields for every reader that has room for its levels. -/
theorem IsRow.spells (h : IsRow levels bs fields) (hroom : levels ≤ limit) :
    Spells limit bs fields := by
  induction h with
  | nil => exact .nil
  | @scalar levels tag kind content key bs after fields opens holds _ ih =>
      refine .cons opens (fun rest => ?_) (ih hroom)
      have hscalar := readScalar?_eq_some_iff.2 ⟨bs, (rfl : bs ++ rest = _), holds⟩
      cases holds <;> exact hscalar
  | @group levels tag key inner close after hidden fields opens holds closes _ _ ih =>
      refine .cons opens (fun rest => ?_) (ih hroom)
      have hclose := readKey?_eq_some_iff.2 ⟨close, (rfl : close ++ rest = _), closes⟩
      have hskip : skipGroups? limit [tag] (inner ++ close ++ rest) = some rest := by
        rw [List.append_assoc, holds.skip (by rw [List.length_nil]; omega),
          skipGroups?_close hclose, skipGroups?]
      rw [readContent?, hskip]
      rfl

theorem isRow_of_fields? (h : fields? (levels + 1) bs = some fields) :
    IsRow (levels + 1) bs fields := by
  fun_induction fields? (levels + 1) bs generalizing fields with
  | case1 =>
      cases h
      exact .nil
  | case4 bs _ tag kind after hkey content behind hcontent ih =>
      obtain ⟨others, hothers, rfl⟩ := Option.map_eq_some_iff.1 h
      obtain ⟨key, rfl, hopens⟩ := readKey?_eq_some_iff.1 hkey
      have hrow := ih hothers
      unfold readContent? at hcontent
      split at hcontent
      · obtain ⟨rest, hskip, heq⟩ := Option.map_eq_some_iff.1 hcontent
        cases heq
        cases closes_of_skipGroups? hskip with
        | @close _ _ inner close _ _ _ holds closes outer =>
            cases outer
            rw [List.length_nil, Nat.zero_add, Nat.add_sub_cancel] at holds
            have hgroup := IsRow.group hopens holds closes hrow
            simpa only [List.append_assoc] using hgroup
      · obtain ⟨front, rfl, hscalar⟩ := readScalar?_eq_some_iff.1 hcontent
        rw [← List.append_assoc]
        exact .scalar hopens hscalar hrow
  | _ => cases h

/-- A reader with room for some levels accepts the rows in as many levels, and finds their
fields. -/
theorem fields?_eq_some_iff (h : 0 < levels) :
    fields? levels bs = some fields ↔ IsRow levels bs fields := by
  obtain ⟨levels, rfl⟩ := Nat.exists_eq_add_of_lt h
  rw [Nat.zero_add]
  exact ⟨isRow_of_fields?, fun hrow => (hrow.spells (Nat.le_refl _)).fields?⟩

end rows

/-! ### Messages in fields -/

/-- The fields with a tag hold messages, and these are the rows of their fields. -/
def HoldsRows (levels tag : Nat) (fields : List Field) (rows : List (List Field)) : Prop :=
  ∃ parts, HoldsBytes tag fields parts ∧ List.Forall₂ (IsRow levels) parts rows

/-- The fields with a tag hold the pieces of one message, or there are none. -/
inductive HoldsMessage (levels tag : Nat) (fields : List Field) : Option (List Field) → Prop where
  | none (holds : HoldsRows levels tag fields []) : HoldsMessage levels tag fields none
  | some {rows : List (List Field)} (holds : HoldsRows levels tag fields rows)
      (nonempty : rows ≠ []) : HoldsMessage levels tag fields (some rows.flatten)

section messages
variable {levels tag : Nat} {fields : List Field}

theorem messages?_eq_some_iff_holds (h : 0 < levels) {rows : List (List Field)} :
    messages? levels tag fields = some rows ↔ HoldsRows levels tag fields rows := by
  simp only [messages?_eq_some_iff, fields?_eq_some_iff h, HoldsRows]

theorem message?_eq_some_iff_holds (h : 0 < levels) {message : Option (List Field)} :
    message? levels tag fields = some message ↔ HoldsMessage levels tag fields message := by
  cases message with
  | none =>
      rw [message?_eq_none_iff, messages?_eq_some_iff_holds h]
      constructor
      · exact .none
      · intro hmessage
        cases hmessage with
        | none holds => exact holds
  | some message =>
      simp only [message?_eq_some_iff, messages?_eq_some_iff_holds h]
      constructor
      · rintro ⟨rows, hrows, hne, rfl⟩
        exact .some hrows hne
      · intro hmessage
        cases hmessage with
        | some holds nonempty => exact ⟨_, holds, nonempty, rfl⟩

/-- Where no fields are, no messages are. -/
theorem holdsRows_nil_iff {rows : List (List Field)} : HoldsRows levels tag [] rows ↔ rows = [] := by
  constructor
  · rintro ⟨parts, hparts, hrows⟩
    rw [HoldsBytes, contents_nil, eq_comm, List.map_eq_nil_iff] at hparts
    subst hparts
    cases hrows
    rfl
  · rintro rfl
    exact ⟨[], rfl, .nil⟩

end messages
end DidKeys.Wire
