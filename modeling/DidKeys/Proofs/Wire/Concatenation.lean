import DidKeys.Proofs.Wire.Grammar

/-! # Rows behind one another

Rows of fields can be put behind one another, and what they hold is put behind one another with
them: the byte strings with a tag, the messages with a tag, and the pieces of one message
(`HoldsMessage.append`).

The other way round, a row can be cut between any two fields (`isRow_append_iff`), and only there:
of two rows with the same fields, none goes on where the other one ends (`IsRow.eq_of_append_eq`).
So two rows in however many levels have, if they make up a row in fewer of them, as few levels each
(`IsRow.of_append`).

`IsNested depth` counts groups in the place of levels: a field inside a group is one level below it,
and no group if it is a scalar.  A row in which groups nest that deep has at most one level more. -/

namespace DidKeys.Wire

section rows
variable {levels others : Nat} {bs cs : Bytes} {fields more : List Field}

/-! ### Rows and their parts -/

theorem IsRow.append (h : IsRow levels bs fields) (hmore : IsRow levels cs more) :
    IsRow levels (bs ++ cs) (fields ++ more) := by
  induction h with
  | nil => exact hmore
  | scalar opens holds _ ih =>
      rw [List.append_assoc]
      exact .scalar opens holds (ih hmore)
  | group opens holds closes _ _ ih =>
      rw [List.append_assoc]
      exact .group opens holds closes (ih hmore)

/-- A row is cut between two fields. -/
theorem isRow_append_iff :
    IsRow levels bs (fields ++ more) ↔
      ∃ front rest, bs = front ++ rest ∧ IsRow levels front fields ∧ IsRow levels rest more := by
  constructor
  · intro h
    induction fields generalizing bs with
    | nil => exact ⟨[], bs, rfl, .nil, h⟩
    | cons field fields ih =>
        cases h with
        | @scalar levels tag kind content key bs rest _ opens holds row =>
            obtain ⟨front, rest, rfl, hfront, hrest⟩ := ih row
            refine ⟨key ++ bs ++ front, rest, ?_, .scalar opens holds hfront, hrest⟩
            rw [List.append_assoc (key ++ bs)]
        | @group levels tag key inner close rest hidden _ opens holds closes row =>
            obtain ⟨front, rest, rfl, hfront, hrest⟩ := ih row
            refine ⟨key ++ (inner ++ close) ++ front, rest, ?_,
              .group opens holds closes hfront, hrest⟩
            rw [List.append_assoc (key ++ (inner ++ close))]
  · rintro ⟨front, rest, rfl, hfront, hrest⟩
    exact hfront.append hrest

theorem IsRow.mono (h : IsRow levels bs fields) (hle : levels ≤ others) :
    IsRow others bs fields := by
  induction h generalizing others with
  | nil => exact .nil
  | scalar opens holds _ ih =>
      obtain ⟨fewer, rfl⟩ := Nat.exists_eq_add_of_le' (Nat.le_of_add_left_le hle)
      exact .scalar opens holds (ih hle)
  | group opens _ closes _ ihInner ih =>
      obtain ⟨fewer, rfl⟩ := Nat.exists_eq_add_of_le' (Nat.le_of_add_left_le hle)
      exact .group opens (ihInner (by omega)) closes (ih hle)

/-- A byte string has the fields of one row, in whatever number of levels. -/
theorem IsRow.unique (h : IsRow levels bs fields) (hother : IsRow others bs more) :
    fields = more := by
  have hfields := (h.spells (Nat.le_max_left levels others)).fields?
  have hmore := (hother.spells (Nat.le_max_right levels others)).fields?
  rw [hfields] at hmore
  exact Option.some.inj hmore

theorem eq_nil_of_fields? {limit : Nat} (h : fields? limit bs = some []) : bs = [] := by
  unfold fields? at h
  split at h
  · assumption
  · split at h
    · cases h
    · split at h
      · cases h
      · obtain ⟨_, _, hcons⟩ := Option.map_eq_some_iff.mp h
        cases hcons

/-- Where no field follows, nothing follows. -/
theorem IsRow.eq_nil_of_append (h : IsRow levels bs fields)
    (hother : IsRow others (bs ++ cs) fields) : cs = [] := by
  have hwhole := (hother.spells (Nat.le_max_right levels others)).fields?
  rw [h.spells (Nat.le_max_left levels others) cs] at hwhole
  obtain ⟨behind, hbehind, hsame⟩ := Option.map_eq_some_iff.mp hwhole
  rw [List.append_right_eq_self.mp hsame] at hbehind
  exact eq_nil_of_fields? hbehind

/-- Rows with the same fields that begin one text end at one place. -/
theorem IsRow.eq_of_append_eq {after behind : Bytes} (h : IsRow levels bs fields)
    (hother : IsRow others cs fields) (heq : bs ++ after = cs ++ behind) : bs = cs := by
  rcases List.append_eq_append_iff.mp heq with ⟨middle, rfl, _⟩ | ⟨middle, rfl, _⟩
  · rw [h.eq_nil_of_append hother, List.append_nil]
  · rw [hother.eq_nil_of_append h, List.append_nil]

/-- Two rows that make up a row have no more levels than it has. -/
theorem IsRow.of_append {all : List Field} (hfirst : IsRow others bs fields)
    (hsecond : IsRow others cs more) (h : IsRow levels (bs ++ cs) all) :
    IsRow levels bs fields ∧ IsRow levels cs more := by
  rw [h.unique (hfirst.append hsecond), isRow_append_iff] at h
  obtain ⟨front, rest, heq, hfront, hrest⟩ := h
  have hcut := hfront.eq_of_append_eq hfirst heq.symm
  subst hcut
  rw [List.append_cancel_left heq]
  exact ⟨hfront, hrest⟩

end rows

/-! ### Groups in groups -/

/-- A row of fields, in which groups nest at most so deep. -/
inductive IsNested : (depth : Nat) → Bytes → List Field → Prop where
  | nil {depth : Nat} : IsNested depth [] []
  | scalar {depth tag : Nat} {kind : Kind} {content : Content} {key bs rest : Bytes}
      {fields : List Field} (opens : IsKey key tag kind) (holds : IsScalar kind bs content)
      (row : IsNested depth rest fields) :
      IsNested depth (key ++ bs ++ rest) (⟨tag, content⟩ :: fields)
  | group {depth tag : Nat} {key inner close rest : Bytes} {hidden fields : List Field}
      (opens : IsKey key tag .openGroup) (holds : IsNested depth inner hidden)
      (closes : IsKey close tag .closeGroup) (row : IsNested (depth + 1) rest fields) :
      IsNested (depth + 1) (key ++ (inner ++ close) ++ rest) (⟨tag, .group⟩ :: fields)

section nesting
variable {depth : Nat} {bs : Bytes} {fields : List Field}

/-- The fields of the innermost groups are one level below these. -/
theorem IsNested.isRow (h : IsNested depth bs fields) : IsRow (depth + 1) bs fields := by
  induction h with
  | nil => exact .nil
  | scalar opens holds _ ih => exact .scalar opens holds ih
  | group opens _ closes _ ihInner ih => exact .group opens ihInner closes ih

end nesting

/-! ### What rows hold -/

section contents
variable {levels tag : Nat} {fields others : List Field}

theorem HoldsBytes.append {parts more : List Bytes} (h : HoldsBytes tag fields parts)
    (hmore : HoldsBytes tag others more) : HoldsBytes tag (fields ++ others) (parts ++ more) := by
  unfold HoldsBytes at *
  rw [contents_append, h, hmore, List.map_append]

theorem HoldsRows.append {rows more : List (List Field)} (h : HoldsRows levels tag fields rows)
    (hmore : HoldsRows levels tag others more) :
    HoldsRows levels tag (fields ++ others) (rows ++ more) := by
  obtain ⟨parts, hparts, hrows⟩ := h
  obtain ⟨behind, hbehind, hothers⟩ := hmore
  exact ⟨parts ++ behind, hparts.append hbehind, List.rel_append hrows hothers⟩

/-- Pieces of one message, in front and behind. -/
theorem HoldsMessage.append {message behind : Option (List Field)}
    (h : HoldsMessage levels tag fields message) (hbehind : HoldsMessage levels tag others behind) :
    HoldsMessage levels tag (fields ++ others) (message.merge (· ++ ·) behind) := by
  cases h with
  | none holds =>
      cases hbehind with
      | none holds' => exact .none (holds.append holds')
      | some holds' nonempty => exact .some (holds.append holds') nonempty
  | @some rows holds nonempty =>
      cases hbehind with
      | none holds' =>
          have hrows := holds.append holds'
          rw [List.append_nil] at hrows
          exact .some hrows nonempty
      | @some more holds' _ =>
          have hmessage := HoldsMessage.some (holds.append holds') (by simp [nonempty])
          rw [List.flatten_append] at hmessage
          exact hmessage

/-- A field with another tag is no piece of a message. -/
theorem holdsMessage_other {field : Field} (h : field.tag ≠ tag) :
    HoldsMessage levels tag [field] none :=
  .none ⟨[], contents_other field.content h, .nil⟩

end contents
end DidKeys.Wire
