import DidKeys.Wire.Varint

/-! # Tagged fields

A message is a row of fields.  Each begins with a key, which holds the tag of the field and the kind
of its content: a number of variable width, eight or four bytes, a byte string behind its length, or
a group, which is a row of fields up to the key that closes it.

* `fields?` reads a whole message.  A group is read over and only its tag is kept.
* Groups nest, and how deep they may is a limit of the message; the innermost group that is allowed
  at all has to be empty.
* Tags are positive, and keys have 32 bits. -/

namespace DidKeys.Wire

/-- The kind of the content of a field. -/
inductive Kind where
  | varint
  | eightBytes
  | delimited
  | openGroup
  | closeGroup
  | fourBytes
  deriving DecidableEq, Repr

namespace Kind

/-- The three bits of a kind. -/
def code : Kind → Nat
  | varint => 0
  | eightBytes => 1
  | delimited => 2
  | openGroup => 3
  | closeGroup => 4
  | fourBytes => 5

/-- The kind with the given bits, if there is one. -/
def ofCode? : Nat → Option Kind
  | 0 => some varint
  | 1 => some eightBytes
  | 2 => some delimited
  | 3 => some openGroup
  | 4 => some closeGroup
  | 5 => some fourBytes
  | _ => none

@[simp] theorem ofCode?_code (kind : Kind) : ofCode? kind.code = some kind := by
  cases kind <;> rfl

theorem code_lt (kind : Kind) : kind.code < 8 := by
  cases kind <;> decide

end Kind

/-- The content of a field. -/
inductive Content where
  | varint (value : Nat)
  | eightBytes (bytes : Bytes)
  | delimited (bytes : Bytes)
  | group
  | fourBytes (bytes : Bytes)
  deriving DecidableEq, Repr

/-- A field of a message. -/
structure Field where
  tag : Nat
  content : Content
  deriving DecidableEq, Repr

/-! ### Writing -/

/-- The key of a field. -/
def writeKey (tag : Nat) (kind : Kind) : Bytes := Varint.write (tag * 8 + kind.code)

/-- A field with a number. -/
def writeVarint (tag value : Nat) : Bytes := writeKey tag .varint ++ Varint.write value

/-- A field with a byte string. -/
def writeDelimited (tag : Nat) (content : Bytes) : Bytes :=
  writeKey tag .delimited ++ Varint.write content.length ++ content

theorem length_writeKey_le (tag : Nat) (kind : Kind) :
    (writeKey tag kind).length ≤ tag / 16 + 1 := by
  have hlength := Varint.length_write_le (tag * 8 + kind.code)
  have hcode := kind.code_lt
  rw [writeKey]
  omega

theorem length_writeVarint_le (tag value : Nat) :
    (writeVarint tag value).length ≤ tag / 16 + value / 128 + 2 := by
  have hkey := length_writeKey_le tag .varint
  have hvalue := Varint.length_write_le value
  rw [writeVarint, List.length_append]
  omega

theorem length_writeDelimited_le (tag : Nat) (content : Bytes) :
    (writeDelimited tag content).length ≤
      tag / 16 + content.length / 128 + content.length + 2 := by
  have hkey := length_writeKey_le tag .delimited
  have hlength := Varint.length_write_le content.length
  rw [writeDelimited, List.length_append, List.length_append]
  omega

/-! ### Reading -/

/-- The bound of keys. -/
def keyBound : Nat := UInt32.size

/-- The key at the front, and what follows it. -/
def readKey? (bs : Bytes) : Option ((Nat × Kind) × Bytes) :=
  match Varint.read? bs with
  | none => none
  | some (key, rest) =>
    match Kind.ofCode? (key % 8) with
    | none => none
    | some kind => if key < keyBound ∧ 8 ≤ key then some ((key / 8, kind), rest) else none

/-- The first `length` bytes, if there are that many, and what follows them. -/
def takeExactly? (length : Nat) (bs : Bytes) : Option (Bytes × Bytes) :=
  if length ≤ bs.length then some (bs.take length, bs.drop length) else none

/-- The content of a field that is no group, and what follows it. -/
def readScalar? : Kind → Bytes → Option (Content × Bytes)
  | .varint, bs => (Varint.read? bs).map fun (value, rest) => (.varint value, rest)
  | .eightBytes, bs => (takeExactly? 8 bs).map fun (bytes, rest) => (.eightBytes bytes, rest)
  | .fourBytes, bs => (takeExactly? 4 bs).map fun (bytes, rest) => (.fourBytes bytes, rest)
  | .delimited, bs => do
    let (length, rest) ← Varint.read? bs
    let (bytes, rest) ← takeExactly? length rest
    return (.delimited bytes, rest)
  | .openGroup, _ | .closeGroup, _ => none

theorem length_lt_of_readKey? {bs rest : Bytes} {key : Nat × Kind}
    (h : readKey? bs = some (key, rest)) : rest.length < bs.length := by
  unfold readKey? at h
  split at h
  · simp at h
  · next v r hv =>
    split at h
    · simp at h
    · split at h
      · simp only [Option.some.injEq, Prod.mk.injEq] at h
        exact h.2 ▸ Varint.length_lt_of_read? hv
      · simp at h

theorem length_of_takeExactly? {length : Nat} {bs bytes rest : Bytes}
    (h : takeExactly? length bs = some (bytes, rest)) : rest.length + length = bs.length := by
  unfold takeExactly? at h
  split at h
  · simp only [Option.some.injEq, Prod.mk.injEq] at h
    rw [← h.2, List.length_drop]
    omega
  · simp at h

theorem length_le_of_readScalar? {kind : Kind} {bs rest : Bytes} {content : Content}
    (h : readScalar? kind bs = some (content, rest)) : rest.length ≤ bs.length := by
  cases kind with
  | openGroup => simp [readScalar?] at h
  | closeGroup => simp [readScalar?] at h
  | varint =>
    obtain ⟨⟨value, r⟩, hr, he⟩ := Option.map_eq_some_iff.1 h
    simp only [Prod.mk.injEq] at he
    exact he.2 ▸ Nat.le_of_lt (Varint.length_lt_of_read? hr)
  | eightBytes =>
    obtain ⟨⟨bytes, r⟩, hr, he⟩ := Option.map_eq_some_iff.1 h
    simp only [Prod.mk.injEq] at he
    have := length_of_takeExactly? hr
    rw [← he.2]
    omega
  | fourBytes =>
    obtain ⟨⟨bytes, r⟩, hr, he⟩ := Option.map_eq_some_iff.1 h
    simp only [Prod.mk.injEq] at he
    have := length_of_takeExactly? hr
    rw [← he.2]
    omega
  | delimited =>
    obtain ⟨⟨length, r⟩, hr, h⟩ := Option.bind_eq_some_iff.1 h
    obtain ⟨⟨bytes, r'⟩, hr', he⟩ := Option.bind_eq_some_iff.1 h
    simp only [pure, Option.some.injEq, Prod.mk.injEq] at he
    have h1 := Varint.length_lt_of_read? hr
    have h2 := length_of_takeExactly? hr'
    rw [← he.2]
    omega

/-- What follows the end of all open groups, the innermost one first; a field may stand where fewer
than `limit` groups are open. -/
def skipGroups? (limit : Nat) : (opened : List Nat) → Bytes → Option Bytes
  | [], bs => some bs
  | tag :: opened, bs =>
    match _hkey : readKey? bs with
    | none => none
    | some ((t, .closeGroup), rest) => if t = tag then skipGroups? limit opened rest else none
    | some ((t, .openGroup), rest) =>
      if opened.length + 1 < limit then skipGroups? limit (t :: tag :: opened) rest else none
    | some ((_, kind), rest) =>
      if opened.length + 1 < limit then
        match _hcontent : readScalar? kind rest with
        | none => none
        | some (_, rest') => skipGroups? limit (tag :: opened) rest'
      else none
termination_by _ bs => bs.length
decreasing_by
  · exact length_lt_of_readKey? _hkey
  · exact length_lt_of_readKey? _hkey
  · exact Nat.lt_of_le_of_lt (length_le_of_readScalar? _hcontent) (length_lt_of_readKey? _hkey)

/-- The content of a field of the given tag, and what follows it. -/
def readContent? (limit tag : Nat) (kind : Kind) (bs : Bytes) : Option (Content × Bytes) :=
  match kind with
  | .openGroup => (skipGroups? limit [tag] bs).map fun rest => (.group, rest)
  | kind => readScalar? kind bs

theorem length_le_of_skipGroups? {limit : Nat} {opened : List Nat} {bs rest : Bytes}
    (h : skipGroups? limit opened bs = some rest) : rest.length ≤ bs.length := by
  fun_induction skipGroups? limit opened bs with
  | case1 bs => simp_all
  | case2 => simp at h
  | case3 tag opened bs r hk ih =>
    exact Nat.le_trans (ih h) (Nat.le_of_lt (length_lt_of_readKey? hk))
  | case4 => simp at h
  | case5 tag opened bs t r hk _ ih =>
    exact Nat.le_trans (ih h) (Nat.le_of_lt (length_lt_of_readKey? hk))
  | case6 => simp at h
  | case7 => simp at h
  | case8 tag opened bs t kind r _ _ hk _ c r' hs ih =>
    exact Nat.le_trans (ih h) (Nat.le_trans (length_le_of_readScalar? hs)
      (Nat.le_of_lt (length_lt_of_readKey? hk)))
  | case9 => simp at h

theorem length_le_of_readContent? {limit tag : Nat} {kind : Kind} {bs rest : Bytes}
    {content : Content} (h : readContent? limit tag kind bs = some (content, rest)) :
    rest.length ≤ bs.length := by
  unfold readContent? at h
  split at h
  · obtain ⟨r, hr, he⟩ := Option.map_eq_some_iff.1 h
    simp only [Prod.mk.injEq] at he
    exact he.2 ▸ length_le_of_skipGroups? hr
  · exact length_le_of_readScalar? h

/-- The fields of a message in which groups nest at most `limit` deep. -/
def fields? (limit : Nat) (bs : Bytes) : Option (List Field) :=
  if bs = [] then some []
  else
    match _hkey : readKey? bs with
    | none => none
    | some ((tag, kind), rest) =>
      match _hcontent : readContent? limit tag kind rest with
      | none => none
      | some (content, rest') => (fields? limit rest').map (⟨tag, content⟩ :: ·)
termination_by bs.length
decreasing_by
  exact Nat.lt_of_le_of_lt (length_le_of_readContent? _hcontent) (length_lt_of_readKey? _hkey)

/-! ### Asking for fields -/

/-- The contents of the fields with a given tag, in order. -/
def contents (tag : Nat) (fields : List Field) : List Content :=
  (fields.filter fun field => field.tag == tag).map Field.content

/-- The byte strings of the fields with a given tag, all of which have to hold one. -/
def delimited? (tag : Nat) (fields : List Field) : Option (List Bytes) :=
  (contents tag fields).mapM fun
    | .delimited bytes => some bytes
    | _ => none

/-- The numbers of the fields with a given tag, all of which have to hold one. -/
def varints? (tag : Nat) (fields : List Field) : Option (List Nat) :=
  (contents tag fields).mapM fun
    | .varint value => some value
    | _ => none

/-- The messages in the fields with a given tag. -/
def messages? (limit tag : Nat) (fields : List Field) : Option (List (List Field)) := do
  (← delimited? tag fields).mapM (fields? limit)

/-- The one message in the fields with a given tag, if there are any: all their fields in order. -/
def message? (limit tag : Nat) (fields : List Field) : Option (Option (List Field)) := do
  match ← messages? limit tag fields with
  | [] => return none
  | parts => return some parts.flatten

/-- The last byte string in the fields with a given tag; an empty one, if there are none. -/
def bytes? (tag : Nat) (fields : List Field) : Option Bytes := do
  return (← delimited? tag fields).getLast?.getD []

/-- The last text in the fields with a given tag, all of which have to hold one; an empty one, if
there are none. -/
def text? (tag : Nat) (fields : List Field) : Option String := do
  return (← (← delimited? tag fields).mapM Bytes.toString?).getLast?.getD ""

/-- The last number in the fields with a given tag; zero, if there are none. -/
def number? (tag : Nat) (fields : List Field) : Option Nat := do
  return (← varints? tag fields).getLast?.getD 0

end DidKeys.Wire
