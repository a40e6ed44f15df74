import DidKeys.Proofs.Wire.Contents
import Mathlib.Algebra.Group.Nat.Defs

/-! # What a byte string spells

A byte string spells some fields if they are what a reader finds in it, whatever follows.  Byte
strings that spell fields can be put behind one another (`Spells.append`), so a message is read back
part by part: `Spells.delimited` and `Spells.varint` are the parts.

The second half says what the questions of `Wire` find among such fields: the value that was
written, or the default that was left out. -/

namespace DidKeys.Wire

/-- The byte string holds the fields and ends where the last one ends. -/
def Spells (limit : Nat) (bs : Bytes) (fields : List Field) : Prop :=
  ∀ rest, fields? limit (bs ++ rest) = (fields? limit rest).map (fields ++ ·)

section spelling
variable {limit : Nat}

theorem fields?_nil : fields? limit [] = some [] := by
  rw [fields?]
  rfl

theorem Spells.fields? {bs : Bytes} {fields : List Field} (h : Spells limit bs fields) :
    fields? limit bs = some fields := by
  have := h []
  rw [List.append_nil, fields?_nil] at this
  simpa using this

theorem Spells.nil : Spells limit [] [] := by
  intro rest
  simp

theorem Spells.append {bs cs : Bytes} {fields more : List Field} (hb : Spells limit bs fields)
    (hc : Spells limit cs more) : Spells limit (bs ++ cs) (fields ++ more) := by
  intro rest
  rw [List.append_assoc, hb, hc, Option.map_map]
  congr 1
  funext tail
  exact (List.append_assoc fields more tail).symm

theorem Spells.flatMap {α : Type} {items : List α} {write : α → Bytes} {field : α → Field}
    (h : ∀ item ∈ items, Spells limit (write item) [field item]) :
    Spells limit (items.flatMap write) (items.map field) := by
  induction items with
  | nil => exact .nil
  | cons item items ih =>
      rw [List.flatMap_cons, List.map_cons]
      exact (h item (by simp)).append (ih fun other hother => h other (by simp [hother]))

/-! ### One field -/

theorem readKey?_writeKey {tag : Nat} (kind : Kind) (hpos : 0 < tag) (hsmall : tag < 2 ^ 29)
    (rest : Bytes) : readKey? (writeKey tag kind ++ rest) = some ((tag, kind), rest) := by
  have hcode := kind.code_lt
  have hmod : (tag * 8 + kind.code) % 8 = kind.code := by omega
  have hdiv : (tag * 8 + kind.code) / 8 = tag := by omega
  have hbound : keyBound = 2 ^ 32 := rfl
  have hkey : tag * 8 + kind.code < keyBound ∧ 8 ≤ tag * 8 + kind.code := by omega
  have hnumber : tag * 8 + kind.code < UInt64.size := Nat.lt_trans hkey.1 (by decide)
  simp only [readKey?, writeKey, Varint.read?_write hnumber, hmod, Kind.ofCode?_code, if_pos hkey,
    hdiv]

theorem takeExactly?_append (content rest : Bytes) :
    takeExactly? content.length (content ++ rest) = some (content, rest) := by
  rw [takeExactly?, if_pos (by simp), List.take_left, List.drop_left]

/-- A field that is read is the first one, and the others follow. -/
theorem fields?_of_readKey? {tag : Nat} {kind : Kind} {content : Content} {bs rest after : Bytes}
    (hkey : readKey? bs = some ((tag, kind), rest))
    (hcontent : readContent? limit tag kind rest = some (content, after)) :
    Wire.fields? limit bs = (Wire.fields? limit after).map (⟨tag, content⟩ :: ·) := by
  have hne : bs ≠ [] := by
    rintro rfl
    simp [readKey?, Varint.read?, Varint.readWithin?, Varint.maxLength] at hkey
  rw [Wire.fields?, if_neg hne]
  split
  · next hnone =>
      rw [hkey] at hnone
      cases hnone
  · next t k r hsome =>
      rw [hkey, Option.some.injEq, Prod.mk.injEq, Prod.mk.injEq] at hsome
      obtain ⟨⟨rfl, rfl⟩, rfl⟩ := hsome
      split
      · next hnone =>
          rw [hcontent] at hnone
          cases hnone
      · next c r hsome =>
          rw [hcontent, Option.some.injEq, Prod.mk.injEq] at hsome
          obtain ⟨rfl, rfl⟩ := hsome
          rfl

/-- A key with readable content behind it spells one field. -/
theorem Spells.field {tag : Nat} {kind : Kind} {content : Content} {bs : Bytes} (hpos : 0 < tag)
    (hsmall : tag < 2 ^ 29)
    (h : ∀ rest, readContent? limit tag kind (bs ++ rest) = some (content, rest)) :
    Spells limit (writeKey tag kind ++ bs) [⟨tag, content⟩] := by
  intro rest
  rw [List.append_assoc]
  exact fields?_of_readKey? (readKey?_writeKey kind hpos hsmall (bs ++ rest)) (h rest)

theorem Spells.delimited {tag : Nat} {content : Bytes} (hpos : 0 < tag) (hsmall : tag < 2 ^ 29)
    (hlen : content.length < 2 ^ 64) :
    Spells limit (writeDelimited tag content) [⟨tag, .delimited content⟩] := by
  rw [writeDelimited, List.append_assoc]
  apply Spells.field hpos hsmall
  intro rest
  simp [readContent?, readScalar?, List.append_assoc, Varint.read?_write hlen,
    takeExactly?_append]

theorem Spells.varint {tag value : Nat} (hpos : 0 < tag) (hsmall : tag < 2 ^ 29)
    (hvalue : value < 2 ^ 64) : Spells limit (writeVarint tag value) [⟨tag, .varint value⟩] := by
  apply Spells.field hpos hsmall
  intro rest
  simp [readContent?, readScalar?, Varint.read?_write hvalue]

end spelling

/-! ### Contents -/

section contents
variable {tag other : Nat}

@[simp] theorem contents_nil : contents tag [] = [] := rfl

@[simp] theorem contents_append (fields more : List Field) :
    contents tag (fields ++ more) = contents tag fields ++ contents tag more := by
  simp [contents]

@[simp] theorem contents_same (content : Content) : contents tag [⟨tag, content⟩] = [content] := by
  simp [contents]

theorem contents_other (content : Content) (h : other ≠ tag) :
    contents tag [⟨other, content⟩] = [] := by
  simp [contents, h]

theorem contents_map_same {α : Type} (items : List α) (content : α → Content) :
    contents tag (items.map fun item => ⟨tag, content item⟩) = items.map content := by
  rw [contents, List.filter_eq_self.2 (by simp), List.map_map]
  rfl

end contents

/-! ### Answers -/

section answers
variable {tag : Nat} {fields : List Field}

/-- A byte string that may be left out is read back. -/
theorem bytes?_of_contents {content : Bytes}
    (h : contents tag fields = if content = [] then [] else [.delimited content]) :
    bytes? tag fields = some content := by
  rw [bytes?_eq_some_iff]
  by_cases hnil : content = []
  · rw [if_pos hnil] at h
    exact ⟨[], h, hnil.symm⟩
  · rw [if_neg hnil] at h
    exact ⟨[content], h, rfl⟩

/-- A text that may be left out is read back. -/
theorem text?_of_contents {text : String}
    (h : contents tag fields =
      if Bytes.ofString text = [] then [] else [.delimited (Bytes.ofString text)]) :
    text? tag fields = some text := by
  rw [text?_eq_some_iff]
  by_cases hnil : Bytes.ofString text = []
  · rw [if_pos hnil] at h
    exact ⟨[], h, (Bytes.ofString_eq_nil.1 hnil).symm⟩
  · rw [if_neg hnil] at h
    exact ⟨[text], h, rfl⟩

/-- A number that may be left out is read back. -/
theorem number?_of_contents {value : Nat}
    (h : contents tag fields = if value = 0 then [] else [.varint value]) :
    number? tag fields = some value := by
  rw [number?_eq_some_iff]
  by_cases hzero : value = 0
  · rw [if_pos hzero] at h
    exact ⟨[], h, hzero.symm⟩
  · rw [if_neg hzero] at h
    exact ⟨[value], h, rfl⟩

/-- Messages in fields of their own are read back. -/
theorem messages?_of_contents {α : Type} {limit : Nat} {items : List α} {write : α → Bytes}
    {inner : α → List Field}
    (h : contents tag fields = items.map fun item => .delimited (write item))
    (hinner : ∀ item ∈ items, Spells limit (write item) (inner item)) :
    messages? limit tag fields = some (items.map inner) := by
  refine messages?_eq_some_iff.2 ⟨items.map write, ?_, ?_⟩
  · rw [HoldsBytes, h, List.map_map]
    rfl
  · rw [List.forall₂_map_left_iff, List.forall₂_map_right_iff, List.forall₂_same]
    exact fun item hitem => (hinner item hitem).fields?

/-- A message in a field of its own is read back. -/
theorem message?_of_contents {limit : Nat} {content : Bytes} {inner : List Field}
    (h : contents tag fields = [.delimited content]) (hinner : Spells limit content inner) :
    message? limit tag fields = some (some inner) := by
  refine message?_eq_some_iff.2 ⟨[inner], ?_, List.cons_ne_nil _ _, List.flatten_singleton⟩
  exact messages?_eq_some_iff.2 ⟨[content], h, .cons hinner.fields? .nil⟩

end answers
end DidKeys.Wire
