import DidKeys.Json.Basic

/-! # Writing JSON

A value is written from its spellings, with blanks where the layout wants them: none at all in
`compact`, lines with two spaces for each level in `indented`.  An array or an object without
content has no blanks inside.

* `Layout` holds the blanks, and that they are blanks.
* `chars` is the writer for every layout. -/

namespace DidKeys.Json

/-- Whether a character may stand between the parts of a value. -/
def isBlank (c : Char) : Bool := c == ' ' || c == '\t' || c == '\n' || c == '\r'

/-- The blanks between the parts of a value. -/
structure Layout where
  /-- What stands before an item at some depth, and before the end of the list around it. -/
  line : (depth : Nat) → List Char
  /-- What stands behind a colon. -/
  afterColon : List Char
  line_blank : ∀ depth, ∀ c ∈ line depth, isBlank c = true
  afterColon_blank : ∀ c ∈ afterColon, isBlank c = true

namespace Layout

/-- No blanks. -/
def compact : Layout where
  line _ := []
  afterColon := []
  line_blank := by simp
  afterColon_blank := by simp

/-- One part a line, two spaces for each level. -/
def indented : Layout where
  line depth := '\n' :: List.replicate (2 * depth) ' '
  afterColon := [' ']
  line_blank depth c h := by
    rcases List.mem_cons.1 h with rfl | h
    · rfl
    · rw [List.eq_of_mem_replicate h]; rfl
  afterColon_blank c h := by
    rw [List.mem_singleton.1 h]; rfl

end Layout

/-- A spelling between its quotes. -/
def quote (spelling : List Char) : List Char := '"' :: spelling ++ ['"']

mutual

/-- The characters of a value at some depth. -/
def chars (layout : Layout) (depth : Nat) : Json → List Char
  | .null => ['n', 'u', 'l', 'l']
  | .bool true => ['t', 'r', 'u', 'e']
  | .bool false => ['f', 'a', 'l', 's', 'e']
  | .number literal => literal
  | .string spelling => quote spelling
  | .array [] => ['[', ']']
  | .array (item :: items) =>
    '[' :: layout.line (depth + 1) ++ chars layout (depth + 1) item ++
      charsOfItems layout (depth + 1) items ++ layout.line depth ++ [']']
  | .object [] => ['\x7b', '\x7d']
  | .object ((name, value) :: members) =>
    '\x7b' :: layout.line (depth + 1) ++ quote name ++ ':' :: layout.afterColon ++
      chars layout (depth + 1) value ++ charsOfMembers layout (depth + 1) members ++
      layout.line depth ++ ['\x7d']

/-- The characters of the items behind the first one. -/
def charsOfItems (layout : Layout) (depth : Nat) : List Json → List Char
  | [] => []
  | item :: items =>
    ',' :: layout.line depth ++ chars layout depth item ++ charsOfItems layout depth items

/-- The characters of the members behind the first one. -/
def charsOfMembers (layout : Layout) (depth : Nat) : List (List Char × Json) → List Char
  | [] => []
  | (name, value) :: members =>
    ',' :: layout.line depth ++ quote name ++ ':' :: layout.afterColon ++
      chars layout depth value ++ charsOfMembers layout depth members

end

/-- The text of a value. -/
def write (layout : Layout) (value : Json) : String := String.ofList (chars layout 0 value)

/-- The text of a value without blanks. -/
def compact (value : Json) : String := write .compact value

/-- The text of a value with one part a line. -/
def indented (value : Json) : String := write .indented value

end DidKeys.Json
