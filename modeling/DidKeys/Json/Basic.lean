import DidKeys.Text.Decimal

/-! # JSON values as written

A value keeps the spelling of its strings and numbers: a string its escapes, a number its literal.
So a value that nobody asks about is never judged beyond its form, and writing a value is spelling
its parts again.

* `escape` spells a text between quotes, `unescape?` reads such a spelling; `unescape?_escape` says
  that reading inverts spelling.
* `text` and `nat` make the values of texts and numbers; `text?`, `nat?`, `bool?`, `items?` and
  `fields?` ask for them. -/

namespace DidKeys

/-- A JSON value, with strings and numbers as they are spelled. -/
inductive Json where
  | null
  | bool (value : Bool)
  | number (literal : List Char)
  | string (spelling : List Char)
  | array (items : List Json)
  | object (members : List (List Char × Json))

namespace Json

/-! ### Strings -/

/-- A digit of a hexadecimal number, in lowercase. -/
def hexDigit (v : Nat) : Char := if v < 10 then Char.ofNat (48 + v) else Char.ofNat (87 + v)

/-- The value of a hexadecimal digit of either case. -/
def hexValue? (c : Char) : Option Nat :=
  let v := c.toNat
  if 48 ≤ v ∧ v ≤ 57 then some (v - 48)
  else if 65 ≤ v ∧ v ≤ 70 then some (v - 55)
  else if 97 ≤ v ∧ v ≤ 102 then some (v - 87)
  else none

/-- How a character is spelled between quotes: controls, quotes and backslashes are escaped. -/
def escapeChar (c : Char) : List Char :=
  if c = '"' ∨ c = '\\' then ['\\', c]
  else if c = '\x08' then ['\\', 'b']
  else if c = '\x0c' then ['\\', 'f']
  else if c = '\n' then ['\\', 'n']
  else if c = '\r' then ['\\', 'r']
  else if c = '\t' then ['\\', 't']
  else if c.toNat < 0x20 then
    ['\\', 'u', '0', '0', hexDigit (c.toNat / 16), hexDigit (c.toNat % 16)]
  else [c]

/-- How a text is spelled between quotes. -/
def escape (cs : List Char) : List Char := cs.flatMap escapeChar

/-- The character that a letter behind a backslash stands for. -/
def escapedChar? : Char → Option Char
  | '"' => some '"'
  | '\\' => some '\\'
  | '/' => some '/'
  | 'b' => some '\x08'
  | 'f' => some '\x0c'
  | 'n' => some '\n'
  | 'r' => some '\r'
  | 't' => some '\t'
  | _ => none

/-- The number of four hexadecimal digits. -/
def hexValue4? (a b c d : Char) : Option Nat := do
  return (← hexValue? a) * 4096 + (← hexValue? b) * 256 + (← hexValue? c) * 16 + (← hexValue? d)

/-- The code points of a spelling; an escape may also give a half of a pair. -/
def codePoints? : List Char → Option (List Nat)
  | [] => some []
  | '\\' :: 'u' :: a :: b :: c :: d :: cs => do
    let v ← hexValue4? a b c d
    return v :: (← codePoints? cs)
  | '\\' :: e :: cs => do
    let c ← escapedChar? e
    return c.toNat :: (← codePoints? cs)
  | c :: cs => do return c.toNat :: (← codePoints? cs)

/-- Whether a code point is the first half of a pair. -/
def isHigh (v : Nat) : Bool := 0xD800 ≤ v && v ≤ 0xDBFF

/-- Whether a code point is the second half of a pair. -/
def isLow (v : Nat) : Bool := 0xDC00 ≤ v && v ≤ 0xDFFF

/-- Joins the halves of pairs; a half on its own is no character. -/
def joinPairs? : List Nat → Option (List Char)
  | [] => some []
  | [v] => if isHigh v || isLow v then none else some [Char.ofNat v]
  | v :: w :: vs =>
    if isLow v then none
    else if isHigh v then
      if isLow w then
        (joinPairs? vs).map (Char.ofNat (0x10000 + (v - 0xD800) * 0x400 + (w - 0xDC00)) :: ·)
      else none
    else (joinPairs? (w :: vs)).map (Char.ofNat v :: ·)

/-- The text that a spelling stands for, if it has no half of a pair on its own. -/
def unescape? (spelling : List Char) : Option (List Char) := do
  joinPairs? (← codePoints? spelling)

/-! ### Values of texts and numbers -/

/-- The string of a text. -/
def text (s : String) : Json := .string (escape s.toList)

/-- The number of a natural number. -/
def nat (n : Nat) : Json := .number (Decimal.digits n)

/-- The text of a string. -/
def text? : Json → Option String
  | .string spelling => (unescape? spelling).map String.ofList
  | _ => none

/-- The natural number below `bound` that a literal of digits spells. -/
def nat? (bound : Nat) : Json → Option Nat
  | .number literal => (Decimal.value? literal).filter (· < bound)
  | _ => none

/-- The truth value of a value. -/
def bool? : Json → Option Bool
  | .bool value => some value
  | _ => none

/-- The items of an array. -/
def items? : Json → Option (List Json)
  | .array items => some items
  | _ => none

/-! ### Records -/

/-- The names of the members of an object, in order. -/
def memberNames? (members : List (List Char × Json)) : Option (List (List Char)) :=
  members.mapM fun member => unescape? member.1

/-- The value of the only member with a given name: `some none` if there is no such member, `none`
if there are several. -/
def only? (name : List Char) (members : List (List Char × Json)) : Option (Option Json) :=
  match members.filter fun member => unescape? member.1 == some name with
  | [] => some none
  | [member] => some (some member.2)
  | _ => none

/-- The fields of a record with the given names.  A record is an object, in which each name stands
at most once and other members do not count, or an array with the fields in order, the last ones of
which may be left out. -/
def fields? (names : List String) : Json → Option (List (Option Json))
  | .object members => do
    let _ ← memberNames? members
    names.mapM fun name => only? name.toList members
  | .array items =>
    if items.length ≤ names.length then
      some (items.map some ++ List.replicate (names.length - items.length) none)
    else none
  | _ => none

/-- The fields of a record, all of which have to be there. -/
def allFields? (names : List String) (value : Json) : Option (List Json) := do
  (← fields? names value).mapM id

/-- The record with the given fields. -/
def record (fields : List (String × Json)) : Json :=
  .object (fields.map fun field => (escape field.1.toList, field.2))

/-! ### Reading what was spelled -/

theorem hexValue?_hexDigit : ∀ v < 16, hexValue? (hexDigit v) = some v := by decide

/-- A character other than a backslash stands for itself. -/
theorem codePoints?_cons {c : Char} (h : c ≠ '\\') (cs : List Char) :
    codePoints? (c :: cs) = (codePoints? cs).map (c.toNat :: ·) := by
  rw [codePoints?]
  · cases codePoints? cs <;> rfl
  · rintro - - - - - rfl
    exact absurd rfl h
  · rintro - - rfl
    exact absurd rfl h

/-- A letter behind a backslash stands for one character. -/
theorem codePoints?_letter {e c : Char} (hu : e ≠ 'u') (he : escapedChar? e = some c)
    (cs : List Char) : codePoints? ('\\' :: e :: cs) = (codePoints? cs).map (c.toNat :: ·) := by
  rw [codePoints?]
  · rw [he]
    cases codePoints? cs <;> rfl
  · rintro - - - - - rfl
    exact absurd rfl hu

/-- Four digits behind `u` stand for their number. -/
theorem codePoints?_digits {a b c d : Char} {v : Nat} (h : hexValue4? a b c d = some v)
    (cs : List Char) :
    codePoints? ('\\' :: 'u' :: a :: b :: c :: d :: cs) = (codePoints? cs).map (v :: ·) := by
  rw [codePoints?, h]
  cases codePoints? cs <;> rfl

/-- The digits of a number below 256 behind two zeros. -/
theorem hexValue4?_hexDigit {v : Nat} (h : v < 256) :
    hexValue4? '0' '0' (hexDigit (v / 16)) (hexDigit (v % 16)) = some v := by
  have zero : hexValue? '0' = some 0 := rfl
  rw [hexValue4?, zero, hexValue?_hexDigit _ (by omega), hexValue?_hexDigit _ (by omega)]
  simp
  omega

/-- The spelling of a character stands for the character. -/
theorem codePoints?_escapeChar_append (c : Char) (cs : List Char) :
    codePoints? (escapeChar c ++ cs) = (codePoints? cs).map (c.toNat :: ·) := by
  unfold escapeChar
  split
  · next h => rcases h with rfl | rfl <;> exact codePoints?_letter (by decide) rfl cs
  · next hc =>
    split
    · next h => subst h; exact codePoints?_letter (by decide) rfl cs
    split
    · next h => subst h; exact codePoints?_letter (by decide) rfl cs
    split
    · next h => subst h; exact codePoints?_letter (by decide) rfl cs
    split
    · next h => subst h; exact codePoints?_letter (by decide) rfl cs
    split
    · next h => subst h; exact codePoints?_letter (by decide) rfl cs
    split
    · exact codePoints?_digits (hexValue4?_hexDigit (by omega)) cs
    · exact codePoints?_cons (fun h => hc (.inr h)) cs

theorem codePoints?_escape (cs : List Char) :
    codePoints? (escape cs) = some (cs.map Char.toNat) := by
  induction cs with
  | nil => rfl
  | cons c cs ih =>
    have ih' : codePoints? (cs.flatMap escapeChar) = some (cs.map Char.toNat) := ih
    simp [escape, codePoints?_escapeChar_append, ih']

/-- No character is a half of a pair. -/
theorem isHalf_toNat (c : Char) : isHigh c.toNat = false ∧ isLow c.toNat = false := by
  have h := c.valid
  simp only [UInt32.isValidChar, Nat.isValidChar] at h
  simp only [isHigh, isLow, Char.toNat, Bool.and_eq_false_iff, decide_eq_false_iff_not]
  omega

/-- A code point that is no half of a pair stands for itself. -/
theorem joinPairs?_cons {v : Nat} (hh : isHigh v = false) (hl : isLow v = false) (vs : List Nat) :
    joinPairs? (v :: vs) = (joinPairs? vs).map (Char.ofNat v :: ·) := by
  cases vs <;> simp [joinPairs?, hh, hl]

theorem joinPairs?_toNat (cs : List Char) : joinPairs? (cs.map Char.toNat) = some cs := by
  induction cs with
  | nil => rfl
  | cons c cs ih =>
    obtain ⟨hh, hl⟩ := isHalf_toNat c
    rw [List.map_cons, joinPairs?_cons hh hl, ih, Char.ofNat_toNat]
    rfl

@[simp] theorem unescape?_escape (cs : List Char) : unescape? (escape cs) = some cs := by
  simp [unescape?, codePoints?_escape, joinPairs?_toNat]

@[simp] theorem text?_text (s : String) : (text s).text? = some s := by
  simp [text, text?]

theorem nat?_nat {bound n : Nat} (h : n < bound) : (nat n).nat? bound = some n := by
  simp [nat, nat?, h]

end Json
end DidKeys
