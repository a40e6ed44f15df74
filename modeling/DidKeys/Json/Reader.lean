import DidKeys.Json.Position
import DidKeys.Json.Printer

/-! # Reading JSON

`readValue` takes one value off the front of a text.  Spellings are kept, and checked for their form
only: an escape has to be one, but whether it is a character is the question of who asks for the
text.

`read` gives the value to a decoder before it looks at what follows, so a value that its domain
refuses is reported as such whatever stands behind it. -/

namespace DidKeys.Json

/-- A text without the blanks at its front. -/
def skipBlanks (cs : List Char) : List Char := cs.dropWhile isBlank

/-! ### Leaves -/

/-- The spelling up to the closing quote, and what follows the quote. -/
def scanString : List Char → Option (List Char × List Char)
  | [] => none
  | '"' :: cs => some ([], cs)
  | '\\' :: 'u' :: a :: b :: c :: d :: cs => do
    let _ ← hexValue4? a b c d
    let (spelling, rest) ← scanString cs
    return ('\\' :: 'u' :: a :: b :: c :: d :: spelling, rest)
  | '\\' :: e :: cs => do
    let _ ← escapedChar? e
    let (spelling, rest) ← scanString cs
    return ('\\' :: e :: spelling, rest)
  | c :: cs =>
    if c.toNat < 0x20 then none
    else (scanString cs).map fun (spelling, rest) => (c :: spelling, rest)

/-- One or more digits, and what follows them. -/
def scanDigits (cs : List Char) : Option (List Char × List Char) :=
  match cs.takeWhile Decimal.isDigit with
  | [] => none
  | digits => some (digits, cs.dropWhile Decimal.isDigit)

/-- The whole part of a number: a zero, or digits that begin with another one. -/
def scanWhole : List Char → Option (List Char × List Char)
  | '0' :: cs => some (['0'], cs)
  | cs => scanDigits cs

/-- The part of a number behind a point, if there is a point. -/
def scanFraction : List Char → Option (List Char × List Char)
  | '.' :: cs => (scanDigits cs).map fun (digits, rest) => ('.' :: digits, rest)
  | cs => some ([], cs)

/-- A sign among those given, if there is one. -/
def scanSign (signs : List Char) : List Char → List Char × List Char
  | c :: cs => if c ∈ signs then ([c], cs) else ([], c :: cs)
  | [] => ([], [])

/-- The exponent of a number, if there is one. -/
def scanExponent : List Char → Option (List Char × List Char)
  | c :: cs =>
    if c = 'e' ∨ c = 'E' then do
      let (sign, cs) := scanSign ['+', '-'] cs
      let (digits, rest) ← scanDigits cs
      return (c :: sign ++ digits, rest)
    else some ([], c :: cs)
  | [] => some ([], [])

/-- A literal of a number, and what follows it. -/
def scanNumber (cs : List Char) : Option (List Char × List Char) := do
  let (sign, cs) := scanSign ['-'] cs
  let (whole, cs) ← scanWhole cs
  let (fraction, cs) ← scanFraction cs
  let (exponent, cs) ← scanExponent cs
  return (sign ++ whole ++ fraction ++ exponent, cs)

/-- A string behind its opening quote, as a value. -/
def readString (cs : List Char) : Option (Json × List Char) :=
  (scanString cs).map fun (spelling, rest) => (.string spelling, rest)

/-- The name of a member and the colon behind it. -/
def readName (cs : List Char) : Option (List Char × List Char) :=
  match skipBlanks cs with
  | '"' :: cs => do
    let (name, cs) ← scanString cs
    match skipBlanks cs with
    | ':' :: cs => some (name, cs)
    | _ => none
  | _ => none

/-! ### Values -/

mutual

/-- A value at the front of a text, nested at most `fuel` parts deep and wide. -/
def readValue : (fuel : Nat) → List Char → Option (Json × List Char)
  | 0, _ => none
  | fuel + 1, cs =>
    match skipBlanks cs with
    | 'n' :: 'u' :: 'l' :: 'l' :: cs => some (.null, cs)
    | 't' :: 'r' :: 'u' :: 'e' :: cs => some (.bool true, cs)
    | 'f' :: 'a' :: 'l' :: 's' :: 'e' :: cs => some (.bool false, cs)
    | '"' :: cs => readString cs
    | '[' :: cs =>
      match skipBlanks cs with
      | ']' :: cs => some (.array [], cs)
      | cs => (readItems fuel cs).map fun (items, rest) => (.array items, rest)
    | '\x7b' :: cs =>
      match skipBlanks cs with
      | '\x7d' :: cs => some (.object [], cs)
      | cs => (readMembers fuel cs).map fun (members, rest) => (.object members, rest)
    | cs => (scanNumber cs).map fun (literal, rest) => (.number literal, rest)

/-- One or more items and the end of their array. -/
def readItems : (fuel : Nat) → List Char → Option (List Json × List Char)
  | 0, _ => none
  | fuel + 1, cs => do
    let (item, cs) ← readValue fuel cs
    match skipBlanks cs with
    | ',' :: cs => (readItems fuel cs).map fun (items, rest) => (item :: items, rest)
    | ']' :: cs => some ([item], cs)
    | _ => none

/-- One or more members and the end of their object. -/
def readMembers : (fuel : Nat) → List Char → Option (List (List Char × Json) × List Char)
  | 0, _ => none
  | fuel + 1, cs => do
    let (name, cs) ← readName cs
    let (value, cs) ← readValue fuel cs
    match skipBlanks cs with
    | ',' :: cs => (readMembers fuel cs).map fun (members, rest) => ((name, value) :: members, rest)
    | '\x7d' :: cs => some ([(name, value)], cs)
    | _ => none

end

/-- The value at the front of a text, and what follows it.  Every part that a reader enters costs a
character, so the length of the text bounds them. -/
def readFirst (cs : List Char) : Option (Json × List Char) := readValue (2 * cs.length + 2) cs

/-! ### Decoding -/

/-- Why a text is no written form of anything in a domain. -/
inductive ReadError (ε : Type) where
  /-- The text is not a value of the wanted shape. -/
  | malformed
  /-- The value has the shape, and the domain refuses it. -/
  | refused (cause : ε)
  deriving DecidableEq, Repr

/-- The reason that a reader tells: the message of a cause, whose position, if it ends in one,
counts as the reader's own. -/
def ReadError.reason? {ε : Type} (message : ε → String) : ReadError ε → Option String
  | .malformed => none
  | .refused cause => some (withoutPosition (message cause))

/-- What `decode` makes of the only value in a text. -/
def read {ε α : Type} (decode : Json → Except (ReadError ε) α) (text : String) :
    Except (ReadError ε) α :=
  match readFirst text.toList with
  | none => .error .malformed
  | some (value, rest) => do
    let a ← decode value
    if skipBlanks rest = [] then return a else .error .malformed

/-- A value of the wanted shape, or a malformed one. -/
def demand {ε α : Type} : Option α → Except (ReadError ε) α
  | some a => .ok a
  | none => .error .malformed

/-- The verdict of a domain on a value of the wanted shape. -/
def judge {ε α : Type} : Except ε α → Except (ReadError ε) α := Except.mapError .refused

end DidKeys.Json
