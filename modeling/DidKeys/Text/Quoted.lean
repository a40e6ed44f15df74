import DidKeys.Text.GraphemeExtend
import DidKeys.Text.Unprintable

/-! # Quoted text for diagnostics

A text is shown between double quotes.  Tabs, line ends, the zero character, backslashes and the
quote itself are escaped by name; what has no glyph of its own, or extends the character before it,
is escaped by its code point.

* The fillers of the Korean alphabet are letters, but they have no glyph.
* The halfwidth voicing marks extend a character and still have a place of their own beside it. -/

namespace DidKeys.Text

/-- The lowercase hexadecimal digits of a number, as few as possible. -/
def hexDigits (v : Nat) : List Char := Nat.toDigits 16 v

/-- Whether a character holds the place of a letter in a Korean syllable and shows nothing. -/
def isHangulFiller (c : Char) : Bool :=
  c == '\u115f' || c == '\u1160' || c == '\u3164' || c == '\uffa0'

/-- Whether a character marks the voicing of a halfwidth letter before it. -/
def isHalfwidthVoicing (c : Char) : Bool := c == '\uff9e' || c == '\uff9f'

/-- Whether a character is shown by its code point. -/
def needsCodePoint (c : Char) : Bool :=
  isUnprintable c || isHangulFiller c || (isGraphemeExtend c && !isHalfwidthVoicing c)

/-- How a character is shown, between quotes of the kind `quote`. -/
def escape (quote c : Char) : List Char :=
  if c = '\x00' then ['\\', '0']
  else if c = '\t' then ['\\', 't']
  else if c = '\r' then ['\\', 'r']
  else if c = '\n' then ['\\', 'n']
  else if c = '\\' ∨ c = quote then ['\\', c]
  else if needsCodePoint c then ['\\', 'u', '\x7b'] ++ hexDigits c.toNat ++ ['\x7d']
  else [c]

/-- A text between double quotes. -/
def quoted (text : String) : String :=
  String.ofList ('"' :: text.toList.flatMap (escape '"') ++ ['"'])

/-- A character between single quotes. -/
def quotedChar (c : Char) : String := String.ofList ('\'' :: escape '\'' c ++ ['\''])

end DidKeys.Text
