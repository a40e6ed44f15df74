/-! # White space

The characters with the property `White_Space`, and the words between them. -/

namespace DidKeys.Text

/-- Whether a character is white space. -/
def isWhiteSpace (c : Char) : Bool :=
  let v := c.toNat
  (9 ≤ v && v ≤ 13) || v == 0x20 || v == 0x85 || v == 0xA0 || v == 0x1680 ||
    (0x2000 ≤ v && v ≤ 0x200A) || v == 0x2028 || v == 0x2029 || v == 0x202F || v == 0x205F ||
    v == 0x3000

/-- Puts a character in front of a text that is already cut into words; the truth value beside the
words says whether the text begins with one. -/
def addToWords (c : Char) : Bool × List (List Char) → Bool × List (List Char)
  | (true, word :: words) =>
    if isWhiteSpace c then (false, word :: words) else (true, (c :: word) :: words)
  | (_, words) => if isWhiteSpace c then (false, words) else (true, [c] :: words)

/-- The maximal runs of characters that are not white space. -/
def wordsOf (cs : List Char) : List (List Char) := (cs.foldr addToWords (false, [])).2

/-- The words of a text. -/
def words (text : String) : List String := (wordsOf text.toList).map String.ofList

end DidKeys.Text
