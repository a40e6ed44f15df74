import DidKeys.Text.CharacterDatabase

/-! # Compatibility normal form

The normal form of a text has every character decomposed as far as it goes, and then the marks
after each starting character in the order of their classes.

* `decompose` decomposes one character: Korean syllables by arithmetic, all others by their rows.
* `insertMark` moves a mark behind the marks of lower class that follow it, and no further.
* `normalize` is the whole, for any version of the character database. -/

namespace DidKeys.Text

/-- The letters of a Korean syllable, which is counted by its three letters. -/
def decomposeSyllable (index : Nat) : List Char :=
  let leading := Char.ofNat (0x1100 + index / 588)
  let vowel := Char.ofNat (0x1161 + index % 588 / 28)
  if index % 28 = 0 then [leading, vowel]
  else [leading, vowel, Char.ofNat (0x11A7 + index % 28)]

/-- The full decomposition of a character. -/
def decompose (db : CharacterDatabase) (c : Char) : List Char :=
  if 0xAC00 ≤ c.toNat ∧ c.toNat ≤ 0xD7A3 then decomposeSyllable (c.toNat - 0xAC00)
  else (db.decomposition? c).getD [c]

/-- Puts a character before a text in order, behind the marks of lower class at its front. -/
def insertMark (db : CharacterDatabase) (c : Char) : List Char → List Char
  | [] => [c]
  | d :: text =>
    if 0 < db.combiningClass d ∧ db.combiningClass d < db.combiningClass c then
      d :: insertMark db c text
    else c :: d :: text

/-- The compatibility normal form of a text. -/
def normalize (db : CharacterDatabase) (text : String) : String :=
  String.ofList ((text.toList.flatMap (decompose db)).foldr (insertMark db) [])

end DidKeys.Text
