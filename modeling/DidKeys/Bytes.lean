/-! # Byte strings

Everything that is hashed, signed or put on the wire is a list of octets.  Integers travel
big-endian: `toNat` reads a byte string of any length as a number, `ofNat width` writes the last
`width` base-256 digits of a number.  Reading and writing at the same width gives the byte string
back (`ofNat_toNat`). -/

namespace DidKeys

/-- A byte string. -/
abbrev Bytes := List UInt8

namespace Bytes

/-! ### Big-endian numbers -/

/-- The number that a byte string spells, most significant byte first. -/
def toNat (bs : Bytes) : Nat := bs.foldl (fun v b => v * 256 + b.toNat) 0

/-- The last `width` base-256 digits of a number, most significant first. -/
def ofNat : (width : Nat) → Nat → Bytes
  | 0, _ => []
  | width + 1, v => ofNat width (v / 256) ++ [UInt8.ofNat v]

@[simp] theorem toNat_nil : toNat [] = 0 := rfl

@[simp] theorem toNat_concat (bs : Bytes) (b : UInt8) :
    toNat (bs ++ [b]) = toNat bs * 256 + b.toNat := by
  simp [toNat, List.foldl_append]

@[simp] theorem length_ofNat (width v : Nat) : (ofNat width v).length = width := by
  induction width generalizing v with
  | zero => rfl
  | succ width ih => simp [ofNat, ih]

/-- A byte string is its first bytes followed by its last byte, or empty. -/
theorem eq_nil_or_concat : (bs : Bytes) → bs = [] ∨ ∃ init last, bs = init ++ [last]
  | [] => .inl rfl
  | b :: bs => by
    rcases eq_nil_or_concat bs with rfl | ⟨init, last, rfl⟩
    · exact .inr ⟨[], b, rfl⟩
    · exact .inr ⟨b :: init, last, rfl⟩

theorem ofNat_toNat_of_length {width : Nat} {bs : Bytes} (h : bs.length = width) :
    ofNat width (toNat bs) = bs := by
  induction width generalizing bs with
  | zero => rw [List.length_eq_zero_iff.1 h]; rfl
  | succ width ih =>
    rcases eq_nil_or_concat bs with rfl | ⟨init, last, rfl⟩
    · simp at h
    · have hinit : init.length = width := by simpa using h
      have hlast := last.toNat_lt
      rw [toNat_concat, ofNat, show (toNat init * 256 + last.toNat) / 256 = toNat init by omega,
        ih hinit]
      congr 2
      apply UInt8.toNat_inj.1
      rw [UInt8.toNat_ofNat']
      omega

theorem ofNat_toNat (bs : Bytes) : ofNat bs.length (toNat bs) = bs :=
  ofNat_toNat_of_length rfl

/-! ### Fixed width -/

/-- A number at exactly `width` bytes: zeros in front are dropped or added, and a number that needs
more than `width` bytes has no such form. -/
def fit? (width : Nat) (bs : Bytes) : Option Bytes :=
  let digits := bs.dropWhile (· == 0)
  if digits.length ≤ width then some (List.replicate (width - digits.length) 0 ++ digits) else none

/-! ### Text -/

/-- The UTF-8 encoding of a text. -/
def ofString (text : String) : Bytes := text.toList.flatMap String.utf8EncodeChar

/-- The text that a byte string encodes, if it is well-formed UTF-8. -/
def toString? (bs : Bytes) : Option String := String.fromUTF8? ⟨bs.toArray⟩

@[simp] theorem ofString_append (s t : String) :
    ofString (s ++ t) = ofString s ++ ofString t := by
  simp [ofString]

end Bytes
end DidKeys
