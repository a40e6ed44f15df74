import DidKeys.Bytes
import DidKeys.Text.Decimal
import DidKeys.Text.Quoted

/-! # Hexadecimal text

A byte is written as two lowercase digits.  Reading takes digits of either case and looks at the
octets of the text, so a character outside ASCII counts as several.

* The length is checked before any digit: first its parity, then (for a wanted size) its half.
* The first octet that is no digit is reported with its position.
* `decode_encode`: reading what was written gives the bytes back. -/

namespace DidKeys.Hex

/-- Why a text is not the hexadecimal form of a byte string. -/
inductive Error where
  /-- The text has an odd number of octets. -/
  | oddLength
  /-- The text does not have the wanted number of digits. -/
  | wrongLength
  /-- An octet of the text is not a digit. -/
  | badDigit (octet : UInt8) (position : Nat)
  deriving DecidableEq, Repr

/-- The text of a cause; an octet is shown as the character of that number. -/
def Error.message : Error → String
  | .oddLength => "Odd number of digits"
  | .wrongLength => "Invalid string length"
  | .badDigit octet position =>
    "Invalid character " ++ Text.quotedChar (Char.ofNat octet.toNat) ++ " at position " ++
      Decimal.text position

/-! ### Writing -/

/-- The octet of a lowercase digit; only the low four bits of the value count. -/
def digit (value : UInt8) : UInt8 :=
  let v := value % 16
  if v < 10 then 48 + v else 87 + v

/-- The two digits of each byte, as octets. -/
def encodeOctets (bs : Bytes) : Bytes := bs.flatMap fun b => [digit (b / 16), digit b]

/-- The lowercase hexadecimal text of a byte string. -/
def encode (bs : Bytes) : String :=
  String.ofList ((encodeOctets bs).map fun o => Char.ofNat o.toNat)

/-! ### Reading -/

/-- The value of a digit of either case. -/
def value? (octet : UInt8) : Option UInt8 :=
  if 48 ≤ octet ∧ octet ≤ 57 then some (octet - 48)
  else if 65 ≤ octet ∧ octet ≤ 70 then some (octet - 55)
  else if 97 ≤ octet ∧ octet ≤ 102 then some (octet - 87)
  else none

/-- Reads the digits two by two; `position` is where the octets stand in the whole text. -/
def decodeFrom (position : Nat) : Bytes → Except Error Bytes
  | [] => .ok []
  | [_] => .error .oddLength
  | hi :: lo :: rest =>
    match value? hi, value? lo with
    | none, _ => .error (.badDigit hi position)
    | some _, none => .error (.badDigit lo (position + 1))
    | some h, some l => do
      let bs ← decodeFrom (position + 2) rest
      return (16 * h + l) :: bs

/-- The bytes that the octets of a hexadecimal text stand for. -/
def decodeOctets (octets : Bytes) : Except Error Bytes :=
  if octets.length % 2 = 1 then .error .oddLength else decodeFrom 0 octets

/-- The bytes that a hexadecimal text stands for. -/
def decode (text : String) : Except Error Bytes := decodeOctets (Bytes.ofString text)

/-- As `decode`, for exactly `size` bytes. -/
def decodeSized (size : Nat) (text : String) : Except Error Bytes :=
  let octets := Bytes.ofString text
  if octets.length % 2 = 1 then .error .oddLength
  else if octets.length / 2 ≠ size then .error .wrongLength
  else decodeFrom 0 octets

/-! ### Reading what was written -/

/-- A statement about each of the 256 bytes holds of every byte. -/
theorem byte_cases {P : UInt8 → Prop} (h : ∀ n : Fin 256, P (UInt8.ofFin n)) (b : UInt8) : P b :=
  h b.toFin

theorem value?_digit : ∀ v : UInt8, value? (digit v) = some (v % 16) :=
  byte_cases (by decide +kernel)

theorem byte_eq : ∀ b : UInt8, 16 * (b / 16 % 16) + b % 16 = b :=
  byte_cases (by decide +kernel)

theorem decodeFrom_encodeOctets (position : Nat) (bs : Bytes) :
    decodeFrom position (encodeOctets bs) = .ok bs := by
  induction bs generalizing position with
  | nil => rfl
  | cons b bs ih =>
    have ih := ih (position + 2)
    simp only [encodeOctets] at ih
    simp [encodeOctets, decodeFrom, value?_digit, ih, byte_eq, bind, Except.bind, pure, Except.pure]

@[simp] theorem length_encodeOctets (bs : Bytes) : (encodeOctets bs).length = 2 * bs.length := by
  induction bs with
  | nil => rfl
  | cons b bs ih => simp only [encodeOctets] at ih; simp [encodeOctets, ih]; omega

theorem decodeOctets_encodeOctets (bs : Bytes) : decodeOctets (encodeOctets bs) = .ok bs := by
  simp [decodeOctets, decodeFrom_encodeOctets]

/-- A digit is a character of one octet. -/
theorem utf8EncodeChar_digit : ∀ v : UInt8,
    String.utf8EncodeChar (Char.ofNat (digit v).toNat) = [digit v] :=
  byte_cases (by decide +kernel)

@[simp] theorem ofString_encode (bs : Bytes) : Bytes.ofString (encode bs) = encodeOctets bs := by
  induction bs with
  | nil => rfl
  | cons b bs ih =>
    simp only [encode, encodeOctets, Bytes.ofString, String.toList_ofList] at ih
    simp [encode, encodeOctets, Bytes.ofString, utf8EncodeChar_digit, ih]

@[simp] theorem decode_encode (bs : Bytes) : decode (encode bs) = .ok bs := by
  simp [decode, decodeOctets_encodeOctets]

theorem decodeSized_encode {size : Nat} {bs : Bytes} (h : bs.length = size) :
    decodeSized size (encode bs) = .ok bs := by
  simp [decodeSized, h, decodeFrom_encodeOctets]

end DidKeys.Hex
