import DidKeys.Text.Decimal

/-! # What can be wrong with a mnemonic

The coding of entropy in words has faults of its own (`CodingError`), and a mnemonic is refused for
one of them or for the number of its elements (`MnemonicError`).  `MnemonicError.ofCoding` says what
a fault of the coding is for a mnemonic. -/

namespace DidKeys

/-- Why entropy cannot be written in words, or words hold none. -/
inductive CodingError where
  /-- There is no coding in this many words. -/
  | wordCount (count : Nat)
  /-- The word at this place, counted from zero, is not in the list. -/
  | unknownWord (place : Nat)
  /-- The last bits are not the checksum of the others. -/
  | checksum
  /-- There is no coding of this many bits. -/
  | entropyBits (bits : Nat)
  /-- Any other reason, in its own words. -/
  | other (text : String)
  deriving DecidableEq, Repr

/-- Why a mnemonic is refused. -/
inductive MnemonicError where
  /-- There is no mnemonic of this many words. -/
  | wordCount (count : Nat)
  /-- The word at this place, counted from zero, is not in the list. -/
  | unknownWord (place : Nat)
  /-- The last bits are not the checksum of the others. -/
  | checksum
  /-- There is no mnemonic for this many bytes of entropy. -/
  | entropyLength (length : Nat)
  /-- The coding has another reason. -/
  | encoding (text : String)
  deriving DecidableEq, Repr

namespace MnemonicError

/-- The text of a cause, which holds no word. -/
def message : MnemonicError → String
  | wordCount count =>
    "invalid mnemonic length: " ++ Decimal.text count ++ " words (expected 12, 15, 18, 21 or 24)"
  | unknownWord place => "word #" ++ Decimal.text place ++ " is not in the BIP39 English wordlist"
  | checksum => "mnemonic checksum mismatch"
  | entropyLength length => "invalid entropy length: " ++ Decimal.text length ++ " bytes"
  | encoding text => "mnemonic encoding error: " ++ text

/-- A fault of the coding, as one of the mnemonic. -/
def ofCoding : CodingError → MnemonicError
  | .wordCount count => wordCount count
  | .unknownWord place => unknownWord place
  | .checksum => checksum
  | .entropyBits bits => entropyLength (bits / 8)
  | .other text => encoding text

end MnemonicError
end DidKeys
