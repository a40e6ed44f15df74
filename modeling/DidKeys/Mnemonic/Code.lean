import DidKeys.Hash.Digest
import DidKeys.Mnemonic.Wordlist
import DidKeys.Mnemonic.WordCount
import DidKeys.Text.Split
import DidKeys.Text.WhiteSpace

/-! # Mnemonic codes

A mnemonic writes entropy in words: the bytes are read as one number, the first bits of their digest
are put behind it, and the digits of the result to the base 2048 are the words.

* `wordsOfEntropy` and `entropyOfWords` are the coding, with its own faults.
* `MnemonicCode` holds any words; `validate` vouches for them, and `parse` gives vouched words only.
* Of several faults the number of words counts first, then the first foreign word, then the
  checksum.
* Words are judged as the phrase spells them: white space inside a word cuts it into several. -/

namespace DidKeys

/-! ### Digits to the base 2048 -/

namespace WordDigits

/-- The last `count` digits of a number, the most significant one first. -/
def ofNat : (count : Nat) → Nat → List Nat
  | 0, _ => []
  | count + 1, v => ofNat count (v / Wordlist.size) ++ [v % Wordlist.size]

/-- The number that digits spell. -/
def toNat (digits : List Nat) : Nat := digits.foldl (fun v d => v * Wordlist.size + d) 0

end WordDigits

/-! ### Entropy and checksum -/

/-- The first bits of the digest of entropy, as a number. -/
def entropyChecksum (bits : Nat) (entropy : Bytes) : Nat :=
  Bytes.toNat (sha256 entropy).bytes >>> (256 - bits)

/-- The number that the words of entropy spell. -/
def checkedNumber (count : WordCount) (entropy : Bytes) : Nat :=
  Bytes.toNat entropy <<< count.checksumBits + entropyChecksum count.checksumBits entropy

/-- The entropy in a number that words spell, if the checksum is right. -/
def entropyOfNumber? (count : WordCount) (number : Nat) : Option Bytes :=
  let entropy := Bytes.ofNat count.entropyBytes (number >>> count.checksumBits)
  if checkedNumber count entropy = number then some entropy else none

/-! ### Codes -/

/-- A row of words, which nobody has vouched for. -/
structure MnemonicCode where
  words : List String
  deriving DecidableEq, Repr

namespace MnemonicCode

/-- The words with a space between each two. -/
def phrase (code : MnemonicCode) : String :=
  String.ofList (Text.join ' ' (code.words.map String.toList))

/-- The words that some entropy is written in. -/
def wordsOfEntropy (entropy : Bytes) : Except CodingError (List String) :=
  match WordCount.ofEntropyBytes? entropy.length with
  | none => .error (.entropyBits (8 * entropy.length))
  | some count =>
    .ok ((WordDigits.ofNat count.words (checkedNumber count entropy)).filterMap Wordlist.word?)

/-- The places of words in the list; `place` is that of the first word in the phrase. -/
def places (place : Nat) : List String → Except CodingError (List Nat)
  | [] => .ok []
  | word :: words =>
    match Wordlist.place? word with
    | none => .error (.unknownWord place)
    | some digit => do
      let digits ← places (place + 1) words
      return digit :: digits

/-- The entropy that words spell. -/
def entropyOfWords (words : List String) : Except CodingError Bytes :=
  match WordCount.ofWords? words.length with
  | none => .error (.wordCount words.length)
  | some count => do
    let digits ← places 0 words
    match entropyOfNumber? count (WordDigits.toNat digits) with
    | some entropy => return entropy
    | none => throw .checksum

/-- The mnemonic of some entropy. -/
def ofEntropy (entropy : Bytes) : Except MnemonicError MnemonicCode := do
  return ⟨← (wordsOfEntropy entropy).mapError .ofCoding⟩

/-- The entropy of a mnemonic: first its elements are counted, then the words of its phrase are
read. -/
def entropy (code : MnemonicCode) : Except MnemonicError Bytes := do
  let _ ← WordCount.ofWords code.words.length
  (entropyOfWords (Text.words code.phrase)).mapError .ofCoding

/-- Whether the words are a mnemonic, or why they are none. -/
def validate (code : MnemonicCode) : Except MnemonicError Unit := do
  let _ ← code.entropy

/-- The words between the white space of a text. -/
def ofText (text : String) : MnemonicCode := ⟨Text.words text⟩

/-- The mnemonic that a text spells. -/
def parse (text : String) : Except MnemonicError MnemonicCode := do
  (ofText text).validate
  return ofText text

/-- The diagnostic form, which shows no word. -/
def describe (code : MnemonicCode) : String :=
  "MnemonicCode \x7b word_count: " ++ Decimal.text code.words.length ++
    ", words: \"[REDACTED]\" \x7d"

end MnemonicCode
end DidKeys
