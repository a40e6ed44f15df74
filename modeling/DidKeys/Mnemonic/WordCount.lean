import DidKeys.Mnemonic.Error

/-! # Lengths of mnemonics

A mnemonic has 12, 15, 18, 21 or 24 words.  Three words carry 33 bits: four bytes of entropy and one
bit of checksum. -/

namespace DidKeys

/-- A length that a mnemonic can have. -/
inductive WordCount where
  | twelve
  | fifteen
  | eighteen
  | twentyOne
  | twentyFour
  deriving DecidableEq, Repr

namespace WordCount

/-- The lengths, in order. -/
def all : List WordCount := [.twelve, .fifteen, .eighteen, .twentyOne, .twentyFour]

/-- The length of a new mnemonic. -/
def default : WordCount := .twelve

/-- How many groups of three words there are. -/
def groups : WordCount → Nat
  | twelve => 4
  | fifteen => 5
  | eighteen => 6
  | twentyOne => 7
  | twentyFour => 8

/-- The number of words. -/
def words (count : WordCount) : Nat := 3 * count.groups

/-- The bytes of entropy behind the words. -/
def entropyBytes (count : WordCount) : Nat := 4 * count.groups

/-- The bits of the checksum. -/
def checksumBits (count : WordCount) : Nat := count.groups

/-- The length with this many words. -/
def ofWords? (words : Nat) : Option WordCount := all.find? fun count => count.words == words

/-- The length for this many bytes of entropy. -/
def ofEntropyBytes? (bytes : Nat) : Option WordCount :=
  all.find? fun count => count.entropyBytes == bytes

/-- As `ofWords?`, with the reason for a refusal. -/
def ofWords (words : Nat) : Except MnemonicError WordCount :=
  match ofWords? words with
  | some count => .ok count
  | none => .error (.wordCount words)

@[simp] theorem ofWords?_words (count : WordCount) : ofWords? count.words = some count := by
  cases count <;> decide

@[simp] theorem ofEntropyBytes?_entropyBytes (count : WordCount) :
    ofEntropyBytes? count.entropyBytes = some count := by
  cases count <;> decide

end WordCount
end DidKeys
