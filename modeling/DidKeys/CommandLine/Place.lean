import DidKeys.Backend
import DidKeys.CommandLine.Report

/-! # The commands and their options

The commands form a tree.  A `Place` is a node of it: the program itself, a group of commands or a
command.  Each place has its options, and some take one text without a name.

An option is a flag, or it takes a value of some `Form`; `Form.accepts` says which texts are values
of a form. -/

namespace DidKeys.CommandLine

/-- A node in the tree of commands. -/
inductive Place where
  | program
  | mnemonic
  | newMnemonic
  | checkMnemonic
  | derive
  | did
  | createDid
  | inspectDid
  | sign
  | verify
  | version
  deriving DecidableEq, Repr

/-! ### Values -/

/-- What the value of an option may be. -/
inductive Form where
  /-- There is no value. -/
  | flag
  /-- Any text. -/
  | text
  /-- A number of 64 bits. -/
  | count
  /-- A number of 32 bits. -/
  | index
  /-- The name of a backend. -/
  | backend
  /-- The name of a format for logs. -/
  | logFormat
  deriving DecidableEq, Repr

/-- The number that a numeral spells, which may have a plus in front. -/
def unsigned? : List Char → Option Nat
  | '+' :: digits => Decimal.value? digits
  | digits => Decimal.value? digits

/-- The count that a text spells. -/
def count? (text : String) : Option Nat := (unsigned? text.toList).filter (· < UInt64.size)

/-- The index that a text spells; zero may have a minus in front. -/
def index? (text : String) : Option Nat :=
  match text.toList with
  | '-' :: digits => (Decimal.value? digits).filter (· = 0)
  | cs => (unsigned? cs).filter (· < UInt32.size)

/-- Whether a text is a value of a form. -/
def Form.accepts (text : String) : Form → Bool
  | .flag => false
  | .text => true
  | .count => (count? text).isSome
  | .index => (index? text).isSome
  | .backend => (Backend.parse text).isOk
  | .logFormat => text == "pretty" || text == "json"

/-- An option: its name, without the two dashes, and its form. -/
structure Named where
  name : String
  form : Form
  deriving DecidableEq, Repr

/-! ### The tree -/

namespace Place

/-- What a place is called, where versions are shown. -/
def title : Place → String
  | program => programName
  | mnemonic => programName ++ "-mnemonic"
  | newMnemonic => programName ++ "-mnemonic-new"
  | checkMnemonic => programName ++ "-mnemonic-check"
  | derive => programName ++ "-derive"
  | did => programName ++ "-did"
  | createDid => programName ++ "-did-create"
  | inspectDid => programName ++ "-did-inspect"
  | sign => programName ++ "-sign"
  | verify => programName ++ "-verify"
  | version => programName ++ "-version"

/-- The commands below a place, with their names. -/
def children : Place → List (String × Place)
  | program =>
    [("mnemonic", mnemonic), ("derive", derive), ("did", did), ("sign", sign), ("verify", verify),
      ("version", version)]
  | mnemonic => [("new", newMnemonic), ("check", checkMnemonic)]
  | did => [("create", createDid), ("inspect", inspectDid)]
  | _ => []

/-- The place below a place with a given name. -/
def child? (place : Place) (name : String) : Option Place := place.children.lookup name

/-- The options of every place. -/
def globalOptions : List Named :=
  [⟨"backend", .backend⟩, ⟨"log-format", .logFormat⟩, ⟨"log-level", .text⟩]

/-- The options from which a seed comes. -/
def seedOptions : List Named := [⟨"mnemonic", .text⟩, ⟨"passphrase", .text⟩]

/-- The options that only one place has. -/
def ownOptions : Place → List Named
  | newMnemonic => [⟨"words", .count⟩]
  | derive => seedOptions ++ [⟨"path", .text⟩, ⟨"show-private", .flag⟩]
  | createDid => seedOptions ++ [⟨"did-index", .index⟩]
  | sign => seedOptions ++ [⟨"path", .text⟩, ⟨"message", .text⟩]
  | verify => [⟨"public-key", .text⟩, ⟨"message", .text⟩, ⟨"signature", .text⟩]
  | _ => []

/-- The option of a place with a given name. -/
def option? (place : Place) (name : String) : Option Named :=
  (globalOptions ++ place.ownOptions).find? fun option => option.name == name

/-- Whether a place takes a text without a name. -/
def takesText : Place → Bool
  | checkMnemonic | inspectDid => true
  | _ => false

end Place
end DidKeys.CommandLine
