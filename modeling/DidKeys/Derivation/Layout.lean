import DidKeys.Derivation.ExtendedKey

/-! # Where a wallet keeps its keys

Each identifier has a hardened branch of its own, below it each role a key can play, and below that
the keys of that role: `m/identifier'/role'/key'`. -/

namespace DidKeys

/-- What a key of an identifier is for. -/
inductive KeyRole where
  | master
  | issuing
  | communication
  | authentication
  deriving DecidableEq, Repr

namespace KeyRole

/-- All roles, in the order of their numbers. -/
def all : List KeyRole := [.master, .issuing, .communication, .authentication]

/-- The number of a role in a path. -/
def number : KeyRole → Nat
  | .master => 0
  | .issuing => 1
  | .communication => 2
  | .authentication => 3

/-- The name of a role. -/
def name : KeyRole → String
  | .master => "master"
  | .issuing => "issuing"
  | .communication => "communication"
  | .authentication => "authentication"

/-- The role with a given name. -/
def ofName? (name : String) : Option KeyRole := all.find? fun role => role.name == name

@[simp] theorem ofName?_name (role : KeyRole) : ofName? role.name = some role := by
  cases role <;> decide

theorem number_lt (role : KeyRole) : role.number < Axis.hardenedBit := by
  cases role <;> decide

end KeyRole

/-- The path of a key, from the numbers of its identifier, its role and itself. -/
def keyPath (didIndex : Nat) (role : KeyRole) (keyIndex : Nat) : Except PathError Path := do
  let did ← Axis.ofNumber didIndex true
  let key ← Axis.ofNumber keyIndex true
  return ⟨[did, ⟨role.number, true, role.number_lt⟩, key]⟩

/-- The pair of the key at its place in the layout. -/
def keyPairAt (seed : Bytes) (didIndex : Nat) (role : KeyRole) (keyIndex : Nat) :
    Except DerivationError KeyPair := do
  let path ← (keyPath didIndex role keyIndex).mapError .path
  (← deriveKey seed path).keyPair

end DidKeys
