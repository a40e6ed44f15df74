import DidKeys.Derivation.Layout
import DidKeys.Did.Error
import DidKeys.Wire.Field

/-! # The operation that creates an identifier

The initial state of an identifier is a row of keys, and an identifier is the hash of the operation
that states it.  So the operation has one encoding: tagged fields in the order of their tags, with
empty texts, empty byte strings and zeros left out.

```text
operation  { 1: create }          key       { 1: id, 2: usage, 8: key data }
create     { 1: state }           key data  { 1: curve, 2: x, 3: y }
state      { 2: key, repeated }
```

Reading takes fields in any order, reads over unknown ones, and takes the last of several where one
is wanted.  All of the message is read before any key is judged. -/

namespace DidKeys

/-- What a key may be used for. -/
inductive KeyUsage where
  | unknown
  | master
  | issuing
  | communication
  | authentication
  | revocation
  deriving DecidableEq, Repr

namespace KeyUsage

/-- All usages, in the order of their numbers. -/
def all : List KeyUsage :=
  [.unknown, .master, .issuing, .communication, .authentication, .revocation]

/-- The number of a usage. -/
def code : KeyUsage → Nat
  | .unknown => 0
  | .master => 1
  | .issuing => 2
  | .communication => 3
  | .authentication => 4
  | .revocation => 5

/-- The name of a usage. -/
def name : KeyUsage → String
  | .unknown => "Unknown"
  | .master => "Master"
  | .issuing => "Issuing"
  | .communication => "Communication"
  | .authentication => "Authentication"
  | .revocation => "Revocation"

/-- The usage with a given number. -/
def ofCode? (code : Int) : Option KeyUsage := all.find? fun usage => (usage.code : Int) == code

@[simp] theorem ofCode?_code (usage : KeyUsage) : ofCode? usage.code = some usage := by
  cases usage <;> decide

/-- The usage of the keys of a role. -/
def ofRole : KeyRole → KeyUsage
  | .master => .master
  | .issuing => .issuing
  | .communication => .communication
  | .authentication => .authentication

end KeyUsage

/-- A key as it is stated: the name of a curve and two coordinates, none of which is checked. -/
structure KeyData where
  curve : String
  x : Bytes
  y : Bytes
  deriving DecidableEq, Repr

namespace KeyData

/-- The statement of a key. -/
def ofPublicKey (key : PublicKey) : KeyData := ⟨curveName, key.xBytes, key.yBytes⟩

/-- The key that is stated. -/
def publicKey (data : KeyData) : Except DidError PublicKey :=
  if data.curve = curveName then
    (PublicKey.ofCoordinates data.x data.y).mapError fun _ => .publicKey
  else .error (.operation (.foreignCurve data.curve))

end KeyData

/-- A key of the initial state. -/
structure OperationKey where
  id : String
  usage : KeyUsage
  data : KeyData
  deriving DecidableEq, Repr

/-- The operation that creates an identifier with some keys. -/
structure Operation where
  keys : List OperationKey
  deriving DecidableEq, Repr

namespace Operation

/-- The first key with a given name. -/
def key? (op : Operation) (id : String) : Option OperationKey :=
  op.keys.find? fun key => key.id == id

/-- The keys with a given usage, in order. -/
def keysWithUsage (op : Operation) (usage : KeyUsage) : List OperationKey :=
  op.keys.filter fun key => key.usage == usage

end Operation

/-! ### Writing -/

/-- A field with a byte string, left out if that is empty. -/
def fieldUnlessEmpty (tag : Nat) (content : Bytes) : Bytes :=
  if content = [] then [] else Wire.writeDelimited tag content

/-- A field with a number, left out if that is zero. -/
def fieldUnlessZero (tag value : Nat) : Bytes :=
  if value = 0 then [] else Wire.writeVarint tag value

/-- The fields of a stated key. -/
def KeyData.encode (data : KeyData) : Bytes :=
  fieldUnlessEmpty 1 (Bytes.ofString data.curve) ++ fieldUnlessEmpty 2 data.x ++
    fieldUnlessEmpty 3 data.y

/-- The fields of a key. -/
def OperationKey.encode (key : OperationKey) : Bytes :=
  fieldUnlessEmpty 1 (Bytes.ofString key.id) ++ fieldUnlessZero 2 key.usage.code ++
    Wire.writeDelimited 8 key.data.encode

namespace Operation

/-- The fields of the initial state. -/
def encodeState (op : Operation) : Bytes :=
  op.keys.flatMap fun key => Wire.writeDelimited 2 key.encode

/-- The encoding of an operation. -/
def encode (op : Operation) : Bytes :=
  Wire.writeDelimited 1 (Wire.writeDelimited 1 op.encodeState)

/-- The hash of an operation, which is what its identifier says. -/
def hash (op : Operation) : Digest := sha256 op.encode

end Operation

/-! ### Reading -/

/-- How deep groups may nest in an operation; each message inside takes one level. -/
def groupLimit : Nat := 100

/-- A key as it is read, before it is judged. -/
structure RawKey where
  id : String
  usage : Int
  data : Option KeyData
  deriving DecidableEq, Repr

/-- The stated key in some fields. -/
def KeyData.ofFields? (fields : List Wire.Field) : Option KeyData := do
  return ⟨← Wire.text? 1 fields, ← Wire.bytes? 2 fields, ← Wire.bytes? 3 fields⟩

/-- The number of a usage: the low 32 bits, of which the highest is a sign. -/
def usageOfNumber (value : Nat) : Int := Int.bmod value UInt32.size

namespace RawKey

/-- The key in some fields. -/
def ofFields? (fields : List Wire.Field) : Option RawKey := do
  let data ← match ← Wire.message? (groupLimit - 4) 8 fields with
    | some inner => (KeyData.ofFields? inner).map some
    | none => some none
  return ⟨← Wire.text? 1 fields, usageOfNumber (← Wire.number? 2 fields), data⟩

/-- The key that was read, if its usage is known and its data are there. -/
def judge (key : RawKey) : Except OperationError OperationKey :=
  match KeyUsage.ofCode? key.usage, key.data with
  | none, _ => .error (.unknownUsage key.usage)
  | some _, none => .error (.noKeyData key.id)
  | some usage, some data => .ok ⟨key.id, usage, data⟩

end RawKey

namespace Operation

/-- The keys in the fields of an operation, if these create an identifier. -/
def rawKeys? (fields : List Wire.Field) : Option (Option (List RawKey)) := do
  match ← Wire.message? (groupLimit - 1) 1 fields with
  | none => return none
  | some create =>
    match ← Wire.message? (groupLimit - 2) 1 create with
    | none => return some []
    | some state =>
      let keys ← Wire.messages? (groupLimit - 3) 2 state
      return some (← keys.mapM RawKey.ofFields?)

/-- Judges keys in order, up to the first fault. -/
def judgeKeys : List RawKey → Except OperationError (List OperationKey)
  | [] => .ok []
  | key :: keys => do
    let key ← key.judge
    let keys ← judgeKeys keys
    return key :: keys

/-- The operation in a byte string. -/
def decode (bs : Bytes) : Except OperationError Operation :=
  match (Wire.fields? groupLimit bs).bind rawKeys? with
  | none => .error .malformed
  | some none => .error .notCreate
  | some (some keys) => do return ⟨← judgeKeys keys⟩

end Operation
end DidKeys
