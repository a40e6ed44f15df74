import DidKeys.Json.Reader

/-! # Which arithmetic the keys run on

There is one backend for the curve.  Its name is read in any case from a command line or an
environment, and in lowercase only from a configuration. -/

namespace DidKeys

/-- An implementation of the curve. -/
inductive Backend where
  | k256
  deriving DecidableEq, Repr

/-- A name that no backend has. -/
structure UnknownBackend where
  name : String
  deriving DecidableEq, Repr

/-- The text of the fault. -/
def UnknownBackend.message (fault : UnknownBackend) : String :=
  "unknown curve backend '" ++ fault.name ++ "' (expected one of: k256)"

namespace Backend

/-- The backend that is used unless another one is named. -/
def default : Backend := .k256

/-- The name of a backend. -/
def name : Backend → String
  | .k256 => "k256"

/-- A character with an ASCII capital made small. -/
def lowerChar (c : Char) : Char := if 'A' ≤ c ∧ c ≤ 'Z' then Char.ofNat (c.toNat + 32) else c

/-- The backend with a given name, in any case. -/
def parse (text : String) : Except UnknownBackend Backend :=
  if text.toList.map lowerChar = Backend.k256.name.toList then .ok .k256
  else .error ⟨text⟩

/-- The string of a backend. -/
def toJson (backend : Backend) : Json := .text backend.name

/-- The backend with exactly the given name. -/
def ofName? (name : String) : Option Backend :=
  if name = Backend.k256.name then some .k256 else none

/-- The backend that a value names: a string, or an object with that name and nothing behind it. -/
def ofJson? : Json → Option Backend
  | .object [(name, .null)] => do ofName? (String.ofList (← Json.unescape? name))
  | value => do ofName? (← value.text?)

end Backend

/-- How the arithmetic is set up. -/
structure EngineConfig where
  backend : Backend
  deriving DecidableEq, Repr

namespace EngineConfig

/-- The configuration that nobody changed. -/
def default : EngineConfig := ⟨.default⟩

/-- The record of a configuration. -/
def toJson (config : EngineConfig) : Json := .record [("backend", config.backend.toJson)]

/-- The configuration that a record describes; what it leaves out is as nobody changed it. -/
def ofJson? (value : Json) : Option EngineConfig := do
  match ← value.fields? ["backend"] with
  | [some backend] => return ⟨← Backend.ofJson? backend⟩
  | [none] => some default
  | _ => none

/-- Reads the record of a configuration; no record of the right shape is refused. -/
def readJson (text : String) : Except (Json.ReadError Empty) EngineConfig :=
  Json.read (fun value => Json.demand (ofJson? value)) text

end EngineConfig
end DidKeys
