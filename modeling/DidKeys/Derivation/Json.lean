import DidKeys.Derivation.Path
import DidKeys.Json.Reader

/-! # Steps and paths in JSON

A step is a record of its number and its mark, a path is the string of its text.  Reading goes
through the same checks as everywhere else: a number of 32 bits that is no number of a step, and a
text that is no path, are refused with their cause. -/

namespace DidKeys

namespace Axis

/-- The record of a step. -/
def toJson (axis : Axis) : Json :=
  .record [("number", .nat axis.number), ("hardened", .bool axis.hardened)]

/-- The step that a record describes. -/
def ofJson (value : Json) : Except (Json.ReadError PathError) Axis := do
  match ← Json.demand (value.allFields? ["number", "hardened"]) with
  | [number, hardened] =>
    let number ← Json.demand (number.nat? UInt32.size)
    let hardened ← Json.demand hardened.bool?
    Json.judge (Axis.ofNumber number hardened)
  | _ => .error .malformed

/-- Reads the record of a step. -/
def readJson (text : String) : Except (Json.ReadError PathError) Axis := Json.read ofJson text

end Axis

namespace Path

/-- The string of a path. -/
def toJson (path : Path) : Json := .text path.text

/-- The path whose text a string holds. -/
def ofJson (value : Json) : Except (Json.ReadError PathError) Path := do
  Json.judge (parse (← Json.demand value.text?))

/-- Reads the string of a path. -/
def readJson (text : String) : Except (Json.ReadError PathError) Path := Json.read ofJson text

end Path
end DidKeys
