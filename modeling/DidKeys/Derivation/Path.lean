import DidKeys.Derivation.Axis
import DidKeys.Text.Quoted
import DidKeys.Text.Split

/-! # Derivation paths

A path is the list of steps from the master key down to a key.  Its text is `m`, then each step
behind a slash.

* Reading takes numbers with zeros in front; writing has none.
* Of several faults the leftmost one counts: a segment that is no step at all is a fault of the
  whole text, one whose number is too large is a fault of that number.
* A number beyond 64 bits is reported as the largest one of 64 bits. -/

namespace DidKeys

/-- Why a text is not a path, or numbers are not steps. -/
inductive PathError where
  /-- The number of a step is not below `2³¹`. -/
  | axisOutOfRange (number : Nat)
  /-- The text does not have the form of a path. -/
  | malformed (text : String)
  deriving DecidableEq, Repr

/-- The text of a cause. -/
def PathError.message : PathError → String
  | .axisOutOfRange number =>
    "derivation axis " ++ Decimal.text number ++ " is out of range (must be below 2^31)"
  | .malformed text => "invalid derivation path syntax: " ++ Text.quoted text

/-- The step with a given number. -/
def Axis.ofNumber (number : Nat) (hardened : Bool) : Except PathError Axis :=
  match Axis.ofNumber? number hardened with
  | some axis => .ok axis
  | none => .error (.axisOutOfRange number)

/-- The steps from the master key to a key. -/
structure Path where
  axes : List Axis
  deriving DecidableEq, Repr

namespace Path

/-- The path of the master key. -/
def root : Path := ⟨[]⟩

/-- A path with one more step. -/
def child (path : Path) (axis : Axis) : Path := ⟨path.axes ++ [axis]⟩

/-- A path without its last step, unless it has none. -/
def parent? (path : Path) : Option Path :=
  if path.axes.isEmpty then none else some ⟨path.axes.dropLast⟩

/-! ### Text -/

/-- The characters of a path. -/
def chars (path : Path) : List Char := 'm' :: path.axes.flatMap fun axis => '/' :: axis.chars

/-- The text of a path. -/
def text (path : Path) : String := String.ofList path.chars

/-- The largest number that a fault reports. -/
def maxReported : Nat := UInt64.size - 1

/-- A segment as the characters before a quote at its end, and whether there is one. -/
def splitQuote (segment : List Char) : List Char × Bool :=
  if segment.getLast? = some '\'' then (segment.dropLast, true) else (segment, false)

/-- Reads one segment of the text `whole`. -/
def readSegment (whole : String) (segment : List Char) : Except PathError Axis :=
  let (digits, hardened) := splitQuote segment
  match Decimal.value? digits with
  | none => .error (.malformed whole)
  | some number =>
    match Axis.ofNumber? number hardened with
    | none => .error (.axisOutOfRange (min number maxReported))
    | some axis => .ok axis

/-- Reads segments from left to right, up to the first fault. -/
def readSegments (whole : String) : List (List Char) → Except PathError (List Axis)
  | [] => .ok []
  | segment :: segments => do
    let axis ← readSegment whole segment
    let axes ← readSegments whole segments
    return axis :: axes

/-- The path that a text spells. -/
def parse (text : String) : Except PathError Path :=
  match Text.split '/' text.toList with
  | ['m'] :: segments => do return ⟨← readSegments text segments⟩
  | _ => .error (.malformed text)

end Path
end DidKeys
