import DidKeys.Did.Document

/-! # Failures of commands

A failure names the step that failed, and below it the causes, the nearest one first.  A single
cause stands behind a margin of four spaces; several are numbered. -/

namespace DidKeys.CommandLine

/-- What failed, and why. -/
structure Failure where
  message : String
  causes : List String
  deriving DecidableEq, Repr

/-- Errors that are shown: each as its own text, then the texts of what is behind it. -/
class Caused (ε : Type) where
  causes : ε → List String

instance : Caused Hex.Error := ⟨fun e => [e.message]⟩
instance : Caused KeyError := ⟨fun e => [e.message]⟩
instance : Caused PathError := ⟨fun e => [e.message]⟩
instance : Caused MnemonicError := ⟨fun e => [e.message]⟩
instance : Caused DocumentError := ⟨fun e => [e.message]⟩

instance : Caused DerivationError where
  causes
    | .key cause => [(DerivationError.key cause).message, cause.message]
    | e => [e.message]

instance : Caused DidError where
  causes
    | .derivation cause => Caused.causes cause
    | e => [e.message]

/-- The failure of a step, which has a name of its own. -/
def because {ε α : Type} [Caused ε] (message : String) : Except ε α → Except Failure α :=
  Except.mapError fun e => ⟨message, Caused.causes e⟩

/-- The failure of a step that its error tells well enough. -/
def plainly {ε α : Type} [Caused ε] : Except ε α → Except Failure α :=
  Except.mapError fun e => ⟨(Caused.causes e).headD "", (Caused.causes e).tail⟩

/-- A text behind a margin, with the lines below it indented alike. -/
def indent (first rest : String) (text : String) : List Char :=
  first.toList ++ text.toList.flatMap fun c => if c = '\n' then '\n' :: rest.toList else [c]

/-- The lines of a cause among several, with its number. -/
def numberedCause (cause : String × Nat) : List Char :=
  let digits := Decimal.digits cause.2
  '\n' :: indent (String.ofList (List.replicate (5 - digits.length) ' ' ++ digits ++ [':', ' ']))
    "       " cause.1

/-- The lines of the causes. -/
def causeLines : List String → List Char
  | [] => []
  | [cause] => "\n\nCaused by:\n".toList ++ indent "    " "    " cause
  | causes => "\n\nCaused by:".toList ++ causes.zipIdx.flatMap numberedCause

/-- The text of a failure. -/
def Failure.text (failure : Failure) : String :=
  "Error: " ++ failure.message ++ String.ofList (causeLines failure.causes) ++ "\n"

end DidKeys.CommandLine
