import DidKeys.CommandLine.Run

/-! # The program

Asks the system for arguments, environment and random bytes, and hands out the outcome of a run. -/

open DidKeys

/-- Runs the program once. -/
def main (args : List String) : IO UInt32 := do
  let env : CommandLine.Environment :=
    ⟨← IO.getEnv "PRISM_MNEMONIC", ← IO.getEnv "PRISM_PASSPHRASE",
      ← IO.getEnv "PRISM_CURVE_BACKEND"⟩
  let random ← IO.getRandomBytes 32
  let outcome := CommandLine.run env random.toList args
  IO.print outcome.output
  IO.eprint outcome.errors
  return UInt32.ofNat outcome.exitCode
