import DidKeys.Proofs.CommandLine.Reading
import DidKeys.Proofs.Key.Encoding
import DidKeys.Proofs.Signature.Encoding

/-! # Runs of commands

In a usable environment, a run is the outcome of the command that its arguments ask for:
`run_derive` and the like.  The verdict on a signature hangs on what its bytes are taken for
(`verifySignature_encode`). -/

namespace DidKeys.CommandLine

/-! ### Steps of a command -/

section steps
variable {ε α : Type} [Caused ε] {message : String} {x : Except ε α} {a : α}

theorem because_ok (message : String) (a : α) : because message (.ok a : Except ε α) = .ok a := rfl

theorem because_eq_ok_iff : because message x = .ok a ↔ x = .ok a := mapError_eq_ok_iff

theorem plainly_eq_ok_iff : plainly x = .ok a ↔ x = .ok a := mapError_eq_ok_iff

end steps

/-! ### Outcomes -/

/-- The outcome of a command that was read. -/
def Outcome.ofReport : Except Failure Report → Outcome
  | .ok report => ⟨0, report.text, ""⟩
  | .error failure => ⟨1, "", failure.text⟩

/-- A run that reports some lines and no fault.  What it logs is left open. -/
def Outcome.reported (lines : List String) : Outcome := ⟨0, textOfLines lines, ""⟩

section runs
variable {env : Environment} {random : Bytes} {source : SeedSource}

/-- Arguments that are read under some condition lead to the outcome of their command under this
condition. -/
theorem run_of_parse {args : List String} {command : Command} {good : Prop} [Decidable good]
    (h : parse env args = if good then .ok command else .error .usage) :
    run env random args =
      if good then .ofReport (command.report random) else Stop.usage.outcome := by
  by_cases hgood : good
  · rw [if_pos hgood] at h ⊢
    rw [run, h]
    dsimp only
    cases command.report random <;> rfl
  · rw [if_neg hgood] at h ⊢
    rw [run, h]

theorem run_createDid (didIndex : Nat) :
    run env random (createDidArguments source didIndex) =
      if didIndex < UInt32.size ∧ env.isUsable = true then .ofReport (createDid source didIndex)
      else Stop.usage.outcome :=
  run_of_parse (parse_createDidArguments didIndex)

theorem run_derive (path : String) :
    run env random (deriveArguments source path) =
      if env.isUsable then .ofReport (do return .derivedKey (← keyAt source path) false)
      else Stop.usage.outcome :=
  run_of_parse (parse_deriveArguments path)

theorem run_sign (path message : String) :
    run env random (signArguments source path message) =
      if env.isUsable then .ofReport (signMessage source path message)
      else Stop.usage.outcome :=
  run_of_parse (parse_signArguments path message)

theorem run_verify (publicKey message signature : String) :
    run env random (verifyArguments publicKey message signature) =
      if env.isUsable then .ofReport (verifySignature publicKey message signature)
      else Stop.usage.outcome :=
  run_of_parse (parse_verifyArguments publicKey message signature)

/-- The text of an identifier does not begin with a dash. -/
theorem ofChars_ofParts (hash : String) (state : Option String) :
    Argument.ofChars (Did.ofParts hash state).value.toList = .plain := by
  have hsuffix : ∀ suffix, Argument.ofChars (Did.ofSuffix suffix).value.toList = .plain := by
    intro suffix
    show Argument.ofChars (prismHead ++ suffix).toList = .plain
    rw [String.toList_append]
    rfl
  cases state <;> exact hsuffix _

theorem run_inspectDid {did : Did} (h : Argument.ofChars did.value.toList = .plain) :
    run env random (inspectDidArguments did.value) =
      if env.isUsable then .ofReport (inspectDid did.value) else Stop.usage.outcome :=
  run_of_parse (parse_inspectDidArguments h)

/-- A run that succeeds makes an identifier. -/
theorem exists_of_run_createDid {didIndex : Nat}
    (h : (run env random (createDidArguments source didIndex)).exitCode = 0) :
    env.isUsable = true ∧ ∃ report, createDid source didIndex = .ok report ∧
      run env random (createDidArguments source didIndex) = .reported report.lines := by
  rw [run_createDid] at h ⊢
  by_cases hgood : didIndex < UInt32.size ∧ env.isUsable = true
  · rw [if_pos hgood] at h ⊢
    cases hreport : createDid source didIndex with
    | error failure =>
        rw [hreport] at h
        cases h
    | ok report => exact ⟨hgood.2, report, rfl, rfl⟩
  · rw [if_neg hgood] at h
    cases h

/-- A run that fails has nothing on its standard output. -/
theorem output_of_run {args : List String} (h : (run env random args).exitCode ≠ 0) :
    (run env random args).output = "" := by
  unfold run at h ⊢
  cases hparse : parse env args with
  | error reason =>
      rw [hparse] at h
      cases reason with
      | usage => rfl
      | help place => exact absurd rfl h
      | version place => exact absurd rfl h
  | ok command =>
      rw [hparse] at h
      dsimp only at h ⊢
      cases hreport : command.report random with
      | error failure => rfl
      | ok report =>
          rw [hreport] at h
          exact absurd rfl h

end runs

/-! ### Signatures -/

theorem signatureOf_toBytes (signature : Signature) :
    signatureOf signature.toBytes = .ok signature := by
  rw [signatureOf, signature.ofBytes_toBytes]

/-- What the bytes of a signature are taken for decides, not how they spell it. -/
theorem verifySignature_encode {bytes : Bytes} {signature : Signature}
    (h : signatureOf bytes = .ok signature) (publicKey message : String) :
    verifySignature publicKey message (Hex.encode bytes) =
      verifySignature publicKey message signature.hex := by
  unfold verifySignature
  rw [Signature.hex, Hex.decode_encode, Hex.decode_encode, because_ok, because_ok]
  simp only [ok_bind, h, signatureOf_toBytes]

/-- A key and a signature are judged as they were printed. -/
theorem verifySignature_hex (key : PublicKey) (message : String) (signature : Signature) :
    verifySignature key.hex message signature.hex =
      if key.verifyText message signature then .ok .validSignature
      else .error ⟨"signature does not verify", []⟩ := by
  have hkey : PublicKey.ofEncoded key.encoded = .ok key :=
    PublicKey.ofEncoded_eq_ok_iff.mpr .uncompressed
  rw [verifySignature, PublicKey.hex, Hex.decode_encode, because_ok, ok_bind, hkey, because_ok,
    ok_bind, Signature.hex, Hex.decode_encode, because_ok, ok_bind, signatureOf_toBytes, because_ok,
    ok_bind]
  rfl

end DidKeys.CommandLine
