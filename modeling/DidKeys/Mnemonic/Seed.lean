import DidKeys.Hash.Hmac
import DidKeys.Mnemonic.Code
import DidKeys.Text.Normalization

/-! # Seeds of mnemonics

The phrase of a mnemonic is stretched into 64 bytes, under a salt that holds the passphrase in its
normal form.  A mnemonic that does not hold is refused, not stretched.  The normal form is that of a
version of the character database, which is version 18 where none is named. -/

namespace DidKeys.MnemonicCode

open Text (CharacterDatabase)

/-- How often the keyed hash is applied. -/
def stretchRounds : Nat := 2048

/-- The bytes of a seed. -/
def seedLength : Nat := 64

/-- The salt of a passphrase. -/
def salt (db : CharacterDatabase) (passphrase : String) : Bytes :=
  Bytes.ofString "mnemonic" ++ Bytes.ofString (Text.normalize db passphrase)

/-- The phrase as it is stretched, with single spaces. -/
def stretchedPhrase (code : MnemonicCode) : String := (ofText code.phrase).phrase

/-- The seed of a mnemonic under a passphrase. -/
def seed (code : MnemonicCode) (passphrase : String) (db : CharacterDatabase := .version18) :
    Except MnemonicError Bytes := do
  code.validate
  return stretch hmacSha512 stretchRounds (Bytes.ofString code.stretchedPhrase)
    (salt db passphrase)

/-! ### Refusals and lengths -/

section refusals
variable {code : MnemonicCode} {passphrase : String} {db : CharacterDatabase}

theorem seed_of_validate (h : code.validate = .ok ()) (passphrase : String)
    (db : CharacterDatabase) :
    code.seed passphrase db =
      .ok (stretch hmacSha512 stretchRounds (Bytes.ofString code.stretchedPhrase)
        (salt db passphrase)) := by
  rw [seed, h]
  rfl

/-- The mnemonic alone decides whether it has a seed, and the fault is that of the mnemonic. -/
theorem seed_eq_error_iff {cause : MnemonicError} :
    code.seed passphrase db = .error cause ↔ code.validate = .error cause := by
  cases h : code.validate with
  | error fault =>
    rw [seed, h]
    exact ⟨fun hseed => congrArg Except.error (Except.error.inj hseed),
      fun hfault => congrArg Except.error (Except.error.inj hfault)⟩
  | ok _ =>
    rw [seed_of_validate h passphrase db]
    exact iff_of_false (fun hseed => nomatch hseed) (fun hfault => nomatch hfault)

@[simp] theorem length_stretch_hmacSha512 (password salt : Bytes) :
    (stretch hmacSha512 stretchRounds password salt).length = seedLength :=
  length_stretch length_hmacSha512 _ _ _

theorem length_of_seed {bytes : Bytes} (h : code.seed passphrase db = .ok bytes) :
    bytes.length = seedLength := by
  cases hvalid : code.validate with
  | error fault =>
    rw [seed_eq_error_iff.2 hvalid] at h
    cases h
  | ok _ =>
    rw [seed_of_validate hvalid passphrase db] at h
    rw [← Except.ok.inj h, length_stretch_hmacSha512]

end refusals
end DidKeys.MnemonicCode
