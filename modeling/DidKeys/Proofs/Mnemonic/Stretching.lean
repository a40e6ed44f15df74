import DidKeys.Proofs.Did.FromMnemonic
import DidKeys.Proofs.Hash.PasswordBased
import DidKeys.Proofs.Mnemonic.Elements
import DidKeys.Proofs.Mnemonic.Verdict
import DidKeys.Proofs.Text.Versions

/-! # What a seed depends on

A mnemonic that holds is stretched by PBKDF2: the words of its phrase with single spaces between
them are the password, and `mnemonic` with the normal form of the passphrase behind it is the salt
(`seed_eq_seedOf`).  So codes with the same words have the same seed under passphrases with the same
normal form, however the words are spread over their elements, and with the seed all that is made of
it: keys (`hasKey_congr`) and identifiers (`createFromMnemonic_congr`).

All of this holds for any version of the character database.  Identifiers are made with version 18,
by which a text has the normal form of version 17 unless it has characters that were added.  A seed
always has a length from which there can be a master key (`ofSeed_ne_seedLength`). -/

namespace DidKeys

namespace MnemonicCode

/-! ### Words and passphrases -/

/-- The bytes that are made of words and a passphrase in its normal form. -/
def seedOf (row : List String) (form : String) : Bytes :=
  pbkdf2 hmacSha512 64 2048 (Bytes.ofString (" ".intercalate row))
    (Bytes.ofString "mnemonic" ++ Bytes.ofString form) 64

section seed
variable {db : Text.CharacterDatabase} {code : MnemonicCode} {passphrase form : String}
  {row : List String}

theorem phrase_eq_intercalate (row : List String) : phrase ⟨row⟩ = " ".intercalate row := by
  rw [← String.toList_inj, phrase, String.toList_ofList, String.toList_intercalate,
    Text.join_eq_intercalate]
  rfl

theorem stretchedPhrase_of_hasWords (h : Text.HasWords code.phrase row) :
    code.stretchedPhrase = " ".intercalate row := by
  rw [stretchedPhrase, ofText, Text.hasWords_iff.mp h, phrase_eq_intercalate]

theorem salt_of_isNormalForm (h : Text.IsNormalForm db passphrase form) :
    salt db passphrase = Bytes.ofString "mnemonic" ++ Bytes.ofString form := by
  rw [salt, Text.isNormalForm_iff.mp h]

/-- The seed of a code that holds. -/
theorem seed_eq_seedOf (hvalid : code.validate = .ok ()) (hwords : Text.HasWords code.phrase row)
    (hform : Text.IsNormalForm db passphrase form) :
    code.seed passphrase db = .ok (seedOf row form) := by
  have hstretch : seedOf row form = stretch hmacSha512 stretchRounds
      (Bytes.ofString (" ".intercalate row))
      (Bytes.ofString "mnemonic" ++ Bytes.ofString form) :=
    pbkdf2_eq_stretch (by decide) length_hmacSha512 _ _ _
  rw [seed_of_validate hvalid, stretchedPhrase_of_hasWords hwords, salt_of_isNormalForm hform,
    hstretch]

end seed

/-! ### What is made of a seed -/

/-- A mnemonic has a key at a path. -/
def HasKey (db : Text.CharacterDatabase) (code : MnemonicCode) (passphrase : String) (path : Path)
    (key : ExtendedKey) : Prop :=
  ∃ seed, code.seed passphrase db = .ok seed ∧ deriveKey seed path = .ok key

section congr
variable {db : Text.CharacterDatabase} {code first second : MnemonicCode}
  {passphrase other : String}

theorem hasKey_congr (h : first.seed passphrase db = second.seed other db) (path : Path)
    (key : ExtendedKey) : HasKey db first passphrase path key ↔ HasKey db second other path key := by
  rw [HasKey, HasKey, h]

theorem createFromMnemonic_congr (h : first.seed passphrase db = second.seed other db)
    (didIndex : Nat) :
    Did.createFromMnemonic first didIndex passphrase db =
      Did.createFromMnemonic second didIndex other db := by
  rw [Did.createFromMnemonic, Did.createFromMnemonic, h]

/-- A seed that was stretched is neither too short nor too long. -/
theorem ofSeed_ne_seedLength {seed : Bytes} (h : code.seed passphrase db = .ok seed)
    (length : Nat) : ExtendedKey.ofSeed seed ≠ .error (.seedLength length) := by
  intro herror
  have hlength : ExtendedKey.minSeedLength ≤ seed.length ∧
      seed.length ≤ ExtendedKey.maxSeedLength := by
    rw [length_of_seed h]
    decide
  cases ExtendedKey.eq_invalidKey_of_ofSeed hlength herror

end congr

/-! ### Stretching -/

/-- By every version of the character database: a code that is refused has no seed, and the fault is
the same.  The seed of any other one is that of the words of its phrase and the normal form of the
passphrase, of which there is exactly one each.  Codes that hold and have the same words thus have
the same seed, keys and identifiers under passphrases with the same normal form, and no seed is
refused for its length. -/
theorem seed_exact (db : Text.CharacterDatabase) :
    (∀ (code : MnemonicCode) (passphrase : String),
      (∀ cause, code.seed passphrase db = .error cause ↔ code.validate = .error cause) ∧
      (∃! row, Text.HasWords code.phrase row) ∧ (∃! form, Text.IsNormalForm db passphrase form) ∧
      ∀ row form, code.validate = .ok () → Text.HasWords code.phrase row →
        Text.IsNormalForm db passphrase form →
        code.seed passphrase db = .ok (pbkdf2 hmacSha512 64 2048
          (Bytes.ofString (" ".intercalate row))
          (Bytes.ofString "mnemonic" ++ Bytes.ofString form) 64)) ∧
    (∀ (first second : MnemonicCode) (row : List String), first.validate = .ok () →
      second.validate = .ok () → Text.HasWords first.phrase row → Text.HasWords second.phrase row →
      ∀ passphrase other form, Text.IsNormalForm db passphrase form →
        Text.IsNormalForm db other form →
        (∃ seed, first.seed passphrase db = .ok seed ∧ second.seed other db = .ok seed) ∧
        (∀ path key, HasKey db first passphrase path key ↔ HasKey db second other path key) ∧
        ∀ didIndex, Did.createFromMnemonic first didIndex passphrase db =
          Did.createFromMnemonic second didIndex other db) ∧
    ∀ (code : MnemonicCode) (passphrase : String) (seed : Bytes),
      code.seed passphrase db = .ok seed →
        ∀ length, ExtendedKey.ofSeed seed ≠ .error (.seedLength length) := by
  refine ⟨fun code passphrase => ⟨fun cause => seed_eq_error_iff, ?_, ?_, ?_⟩, ?_, ?_⟩
  · exact ⟨_, Text.hasWords_iff.mpr rfl, fun row h => (Text.hasWords_iff.mp h).symm⟩
  · exact ⟨_, Text.isNormalForm_iff.mpr rfl, fun form h => (Text.isNormalForm_iff.mp h).symm⟩
  · intro row form hvalid hwords hform
    exact seed_eq_seedOf hvalid hwords hform
  · intro first second row hfirst hsecond hwords hwords' passphrase other form hform hform'
    have hseed := seed_eq_seedOf hfirst hwords hform
    have hseed' := seed_eq_seedOf hsecond hwords' hform'
    have hsame : first.seed passphrase db = second.seed other db := hseed.trans hseed'.symm
    exact ⟨⟨_, hseed, hseed'⟩, hasKey_congr hsame, createFromMnemonic_congr hsame⟩
  · intro code passphrase seed hseed length
    exact ofSeed_ne_seedLength hseed length

/-! ### Two spellings -/

/-- A passphrase of a letter with an accent, a fraction, a Korean syllable, and a letter with two
marks. -/
def composedPassphrase : String := "\u00e9\u00bd\uac01a\u0301\u0323"

/-- The same passphrase in its normal form, with the two marks the other way round. -/
def decomposedPassphrase : String := "e\u03011\u20442\u1100\u1161\u11a8a\u0323\u0301"

theorem isNormalForm_composedPassphrase :
    Text.IsNormalForm .version17 composedPassphrase decomposedPassphrase :=
  Text.isNormalForm_iff.mpr (by decide +kernel)

theorem isNormalForm_decomposedPassphrase :
    Text.IsNormalForm .version17 decomposedPassphrase decomposedPassphrase :=
  Text.isNormalForm_iff.mpr (by decide +kernel)

theorem hasWords_spacedCode : Text.HasWords spacedCode.phrase zeroWords := by
  have hfirst : Text.words "abandon abandon" = ["abandon", "abandon"] := by decide
  have hempty : Text.words "" = [] := by decide
  have hrest : ∀ word ∈ List.replicate 9 "abandon" ++ ["about"], Text.IsWord word.toList := by
    intro word hword
    exact isWord_of_mem_zeroWords (List.mem_append_right ["abandon", "abandon"] hword)
  rw [Text.hasWords_iff, words_phrase_eq_flatMap, spacedCode, List.flatMap_cons,
    List.flatMap_cons, hfirst, hempty, Text.flatMap_words_of_isWord hrest]
  rfl

theorem validate_zeroWords : validate ⟨zeroWords⟩ = .ok () := by
  have hwords := Text.hasWords_iff.mp hasWords_zeroWords
  have hspaced := validate_spacedCode
  rw [validate, entropy, Text.hasWords_iff.mp hasWords_spacedCode] at hspaced
  rw [validate, entropy, hwords]
  exact hspaced

/-- Twelve words under a passphrase, and the same words with two in one element and none in another
under another spelling of it, by version 17 and by version 18. -/
theorem seed_exact_two_spellings :
    validate ⟨zeroWords⟩ = .ok () ∧ spacedCode.validate = .ok () ∧
      Text.HasWords (phrase ⟨zeroWords⟩) zeroWords ∧ Text.HasWords spacedCode.phrase zeroWords ∧
      composedPassphrase ≠ decomposedPassphrase ∧
      Text.IsNormalForm .version17 composedPassphrase decomposedPassphrase ∧
      Text.IsNormalForm .version18 composedPassphrase decomposedPassphrase ∧
      Text.IsNormalForm .version18 decomposedPassphrase decomposedPassphrase ∧
      MnemonicCode.seed ⟨zeroWords⟩ composedPassphrase =
        .ok (seedOf zeroWords decomposedPassphrase) ∧
      (∃ seed, MnemonicCode.seed ⟨zeroWords⟩ composedPassphrase = .ok seed ∧
        spacedCode.seed decomposedPassphrase = .ok seed) ∧
      (∀ didIndex, Did.createFromMnemonic ⟨zeroWords⟩ didIndex composedPassphrase =
        Did.createFromMnemonic spacedCode didIndex decomposedPassphrase) ∧
      ∀ length, ExtendedKey.ofSeed (seedOf zeroWords decomposedPassphrase) ≠
        .error (.seedLength length) := by
  have hcomposed : Text.IsNormalForm .version18 composedPassphrase decomposedPassphrase :=
    (Text.isNormalForm_version18_iff (by decide +kernel)).mpr isNormalForm_composedPassphrase
  have hdecomposed : Text.IsNormalForm .version18 decomposedPassphrase decomposedPassphrase :=
    (Text.isNormalForm_version18_iff (by decide +kernel)).mpr isNormalForm_decomposedPassphrase
  obtain ⟨heach, hboth, hlength⟩ := seed_exact .version18
  obtain ⟨_, _, _, hseed⟩ := heach ⟨zeroWords⟩ composedPassphrase
  have hstretched := hseed _ _ validate_zeroWords hasWords_zeroWords hcomposed
  obtain ⟨hsame, _, hdids⟩ := hboth _ _ _ validate_zeroWords validate_spacedCode hasWords_zeroWords
    hasWords_spacedCode _ _ _ hcomposed hdecomposed
  exact ⟨validate_zeroWords, validate_spacedCode, hasWords_zeroWords, hasWords_spacedCode,
    by decide, isNormalForm_composedPassphrase, hcomposed, hdecomposed, hstretched, hsame, hdids,
    hlength _ _ _ hstretched⟩

end MnemonicCode
end DidKeys
