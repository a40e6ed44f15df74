import DidKeys.Proofs.CommandLine.Runs
import DidKeys.Proofs.Derivation.PathText
import DidKeys.Proofs.Did.Document
import DidKeys.Proofs.Did.FromMnemonic
import DidKeys.Proofs.Signature.Encoding

/-! # The commands agree with each other

Making an identifier takes the steps of a path in numbers, and asking for a key reads them from a
text; what an identifier is comes from its own text again.  All of them come to one key: a new
identifier is inspected as that of the key (`inspectDid_create`, `inspectDid_ofHash`), the text of
its path leads to the key (`keyAt_text`), and what the key signs there is valid
(`exists_of_run_sign`).  `commands_agree` says so of whole runs. -/

namespace DidKeys.CommandLine

/-! ### New identifiers -/

section commands
variable {source : SeedSource}

theorem createDid_eq_ok_iff {didIndex : Nat} {report : Report} :
    createDid source didIndex = .ok report ↔
      ∃ code created canonical, MnemonicCode.parse source.mnemonic = .ok code ∧
        Did.createFromMnemonic code didIndex source.passphrase = .ok created ∧
        created.did.canonical? = some canonical ∧ report = .createdDid created canonical := by
  unfold createDid mnemonicOf
  simp only [bind_eq_ok_iff, because_eq_ok_iff]
  constructor
  · rintro ⟨code, hcode, created, hcreated, hreport⟩
    cases hcanonical : created.did.canonical? with
    | none =>
        rw [hcanonical] at hreport
        cases hreport
    | some canonical =>
        rw [hcanonical] at hreport
        exact ⟨code, created, canonical, hcode, hcreated, hcanonical,
          (Except.ok.inj hreport).symm⟩
  · rintro ⟨code, created, canonical, hcode, hcreated, hcanonical, rfl⟩
    refine ⟨code, hcode, created, hcreated, ?_⟩
    rw [hcanonical]
    rfl

/-- A new identifier is that of the key at its place. -/
theorem exists_of_createDid {didIndex : Nat} {report : Report}
    (h : createDid source didIndex = .ok report) :
    ∃ code seed path key privateKey sig, MnemonicCode.parse source.mnemonic = .ok code ∧
      code.seed source.passphrase = .ok seed ∧ keyPath didIndex .master 0 = .ok path ∧
      deriveKey seed path = .ok key ∧ key.keyPair = .ok ⟨privateKey, key.publicKey⟩ ∧
      privateKey.publicKey = .ok key.publicKey ∧
      report = .createdDid
        ⟨Did.create key.publicKey none, ⟨masterKeyId, sig, .create key.publicKey none⟩,
          (Operation.create key.publicKey none).hash⟩
        (.ofHash (Operation.create key.publicKey none).hash) := by
  obtain ⟨code, created, canonical, hcode, hcreated, hcanonical, rfl⟩ := createDid_eq_ok_iff.mp h
  obtain ⟨seed, pair, sig, hseed, hpair, _, rfl⟩ := Did.createFromMnemonic_eq_ok_iff.mp hcreated
  obtain ⟨path, hpath, _⟩ := bind_eq_ok_iff.mp hpair
  rw [mapError_eq_ok_iff] at hpath
  rw [keyPairAt_of_keyPath hpath] at hpair
  obtain ⟨key, hkey, hkeyPair⟩ := bind_eq_ok_iff.mp hpair
  obtain ⟨privateKey, hboth, hpublic⟩ := exists_privateKey_of_deriveKey hkey
  rw [hboth] at hkeyPair
  cases hkeyPair
  rw [Did.canonical?_create] at hcanonical
  cases hcanonical
  exact ⟨code, seed, path, key, privateKey, sig, hcode, hseed, hpath, hkey, hboth, hpublic, rfl⟩

/-! ### Inspection -/

/-- A new identifier is a long one, of the key that it was made of. -/
theorem inspectDid_create (key : PublicKey) :
    inspectDid (Did.create key none).value =
      .ok (.longDid (Operation.create key none).hash.hex key
        (Document.ofValidated (.create key none)
          ⟨(Operation.create key none).hash, .create key none⟩)) := by
  have hne := Operation.encode_ne_nil (Operation.length_encode_create_lt key none)
  have hparse : Did.parse (Did.create key none).value = .ok (Did.create key none) :=
    Did.parse_ofPayload hne
  have hformat : (Did.create key none).format = .long _ := Did.format_ofPayload hne
  have hform := Did.validateLongForm_create key none
  have hmaster := Did.masterPublicKey_create key none (Operation.create key none).hash
  have hvalid := Document.validate_ofValidated_create key none hform
  rw [inspectDid, hparse, because_ok, ok_bind, hformat]
  simp only [hform, hmaster, hvalid, because_ok, ok_bind]
  rfl

/-- The short form of a hash is inspected as that hash. -/
theorem inspectDid_ofHash (hash : Digest) :
    inspectDid (Did.ofHash hash).value = .ok (.canonicalDid hash.hex) := by
  rw [inspectDid, Did.parse_ofHash, because_ok, ok_bind, Did.format_ofHash]
  rfl

/-! ### Keys -/

section key
variable {code : MnemonicCode} {seed : Bytes} {path : Path} {key : ExtendedKey}

/-- The text of a path leads where the path leads. -/
theorem keyAt_text (hcode : MnemonicCode.parse source.mnemonic = .ok code)
    (hseed : code.seed source.passphrase = .ok seed) (hkey : deriveKey seed path = .ok key) :
    keyAt source path.text = .ok key := by
  rw [keyAt, mnemonicOf, hcode, because_ok, ok_bind, Path.parse_text, because_ok, ok_bind, hseed,
    because_ok, ok_bind, hkey]
  rfl

/-- What is signed is signed by the key at the path. -/
theorem exists_of_signMessage {pathText message : String} {report : Report} {pair : KeyPair}
    (hkey : keyAt source pathText = .ok key) (hpair : key.keyPair = .ok pair)
    (h : signMessage source pathText message = .ok report) :
    ∃ signature der, pair.privateKey.signText message = .ok signature ∧
      report = .signedMessage pair.publicKey signature der := by
  have hplain : plainly (.ok pair : Except DerivationError KeyPair) = .ok pair := rfl
  rw [signMessage, hkey, ok_bind, hpair, hplain, ok_bind] at h
  obtain ⟨signature, hsignature, hrest⟩ := bind_eq_ok_iff.mp h
  obtain ⟨der, _, hreport⟩ := bind_eq_ok_iff.mp hrest
  exact ⟨signature, der, plainly_eq_ok_iff.mp hsignature, (Except.ok.inj hreport).symm⟩

end key

end commands

/-! ### Whole runs -/

/-- The path of the master key of an identifier, as it is typed. -/
def masterPath (didIndex : Nat) : String := "m/" ++ Decimal.text didIndex ++ "'/0'/0'"

theorem text_of_masterPath {didIndex : Nat} {path : Path}
    (h : keyPath didIndex .master 0 = .ok path) : path.text = masterPath didIndex := by
  have hzero : Decimal.text 0 = "0" := by
    rw [Decimal.text, Decimal.digits]
    rfl
  have hrole : KeyRole.master.number = 0 := rfl
  have hrest : "'/" ++ ("0" ++ ("'/" ++ ("0" ++ "'"))) = "'/0'/0'" := rfl
  rw [text_of_keyPath h, masterPath, hrole, hzero]
  simp only [String.append_assoc, hrest]

section runs
variable {env : Environment} {random : Bytes} {source : SeedSource}

theorem run_inspectDid_create (husable : env.isUsable = true) (key : PublicKey) :
    run env random (inspectDidArguments (Did.create key none).value) = .reported
      ["format     : long", "suffix     : " ++ (Operation.create key none).hash.hex,
        "master key : " ++ key.hex,
        (Document.ofValidated (.create key none)
          ⟨(Operation.create key none).hash, .create key none⟩).write] := by
  have hplain : Argument.ofChars (Did.create key none).value.toList = .plain := ofChars_ofParts _ _
  rw [run_inspectDid hplain, if_pos husable, inspectDid_create]
  rfl

theorem run_inspectDid_ofHash (husable : env.isUsable = true) (hash : Digest) :
    run env random (inspectDidArguments (Did.ofHash hash).value) = .reported
      ["format : canonical", "suffix : " ++ hash.hex] := by
  have hplain : Argument.ofChars (Did.ofHash hash).value.toList = .plain := ofChars_ofParts _ _
  rw [run_inspectDid hplain, if_pos husable, inspectDid_ofHash]
  rfl

/-- What a run signs with a key, another run finds valid for this key. -/
theorem exists_of_run_sign {key : ExtendedKey} {privateKey : PrivateKey} {path message : String}
    (husable : env.isUsable = true) (hkeyAt : keyAt source path = .ok key)
    (hpair : key.keyPair = .ok ⟨privateKey, key.publicKey⟩)
    (hpublic : privateKey.publicKey = .ok key.publicKey)
    (h : (run env random (signArguments source path message)).exitCode = 0) :
    ∃ (signature : Signature) (der : Bytes),
      run env random (signArguments source path message) = .reported
        ["public key : " ++ key.publicKey.hex, "signature  : " ++ signature.hex,
          "der        : " ++ Hex.encode der] ∧
      run env random (verifyArguments key.publicKey.hex message signature.hex) =
        .reported ["valid"] := by
  rw [run_sign, if_pos husable] at h ⊢
  cases hsign : signMessage source path message with
  | error failure =>
      rw [hsign] at h
      cases h
  | ok report =>
      obtain ⟨signature, der, hsignature, rfl⟩ := exists_of_signMessage hkeyAt hpair hsign
      have hverify : key.publicKey.verifyText message signature = true :=
        PublicKey.verify_of_sign hpublic hsignature
      refine ⟨signature, der, rfl, ?_⟩
      rw [run_verify, if_pos husable, verifySignature_hex, if_pos hverify]
      rfl

end runs

/-- The commands of a wallet agree about the first key of an identifier that is made: it is inspected
as that of the key, under either of its names, the key stands at its path, and what is signed there
is valid.  A run that makes none prints nothing. -/
theorem commands_agree (env : Environment) (random : Bytes) (source : SeedSource) (didIndex : Nat) :
    ((run env random (createDidArguments source didIndex)).exitCode = 0 →
      ∃ (key : PublicKey) (signature : Signature),
        let did := Did.create key none
        let hash := (Operation.create key none).hash
        run env random (createDidArguments source didIndex) = .reported
          ["long form      : " ++ did.value, "canonical      : " ++ (Did.ofHash hash).value,
            "operation hash : " ++ hash.hex, "signed with    : " ++ masterKeyId,
            "signature      : " ++ signature.hex] ∧
        run env random (inspectDidArguments did.value) = .reported
          ["format     : long", "suffix     : " ++ hash.hex, "master key : " ++ key.hex,
            (Document.ofValidated did ⟨hash, .create key none⟩).write] ∧
        run env random (inspectDidArguments (Did.ofHash hash).value) = .reported
          ["format : canonical", "suffix : " ++ hash.hex] ∧
        run env random (deriveArguments source (masterPath didIndex)) = .reported
          ["path        : " ++ masterPath didIndex, "public key  : " ++ key.hex,
            "compressed  : " ++ Hex.encode key.compressed] ∧
        ∀ message,
          (run env random (signArguments source (masterPath didIndex) message)).exitCode = 0 →
          ∃ (signature : Signature) (der : Bytes),
            run env random (signArguments source (masterPath didIndex) message) = .reported
              ["public key : " ++ key.hex, "signature  : " ++ signature.hex,
                "der        : " ++ Hex.encode der] ∧
            run env random (verifyArguments key.hex message signature.hex) =
              .reported ["valid"]) ∧
    ((run env random (createDidArguments source didIndex)).exitCode ≠ 0 →
      (run env random (createDidArguments source didIndex)).output = "") := by
  refine ⟨fun hmade => ?_, output_of_run⟩
  obtain ⟨husable, report, hreport, hrun⟩ := exists_of_run_createDid hmade
  obtain ⟨code, seed, path, key, privateKey, sig, hcode, hseed, hpath, hkey, hpair, hpublic, rfl⟩ :=
    exists_of_createDid hreport
  have hkeyAt : keyAt source (masterPath didIndex) = .ok key := by
    rw [← text_of_masterPath hpath]
    exact keyAt_text hcode hseed hkey
  have hderive : run env random (deriveArguments source (masterPath didIndex)) = .reported
      ["path        : " ++ masterPath didIndex, "public key  : " ++ key.publicKey.hex,
        "compressed  : " ++ Hex.encode key.publicKey.compressed] := by
    rw [run_derive, if_pos husable, hkeyAt, ← text_of_masterPath hpath, ← path_of_deriveKey hkey]
    rfl
  exact ⟨key.publicKey, sig, hrun, run_inspectDid_create husable key.publicKey,
    run_inspectDid_ofHash husable _, hderive,
    fun message => exists_of_run_sign husable hkeyAt hpair hpublic⟩

/-- No words are no mnemonic, so no identifier is made of them.  One that is made is not evaluated
here: its seed takes 2048 rounds of a keyed hash. -/
theorem commands_agree_no_words :
    (run ⟨none, none, none⟩ [] (createDidArguments ⟨"", ""⟩ 0)).exitCode ≠ 0 ∧
      (run ⟨none, none, none⟩ [] (createDidArguments ⟨"", ""⟩ 0)).output = "" := by
  have hrefused : (run ⟨none, none, none⟩ [] (createDidArguments ⟨"", ""⟩ 0)).exitCode ≠ 0 := by
    decide +kernel
  exact ⟨hrefused, (commands_agree ⟨none, none, none⟩ [] ⟨"", ""⟩ 0).2 hrefused⟩

end DidKeys.CommandLine
