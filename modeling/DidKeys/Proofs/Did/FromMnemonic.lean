import DidKeys.Proofs.Derivation.Layout
import DidKeys.Proofs.Did.Created
import DidKeys.Proofs.Signature.Verification

/-! # Identifiers from mnemonics

Making an identifier from a mnemonic takes a seed, a pair and a signature, and is what they make of
it (`createFromMnemonic_eq_ok_iff`), or fails with the first of them that fails
(`createFromMnemonic_eq_error_iff`).  What is made hangs together (`createFromMnemonic_outcome`):
the hash, the signature, the text and the key that is read from the text belong to one operation and
one pair. -/

namespace DidKeys

/-! ### Signed operations -/

namespace Operation
variable {op : Operation} {keyId : String} {key : PrivateKey}

theorem sign_eq_ok_iff {signed : SignedOperation} :
    op.sign keyId key = .ok signed ↔
      ∃ sig, key.sign op.encode = .ok sig ∧ signed = ⟨keyId, sig, op⟩ := by
  refine bind_eq_ok_iff.trans (exists_congr fun sig => and_congr_right fun _ => ?_)
  exact ⟨fun h => (Except.ok.inj h).symm, fun h => congrArg Except.ok h.symm⟩

theorem sign_eq_error_iff {fault : KeyError} :
    op.sign keyId key = .error fault ↔ key.sign op.encode = .error fault :=
  bind_pure_eq_error_iff

end Operation

namespace Did

variable {code : MnemonicCode} {didIndex : Nat} {passphrase : String}

/-! ### Results -/

theorem createFromMnemonic_eq_ok_iff {created : CreatedDid} :
    createFromMnemonic code didIndex passphrase = .ok created ↔
      ∃ seed pair sig, code.seed passphrase = .ok seed ∧
        keyPairAt seed didIndex .master 0 = .ok pair ∧
        pair.privateKey.sign (Operation.create pair.publicKey none).encode = .ok sig ∧
        created = ⟨create pair.publicKey none,
          ⟨masterKeyId, sig, .create pair.publicKey none⟩,
          (Operation.create pair.publicKey none).hash⟩ := by
  unfold createFromMnemonic
  simp only [bind_eq_ok_iff, mapError_eq_ok_iff, Operation.sign_eq_ok_iff]
  constructor
  · rintro ⟨seed, hseed, pair, hpair, _, ⟨sig, hsig, rfl⟩, hcreated⟩
    exact ⟨seed, pair, sig, hseed, hpair, hsig, (Except.ok.inj hcreated).symm⟩
  · rintro ⟨seed, pair, sig, hseed, hpair, hsig, rfl⟩
    exact ⟨seed, hseed, pair, hpair, _, ⟨sig, hsig, rfl⟩, rfl⟩

theorem createFromMnemonic_eq_error_iff {cause : DidError} :
    createFromMnemonic code didIndex passphrase = .error cause ↔
      (∃ fault, code.seed passphrase = .error fault ∧ .mnemonic fault = cause) ∨
      ∃ seed, code.seed passphrase = .ok seed ∧
        ((∃ fault, keyPairAt seed didIndex .master 0 = .error fault ∧ .derivation fault = cause) ∨
        ∃ pair, keyPairAt seed didIndex .master 0 = .ok pair ∧
          ∃ fault, pair.privateKey.sign (Operation.create pair.publicKey none).encode =
            .error fault ∧ .key fault = cause) := by
  unfold createFromMnemonic
  simp only [bind_eq_error_iff, mapError_eq_error_iff, mapError_eq_ok_iff,
    Operation.sign_eq_error_iff, pure, Except.pure, reduceCtorEq, and_false, exists_false, or_false]

theorem createFromMnemonic_eq_mnemonic_iff {cause : MnemonicError} :
    createFromMnemonic code didIndex passphrase = .error (.mnemonic cause) ↔
      code.validate = .error cause := by
  rw [createFromMnemonic_eq_error_iff]
  constructor
  · rintro (⟨fault, hseed, hcause⟩ | ⟨_, _, ⟨_, _, hcause⟩ | ⟨_, _, _, _, hcause⟩⟩)
    · cases hcause
      exact MnemonicCode.seed_eq_error_iff.mp hseed
    · cases hcause
    · cases hcause
  · intro hrefused
    exact .inl ⟨cause, MnemonicCode.seed_eq_error_iff.mpr hrefused, rfl⟩

/-- With a seed at hand and a number that is small enough, the path or the signature fails. -/
theorem createFromMnemonic_eq_error_iff_of_seed {seed : Bytes} {path : Path} {cause : DidError}
    (hseed : code.seed passphrase = .ok seed)
    (hpath : keyPath didIndex .master 0 = .ok path) :
    createFromMnemonic code didIndex passphrase = .error cause ↔
      (∃ fault, deriveKey seed path = .error fault ∧ .derivation fault = cause) ∨
      ∃ pair, keyPairAt seed didIndex .master 0 = .ok pair ∧
        ∃ fault, pair.privateKey.sign (Operation.create pair.publicKey none).encode =
          .error fault ∧ .key fault = cause := by
  rw [createFromMnemonic_eq_error_iff, hseed]
  -- a key that was derived has a pair, so only its path is left of the middle fault
  simp only [keyPairAt_eq_error_iff hpath, Except.ok.injEq, reduceCtorEq, false_and, exists_false,
    false_or, exists_eq_left']

/-! ### What is made -/

/-- An identifier that is made from a mnemonic validates to the operation that was hashed and
signed, is that of the pair at its place in the layout, and names the key that signed, as which it
gives the public key back that takes the signature.  A mnemonic that is refused is the first fault,
and a number that is too large the second; after them only the path of the master key, at a place
that the fault names, or the signature can fail. -/
theorem createFromMnemonic_outcome (code : MnemonicCode) (didIndex : Nat) (passphrase : String) :
    (∀ created, createFromMnemonic code didIndex passphrase = .ok created →
      created.operationHash = created.signedOperation.operation.hash ∧
      created.did.isLongForm = true ∧
      created.did.canonicalSuffix? = some created.operationHash.hex ∧
      (∃ seed pair, code.seed passphrase = .ok seed ∧
        keyPairAt seed didIndex .master 0 = .ok pair ∧
        created.did = create pair.publicKey none) ∧
      ∃ form entry master, created.did.validateLongForm = .ok form ∧
        form.initialState.key? created.signedOperation.signedWith = some entry ∧
        entry.usage = .master ∧ form.masterPublicKey = .ok master ∧
        created.signedOperation.verify master = true) ∧
    (∀ cause, createFromMnemonic code didIndex passphrase = .error (.mnemonic cause) ↔
      code.validate = .error cause) ∧
    (code.validate = .ok () → 2 ^ 31 ≤ didIndex →
      createFromMnemonic code didIndex passphrase =
        .error (.derivation (.path (.axisOutOfRange didIndex)))) ∧
    (code.validate = .ok () → didIndex < 2 ^ 31 →
      ∃ seed path, code.seed passphrase = .ok seed ∧
        path.axes.map (fun axis => (axis.number, axis.hardened)) =
          [(didIndex, true), (0, true), (0, true)] ∧
        (∀ fault, deriveKey seed path = .error fault →
          ∃ before after, path.axes = before ++ after ∧ fault = .invalidKey ⟨before⟩) ∧
        ∀ cause, createFromMnemonic code didIndex passphrase = .error cause ↔
          (∃ fault, deriveKey seed path = .error fault ∧ .derivation fault = cause) ∨
          ∃ pair, keyPairAt seed didIndex .master 0 = .ok pair ∧
            ∃ fault, pair.privateKey.sign (Operation.create pair.publicKey none).encode =
              .error fault ∧ .key fault = cause) := by
  refine ⟨?_, fun cause => createFromMnemonic_eq_mnemonic_iff, ?_, ?_⟩
  · intro created hcreated
    obtain ⟨seed, pair, sig, hseed, hpair, hsig, rfl⟩ :=
      createFromMnemonic_eq_ok_iff.mp hcreated
    have hne := Operation.encode_ne_nil (Operation.length_encode_create_lt pair.publicKey none)
    have hverify := PublicKey.verify_of_sign (publicKey_of_keyPairAt hpair) hsig
    exact ⟨rfl, isLongForm_ofPayload hne, canonicalSuffix?_ofPayload hne,
      ⟨seed, pair, hseed, hpair, rfl⟩, _, _, pair.publicKey, validateLongForm_create _ _,
      Operation.key?_master_create _ _, rfl, masterPublicKey_create _ _ _, hverify⟩
  · intro hvalid hrange
    refine createFromMnemonic_eq_error_iff.mpr
      (.inr ⟨_, MnemonicCode.seed_of_validate hvalid passphrase _, .inl ⟨_, ?_, rfl⟩⟩)
    exact keyPairAt_of_le hrange
  · intro hvalid hrange
    have hseed := MnemonicCode.seed_of_validate hvalid passphrase .version18
    have hpath := keyPath_of_lt hrange .master (show 0 < Axis.hardenedBit by decide)
    refine ⟨_, _, hseed, rfl, fun fault hfault => ?_, fun cause =>
      createFromMnemonic_eq_error_iff_of_seed hseed hpath⟩
    have hlength := MnemonicCode.length_of_seed hseed
    exact exists_place_of_deriveKey_error (by rw [hlength]; decide) hfault

/-- A mnemonic that holds, at the first number that is too large, and one that does not hold.  An
identifier that is made is not among these: its seed takes 2048 rounds of a keyed hash, which is more
than can be evaluated in a proof. -/
theorem createFromMnemonic_outcome_out_of_range :
    let code : MnemonicCode := ⟨List.replicate 11 "abandon" ++ ["about"]⟩
    code.validate = .ok () ∧
      createFromMnemonic code (2 ^ 31) "" =
        .error (.derivation (.path (.axisOutOfRange (2 ^ 31)))) ∧
      createFromMnemonic ⟨["abandon"]⟩ (2 ^ 31) "" = .error (.mnemonic (.wordCount 1)) := by
  intro code
  have hvalid : code.validate = .ok () := by decide +kernel
  have hrefused : MnemonicCode.validate ⟨["abandon"]⟩ = .error (.wordCount 1) := by decide
  refine ⟨hvalid, ?_, ?_⟩
  · exact (createFromMnemonic_outcome code (2 ^ 31) "").2.2.1 hvalid (Nat.le_refl _)
  · exact ((createFromMnemonic_outcome _ (2 ^ 31) "").2.1 (.wordCount 1)).mpr hrefused

end Did
end DidKeys
