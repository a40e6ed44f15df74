import DidKeys.Derivation.ExtendedKey
import DidKeys.Proofs.Except
import DidKeys.Proofs.Key.Tweak

/-! # The keys below a seed

What one step of derivation can do, and what holds of every key that steps from a seed lead to.

* `Outcome`: the results of one step, each with what it takes; `derive_outcome` says that there are
  no others.
* `Matched`: the public half belongs to the private one.  Every step keeps it (`Matched.derive`), so
  every reachable key has it (`Reachable.matched`).
* `exists_of_deriveSteps_error`: a private key only fails at the first step that leads to no key,
  and its error names the place of that step. -/

namespace DidKeys

namespace ExtendedKey

/-! ### One step -/

/-- The number that the keyed hash of a message adds to a key. -/
def tweakOf (parent : ExtendedKey) (message : Bytes) : Nat :=
  Bytes.toNat ((hmacSha512 parent.chainCode message).take chainCodeLength)

/-- The chain code that the keyed hash of a message gives a child. -/
def chainCodeOf (parent : ExtendedKey) (message : Bytes) : Bytes :=
  (hmacSha512 parent.chainCode message).drop chainCodeLength

/-- What the step `axis` from `parent` can result in. -/
inductive Outcome (parent : ExtendedKey) (axis : Axis) :
    Except DerivationError ExtendedKey → Prop
  /-- A hardened step needs the private half. -/
  | closed (hnone : parent.privateKey = none) (hhardened : axis.hardened = true) :
      Outcome parent axis (.error .privateKeyNeeded)
  /-- The tweak leads to no private key. -/
  | noPrivateChild {message : Bytes} {key : PrivateKey}
      (hmessage : parent.childMessage axis = .ok message) (hkey : parent.privateKey = some key)
      (htweak : key.tweak (parent.tweakOf message) = .error .tweak) :
      Outcome parent axis (.error (.invalidKey (parent.path.child axis)))
  /-- The tweak leads to no public key. -/
  | noPublicChild {message : Bytes} (hmessage : parent.childMessage axis = .ok message)
      (hnone : parent.privateKey = none)
      (htweak : parent.publicKey.tweak (parent.tweakOf message) = .error .tweak) :
      Outcome parent axis (.error (.invalidKey (parent.path.child axis)))
  /-- A private key has a private child. -/
  | privateChild {message : Bytes} {key child : PrivateKey} {publicKey : PublicKey}
      (hmessage : parent.childMessage axis = .ok message) (hkey : parent.privateKey = some key)
      (htweak : key.tweak (parent.tweakOf message) = .ok child)
      (hpublic : child.publicKey = .ok publicKey) :
      Outcome parent axis (.ok
        ⟨some child, publicKey, parent.chainCodeOf message, parent.path.child axis⟩)
  /-- A public key has a public child. -/
  | publicChild {message : Bytes} {publicKey : PublicKey}
      (hmessage : parent.childMessage axis = .ok message) (hnone : parent.privateKey = none)
      (htweak : parent.publicKey.tweak (parent.tweakOf message) = .ok publicKey) :
      Outcome parent axis (.ok
        ⟨none, publicKey, parent.chainCodeOf message, parent.path.child axis⟩)

section
variable {parent child : ExtendedKey} {axis : Axis} {message : Bytes}

theorem childMessage_of_normal (hnormal : axis.hardened = false) :
    parent.childMessage axis =
      .ok (parent.publicKey.compressed ++ Bytes.ofNat 4 axis.index.toNat) := by
  unfold childMessage
  rw [hnormal]
  rfl

theorem childMessage_of_hardened {key : PrivateKey} (hhardened : axis.hardened = true)
    (hkey : parent.privateKey = some key) :
    parent.childMessage axis = .ok (0 :: key.toBytes ++ Bytes.ofNat 4 axis.index.toNat) := by
  unfold childMessage
  rw [hhardened, hkey]
  rfl

theorem childMessage_of_closed (hhardened : axis.hardened = true)
    (hnone : parent.privateKey = none) :
    parent.childMessage axis = .error .privateKeyNeeded := by
  unfold childMessage
  rw [hhardened, hnone]
  rfl

/-- With its private half, a key has a message for every child. -/
theorem exists_childMessage {key : PrivateKey} (hkey : parent.privateKey = some key)
    (axis : Axis) : ∃ message, parent.childMessage axis = .ok message := by
  cases haxis : axis.hardened with
  | false =>
      exact ⟨_, childMessage_of_normal haxis⟩
  | true =>
      exact ⟨_, childMessage_of_hardened haxis hkey⟩

theorem derive_of_privateKey {key : PrivateKey} (hkey : parent.privateKey = some key)
    (hmessage : parent.childMessage axis = .ok message) :
    parent.derive axis = do
      let child ← liftTweak (parent.path.child axis) (key.tweak (parent.tweakOf message))
      return ⟨some child, ← liftKey child.publicKey, parent.chainCodeOf message,
        parent.path.child axis⟩ := by
  unfold derive
  rw [hmessage, ok_bind, hkey]
  rfl

theorem derive_of_publicKey (hnone : parent.privateKey = none)
    (hmessage : parent.childMessage axis = .ok message) :
    parent.derive axis = do
      return ⟨none, ← liftTweak (parent.path.child axis)
        (parent.publicKey.tweak (parent.tweakOf message)), parent.chainCodeOf message,
        parent.path.child axis⟩ := by
  unfold derive
  rw [hmessage, ok_bind, hnone]
  rfl

theorem derive_of_closed (hhardened : axis.hardened = true) (hnone : parent.privateKey = none) :
    parent.derive axis = .error .privateKeyNeeded := by
  unfold derive
  rw [childMessage_of_closed hhardened hnone]
  rfl

/-- Every step has one of the listed results. -/
theorem derive_outcome (parent : ExtendedKey) (axis : Axis) :
    Outcome parent axis (parent.derive axis) := by
  cases hkey : parent.privateKey with
  | some key =>
      obtain ⟨message, hmessage⟩ := exists_childMessage hkey axis
      rw [derive_of_privateKey hkey hmessage]
      cases htweak : key.tweak (parent.tweakOf message) with
      | error cause =>
          have hcause := PrivateKey.eq_tweak_of_tweak_eq_error htweak
          subst hcause
          exact .noPrivateChild hmessage hkey htweak
      | ok child =>
          obtain ⟨publicKey, hpublic⟩ := child.exists_publicKey
          change Outcome parent axis (liftKey child.publicKey >>= _)
          rw [hpublic]
          exact .privateChild hmessage hkey htweak hpublic
  | none =>
    cases haxis : axis.hardened with
    | true =>
        rw [derive_of_closed haxis hkey]
        exact .closed hkey haxis
    | false =>
        have hmessage : parent.childMessage axis = .ok _ := childMessage_of_normal haxis
        rw [derive_of_publicKey hkey hmessage]
        cases htweak : parent.publicKey.tweak (parent.tweakOf _) with
        | error cause =>
            have hcause := PublicKey.eq_tweak_of_tweak_eq_error htweak
            subst hcause
            exact .noPublicChild hmessage hkey htweak
        | ok publicKey =>
            exact .publicChild hmessage hkey htweak

/-! ### What a step keeps -/

theorem path_of_derive (h : parent.derive axis = .ok child) :
    child.path = parent.path.child axis := by
  have houtcome := derive_outcome parent axis
  rw [h] at houtcome
  cases houtcome <;> rfl

/-- A child has its private half just when its parent has. -/
theorem isPrivate_of_derive (h : parent.derive axis = .ok child) :
    child.isPrivate = parent.isPrivate := by
  have houtcome := derive_outcome parent axis
  rw [h] at houtcome
  unfold isPrivate
  cases houtcome with
  | privateChild _ hkey _ _ =>
      rw [hkey]
      rfl
  | publicChild _ hnone _ =>
      rw [hnone]

theorem isPrivate_eq_false_iff {key : ExtendedKey} :
    key.isPrivate = false ↔ key.privateKey = none := by
  rw [isPrivate, Option.isSome_eq_false_iff, Option.isNone_iff_eq_none]

/-- A step leads to no key, or is closed to a key without its private half. -/
theorem cause_of_derive {cause : DerivationError} (h : parent.derive axis = .error cause) :
    cause = .invalidKey (parent.path.child axis) ∨
      cause = .privateKeyNeeded ∧ parent.privateKey = none ∧ axis.hardened = true := by
  have houtcome := derive_outcome parent axis
  rw [h] at houtcome
  cases houtcome with
  | closed hnone hhardened =>
      exact .inr ⟨rfl, hnone, hhardened⟩
  | noPrivateChild _ _ _ =>
      exact .inl rfl
  | noPublicChild _ _ _ =>
      exact .inl rfl

/-- With its private half, a key fails to have a child in one way only. -/
theorem eq_invalidKey_of_derive {cause : DerivationError} (hprivate : parent.isPrivate = true)
    (h : parent.derive axis = .error cause) : cause = .invalidKey (parent.path.child axis) := by
  rcases cause_of_derive h with hcause | ⟨_, hnone, _⟩
  · exact hcause
  · rw [← isPrivate_eq_false_iff, hprivate] at hnone
    cases hnone

/-- The public half of a key belongs to its private half, if it has one. -/
def Matched (key : ExtendedKey) : Prop :=
  ∀ privateKey, key.privateKey = some privateKey → privateKey.publicKey = .ok key.publicKey

theorem Matched.derive (h : parent.derive axis = .ok child) : child.Matched := by
  have houtcome := derive_outcome parent axis
  rw [h] at houtcome
  intro privateKey hkey
  cases houtcome with
  | privateChild _ _ _ hpublic =>
      cases hkey
      exact hpublic
  | publicChild _ _ _ =>
      cases hkey

theorem Matched.neuter (key : ExtendedKey) : key.neuter.Matched := by
  intro privateKey hkey
  cases hkey

/-- Both halves of a key are its pair. -/
theorem Matched.keyPair {key : ExtendedKey} {privateKey : PrivateKey} (h : key.Matched)
    (hkey : key.privateKey = some privateKey) : key.keyPair = .ok ⟨privateKey, key.publicKey⟩ := by
  rw [ExtendedKey.keyPair, hkey]
  show liftKey privateKey.pair = _
  rw [PrivateKey.pair, h privateKey hkey]
  rfl

/-- The master key of a seed has both halves, and stands at the root. -/
theorem exists_of_ofSeed {seed : Bytes} {key : ExtendedKey} (h : ofSeed seed = .ok key) :
    ∃ privateKey publicKey, privateKey.publicKey = .ok publicKey ∧
      key =
        ⟨some privateKey, publicKey, (hmacSha512 seedKey seed).drop chainCodeLength, .root⟩ := by
  unfold ExtendedKey.ofSeed at h
  split at h
  · dsimp only at h
    split at h
    · cases h
    · next privateKey _ =>
      obtain ⟨publicKey, hpublic⟩ := privateKey.exists_publicKey
      rw [hpublic] at h
      cases h
      exact ⟨privateKey, publicKey, hpublic, rfl⟩
  · cases h

theorem Matched.ofSeed {seed : Bytes} {key : ExtendedKey} (h : ofSeed seed = .ok key) :
    key.Matched := by
  obtain ⟨privateKey, publicKey, hpublic, rfl⟩ := exists_of_ofSeed h
  intro _ hkey
  cases hkey
  exact hpublic

/-- A seed of a good length fails to have a master key in one way only. -/
theorem eq_invalidKey_of_ofSeed {seed : Bytes} {cause : DerivationError}
    (hlength : minSeedLength ≤ seed.length ∧ seed.length ≤ maxSeedLength)
    (h : ofSeed seed = .error cause) : cause = .invalidKey .root := by
  unfold ExtendedKey.ofSeed at h
  rw [if_pos hlength] at h
  dsimp only at h
  split at h
  · cases h
    rfl
  · next privateKey _ =>
    obtain ⟨publicKey, hpublic⟩ := privateKey.exists_publicKey
    rw [hpublic] at h
    cases h

end

/-- A seed of a good length has a master key if its keyed hash starts with a private key. -/
theorem ofSeed_eq_ok {seed : Bytes} {privateKey : PrivateKey} {publicKey : PublicKey}
    (hlength : minSeedLength ≤ seed.length ∧ seed.length ≤ maxSeedLength)
    (hkey : PrivateKey.ofBytes? ((hmacSha512 seedKey seed).take chainCodeLength) =
      some privateKey)
    (hpublic : privateKey.publicKey = .ok publicKey) :
    ofSeed seed = .ok
      ⟨some privateKey, publicKey, (hmacSha512 seedKey seed).drop chainCodeLength, .root⟩ := by
  have hbytes : PrivateKey.ofBytes ((hmacSha512 seedKey seed).take chainCodeLength) =
      .ok privateKey := by
    rw [PrivateKey.ofBytes, hkey]
  unfold ofSeed
  rw [if_pos hlength]
  dsimp only
  rw [hbytes]
  dsimp only
  rw [hpublic]
  rfl

/-- Sixteen zeros are a seed with a master key. -/
theorem exists_ofSeed_zeros :
    ∃ key, ofSeed (List.replicate 16 0) = .ok key ∧ key.isPrivate = true := by
  have hsome : (PrivateKey.ofBytes? ((hmacSha512 seedKey (List.replicate 16 0)).take
      chainCodeLength)).isSome = true := by
    decide +kernel
  obtain ⟨privateKey, hkey⟩ := Option.isSome_iff_exists.mp hsome
  obtain ⟨publicKey, hpublic⟩ := privateKey.exists_publicKey
  exact ⟨_, ofSeed_eq_ok (by decide) hkey hpublic, rfl⟩

/-! ### Runs -/

theorem deriveSteps_append (key : ExtendedKey) (axes rest : List Axis) :
    key.deriveSteps (axes ++ rest) =
      key.deriveSteps axes >>= fun child => child.deriveSteps rest := by
  induction axes generalizing key with
  | nil =>
      rfl
  | cons axis axes ih =>
      rw [List.cons_append, deriveSteps, deriveSteps]
      cases key.derive axis with
      | error cause =>
          rfl
      | ok child =>
          exact ih child

section
variable {key child : ExtendedKey} {axes : List Axis}

/-- A run of at least one step goes through a child. -/
theorem exists_of_deriveSteps_cons {axis : Axis} (h : key.deriveSteps (axis :: axes) = .ok child) :
    ∃ next, key.derive axis = .ok next ∧ next.deriveSteps axes = .ok child :=
  bind_eq_ok_iff.mp h

theorem path_of_deriveSteps (h : key.deriveSteps axes = .ok child) :
    child.path = ⟨key.path.axes ++ axes⟩ := by
  induction axes generalizing key with
  | nil =>
      cases h
      rw [List.append_nil]
  | cons axis axes ih =>
      obtain ⟨next, hstep, hrest⟩ := exists_of_deriveSteps_cons h
      rw [ih hrest, path_of_derive hstep, Path.child, List.append_assoc, List.singleton_append]

/-- What every step keeps, a run keeps. -/
theorem keeps_of_deriveSteps {P : ExtendedKey → Prop}
    (hstep : ∀ {parent child axis}, P parent → parent.derive axis = .ok child → P child)
    (hkey : P key) (h : key.deriveSteps axes = .ok child) : P child := by
  induction axes generalizing key with
  | nil =>
      cases h
      exact hkey
  | cons axis axes ih =>
      obtain ⟨next, hnext, hrest⟩ := exists_of_deriveSteps_cons h
      exact ih (hstep hkey hnext) hrest

theorem isPrivate_of_deriveSteps (h : key.deriveSteps axes = .ok child) :
    child.isPrivate = key.isPrivate :=
  keeps_of_deriveSteps (P := fun later => later.isPrivate = key.isPrivate)
    (fun hparent hstep => (isPrivate_of_derive hstep).trans hparent) rfl h

theorem Matched.deriveSteps (hmatched : key.Matched) (h : key.deriveSteps axes = .ok child) :
    child.Matched :=
  keeps_of_deriveSteps (fun _ hstep => Matched.derive hstep) hmatched h

/-- A run stops at the first step that fails, with its fault. -/
theorem exists_step_of_deriveSteps_error {cause : DerivationError}
    (h : key.deriveSteps axes = .error cause) :
    ∃ before axis after parent, axes = before ++ axis :: after ∧
      key.deriveSteps before = .ok parent ∧ parent.derive axis = .error cause := by
  induction axes generalizing key with
  | nil =>
      cases h
  | cons axis axes ih =>
      rw [deriveSteps] at h
      cases hstep : key.derive axis with
      | error cause' =>
          rw [hstep] at h
          cases h
          exact ⟨[], axis, axes, key, rfl, rfl, hstep⟩
      | ok next =>
          rw [hstep] at h
          obtain ⟨before, last, after, parent, haxes, hbefore, hlast⟩ := ih h
          refine ⟨axis :: before, last, after, parent, ?_, ?_, hlast⟩
          · rw [haxes, List.cons_append]
          · rw [deriveSteps, hstep]
            exact hbefore

/-- A run from a private key stops where the first step leads to no key. -/
theorem exists_of_deriveSteps_error {cause : DerivationError} (hprivate : key.isPrivate = true)
    (h : key.deriveSteps axes = .error cause) :
    ∃ before axis after parent, axes = before ++ axis :: after ∧
      key.deriveSteps before = .ok parent ∧
      cause = .invalidKey ⟨key.path.axes ++ before ++ [axis]⟩ := by
  obtain ⟨before, axis, after, parent, haxes, hbefore, hstep⟩ :=
    exists_step_of_deriveSteps_error h
  have hparent : parent.isPrivate = true := by
    rw [isPrivate_of_deriveSteps hbefore]
    exact hprivate
  refine ⟨before, axis, after, parent, haxes, hbefore, ?_⟩
  rw [eq_invalidKey_of_derive hparent hstep, path_of_deriveSteps hbefore, Path.child]

end

/-! ### Reachable keys -/

/-- The keys that derivation and forgetting make from a seed. -/
inductive Reachable : ExtendedKey → Prop
  | ofSeed {seed : Bytes} {key : ExtendedKey} (h : ofSeed seed = .ok key) : Reachable key
  | derive {parent child : ExtendedKey} {axis : Axis} (hparent : Reachable parent)
      (h : parent.derive axis = .ok child) : Reachable child
  | derivePath {parent child : ExtendedKey} {path : Path} (hparent : Reachable parent)
      (h : parent.derivePath path = .ok child) : Reachable child
  | neuter {key : ExtendedKey} (hkey : Reachable key) : Reachable key.neuter

/-- What master keys have, and what steps and forgetting keep, every reachable key has. -/
theorem Reachable.keeps {P : ExtendedKey → Prop}
    (hseed : ∀ {seed key}, ExtendedKey.ofSeed seed = .ok key → P key)
    (hstep : ∀ {parent child axis}, P parent → parent.derive axis = .ok child → P child)
    (hneuter : ∀ {key : ExtendedKey}, P key → P key.neuter) {key : ExtendedKey}
    (h : Reachable key) : P key := by
  induction h with
  | ofSeed h =>
      exact hseed h
  | derive _ h ih =>
      exact hstep ih h
  | derivePath _ h ih =>
      exact keeps_of_deriveSteps hstep ih h
  | neuter _ ih =>
      exact hneuter ih

theorem Reachable.matched {key : ExtendedKey} (h : Reachable key) : key.Matched :=
  h.keeps Matched.ofSeed (fun _ hstep => Matched.derive hstep) fun _ => Matched.neuter _

end ExtendedKey
end DidKeys
