import DidKeys.Proofs.Derivation.Reachable
import DidKeys.Proofs.Key.Encoding

/-! # Keys that derivation leads to are keys

Every key that is reached from a seed belongs to a private key, its owner, even where the private
half was forgotten (`Reachable.owned`): a tweak of a public key is the tweak of its owner.  So its
public half is a multiple of the generator and is taken by the reader of public keys, and its
private half, if it has one, is in range and taken by the reader of private keys.

Such a key fails to have a child in two ways only (`cause_of_derive`), a path below it at a step
that fails in one of these (`cause_of_derivePath`), and what was forgotten does not come back
(`Later.isPrivate_eq_false`).  `reachable_wellFormed` says all of this. -/

namespace DidKeys.ExtendedKey

/-! ### Owners -/

/-- Some private key has the public half of a key. -/
def Owned (key : ExtendedKey) : Prop := ∃ owner : PrivateKey, owner.publicKey = .ok key.publicKey

section owned
variable {key parent child : ExtendedKey} {axis : Axis}

theorem Owned.ofSeed {seed : Bytes} (h : ofSeed seed = .ok key) : key.Owned := by
  obtain ⟨privateKey, _, hpublic, rfl⟩ := exists_of_ofSeed h
  exact ⟨privateKey, hpublic⟩

/-- The owner of a public child is the tweaked owner of its parent. -/
theorem Owned.derive (howned : parent.Owned) (h : parent.derive axis = .ok child) :
    child.Owned := by
  have houtcome := derive_outcome parent axis
  rw [h] at houtcome
  cases houtcome with
  | privateChild _ _ _ hpublic =>
      exact ⟨_, hpublic⟩
  | publicChild _ _ htweak =>
      obtain ⟨owner, howner⟩ := howned
      rw [PublicKey.tweak_of_publicKey howner] at htweak
      obtain ⟨tweaked, _, hpublic⟩ := bind_eq_ok_iff.mp htweak
      exact ⟨tweaked, hpublic⟩

theorem Reachable.owned (h : Reachable key) : key.Owned := h.keeps Owned.ofSeed Owned.derive id

/-- The multiple of the generator that the public half of a key is. -/
theorem Owned.exists_multiple (h : key.Owned) :
    ∃ k, 1 ≤ k ∧ k ≤ groupOrder - 1 ∧ key.publicKey.point = Point.smul k .generator := by
  obtain ⟨owner, howner⟩ := h
  refine ⟨owner.scalar.val, owner.one_le_scalar, owner.scalar_le, ?_⟩
  rw [smul_generator]
  exact PrivateKey.publicKey_eq_ok_iff.mp howner

end owned

/-! ### Later keys -/

/-- The keys that derivation and forgetting make from a key. -/
inductive Later (key : ExtendedKey) : ExtendedKey → Prop
  | refl : Later key key
  | derive {parent child : ExtendedKey} {axis : Axis} (hparent : Later key parent)
      (h : parent.derive axis = .ok child) : Later key child
  | derivePath {parent child : ExtendedKey} {path : Path} (hparent : Later key parent)
      (h : parent.derivePath path = .ok child) : Later key child
  | neuter {child : ExtendedKey} (hchild : Later key child) : Later key child.neuter

/-- A private half that is not there does not come back. -/
theorem Later.isPrivate_eq_false {key later : ExtendedKey} (h : Later key later)
    (hkey : key.isPrivate = false) : later.isPrivate = false := by
  induction h with
  | refl => exact hkey
  | derive _ h ih => exact (isPrivate_of_derive h).trans ih
  | derivePath _ h ih => exact (isPrivate_of_deriveSteps h).trans ih
  | neuter _ _ => rfl

/-! ### Failures -/

section failure
variable {key : ExtendedKey} {cause : DerivationError}

/-- A path fails at a step that leads to no key, or at one that is closed. -/
theorem cause_of_derivePath {path : Path} (h : key.derivePath path = .error cause) :
    ∃ before axis after, path.axes = before ++ axis :: after ∧
      (cause = .invalidKey ⟨key.path.axes ++ before ++ [axis]⟩ ∨
        cause = .privateKeyNeeded ∧ key.privateKey = none ∧ axis.hardened = true) := by
  obtain ⟨before, axis, after, parent, haxes, hbefore, hstep⟩ :=
    exists_step_of_deriveSteps_error h
  refine ⟨before, axis, after, haxes, (cause_of_derive hstep).imp ?_ ?_⟩
  · intro hcause
    rw [hcause, path_of_deriveSteps hbefore, Path.child]
  · rintro ⟨hcause, hnone, hhardened⟩
    refine ⟨hcause, ?_, hhardened⟩
    rw [← isPrivate_eq_false_iff] at hnone ⊢
    rw [← isPrivate_of_deriveSteps hbefore]
    exact hnone

theorem ofSeed_of_length {seed : Bytes}
    (h : ¬(minSeedLength ≤ seed.length ∧ seed.length ≤ maxSeedLength)) :
    ofSeed seed = .error (.seedLength seed.length) := by
  rw [ofSeed, if_neg h]

end failure

/-! ### Both halves -/

/-- The public half of a reached key is a multiple of the generator other than zero, on the curve,
and read back from its bytes.  Its private half is in range and read back from its bytes, belongs to
the public half, and both are its pair; a key without a private half has no pair, and no later key
has one.  A step from it, or a path, fails only where it leads to no key, whose place the fault
names, or at a hardened step without a private half.  A seed fails for its length or at the root. -/
theorem reachable_wellFormed :
    (∀ key, Reachable key →
      (∃ k, 1 ≤ k ∧ k ≤ groupOrder - 1 ∧ key.publicKey.point = Point.smul k .generator) ∧
      OnCurve key.publicKey.x key.publicKey.y ∧
      PublicKey.ofEncoded key.publicKey.encoded = .ok key.publicKey ∧
      (∀ privateKey, key.privateKey = some privateKey →
        1 ≤ privateKey.scalar.val ∧ privateKey.scalar.val ≤ groupOrder - 1 ∧
        PrivateKey.ofBytes privateKey.toBytes = .ok privateKey ∧
        key.publicKey.point = Point.smul privateKey.scalar.val .generator ∧
        key.keyPair = .ok ⟨privateKey, key.publicKey⟩) ∧
      (key.privateKey = none → key.keyPair = .error .noPrivateKey ∧
        ∀ later, Later key later → later.privateKey = none) ∧
      (∀ axis ∈ key.path.axes, axis.number < 2 ^ 31) ∧
      (∀ axis cause, key.derive axis = .error cause →
        cause = .invalidKey (key.path.child axis) ∨
          cause = .privateKeyNeeded ∧ key.privateKey = none ∧ axis.hardened = true) ∧
      ∀ path cause, key.derivePath path = .error cause →
        ∃ before axis after, path.axes = before ++ axis :: after ∧
          (cause = .invalidKey ⟨key.path.axes ++ before ++ [axis]⟩ ∨
            cause = .privateKeyNeeded ∧ key.privateKey = none ∧ axis.hardened = true)) ∧
    (∀ seed : Bytes, ¬(16 ≤ seed.length ∧ seed.length ≤ 64) →
      ofSeed seed = .error (.seedLength seed.length)) ∧
    ∀ seed : Bytes, 16 ≤ seed.length ∧ seed.length ≤ 64 →
      ∀ cause, ofSeed seed = .error cause → cause = .invalidKey .root := by
  refine ⟨fun key hkey => ?_, fun seed => ofSeed_of_length,
    fun seed hlength cause => eq_invalidKey_of_ofSeed hlength⟩
  refine ⟨hkey.owned.exists_multiple, key.publicKey.on_curve,
    PublicKey.ofEncoded_eq_ok_iff.mpr .uncompressed, fun privateKey hprivate => ?_, fun hnone => ?_,
    fun axis _ => axis.number_lt, fun axis cause => cause_of_derive,
    fun path cause => cause_of_derivePath⟩
  · have hpoint := PrivateKey.publicKey_eq_ok_iff.mp (hkey.matched privateKey hprivate)
    rw [← smul_generator] at hpoint
    exact ⟨privateKey.one_le_scalar, privateKey.scalar_le, privateKey.ofBytes_toBytes, hpoint,
      hkey.matched.keyPair hprivate⟩
  · refine ⟨?_, fun later hlater => ?_⟩
    · rw [keyPair, hnone]
    · exact isPrivate_eq_false_iff.mp
        (hlater.isPrivate_eq_false (isPrivate_eq_false_iff.mpr hnone))

/-- The master key of sixteen zeros with and without its private half, and a seed that is too
short. -/
theorem reachable_wellFormed_zeros :
    ∃ key privateKey, ofSeed (List.replicate 16 0) = .ok key ∧ Reachable key ∧
      key.privateKey = some privateKey ∧ key.keyPair = .ok ⟨privateKey, key.publicKey⟩ ∧
      Reachable key.neuter ∧ key.neuter.keyPair = .error .noPrivateKey ∧
      (∃ k, 1 ≤ k ∧ k ≤ groupOrder - 1 ∧ key.neuter.publicKey.point = Point.smul k .generator) ∧
      key.neuter.derive ⟨0, true, by decide⟩ = .error .privateKeyNeeded ∧
      ofSeed (List.replicate 15 0) = .error (.seedLength 15) := by
  obtain ⟨key, hseed, hprivate⟩ := exists_ofSeed_zeros
  obtain ⟨privateKey, hkey⟩ := Option.isSome_iff_exists.mp hprivate
  have hreached : Reachable key := .ofSeed hseed
  obtain ⟨_, _, _, hpair, _⟩ := reachable_wellFormed.1 key hreached
  obtain ⟨hmultiple, _, _, _, hnone, _, _⟩ := reachable_wellFormed.1 key.neuter (.neuter hreached)
  exact ⟨key, privateKey, hseed, hreached, hkey, (hpair privateKey hkey).2.2.2.2,
    .neuter hreached, (hnone rfl).1, hmultiple, derive_of_closed rfl rfl,
    reachable_wellFormed.2.1 (List.replicate 15 0) (by decide)⟩

end DidKeys.ExtendedKey
