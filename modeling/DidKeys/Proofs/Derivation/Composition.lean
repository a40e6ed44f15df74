import DidKeys.Proofs.Derivation.Reachable

/-! # Paths one behind another

Derivation along a path goes on from where the path in front of it ended, so a path can be cut
anywhere (`derivePath_append`), and a key below another one stands at the path of the upper key
followed by the steps in between (`path_of_derivePath`).

A step from a key has no child if the keyed hash is of no use (`Childless`), or if the step is
hardened and the private half is not there; `StepFault` has the fault of either.  A path fails with
the fault of the first step without a child, and what stands behind that step does not count
(`derivePath_eq_error_iff`). -/

namespace DidKeys

/-! ### Paths -/

/-- A path with the steps of another one behind its own. -/
def Path.append (path rest : Path) : Path := ⟨path.axes ++ rest.axes⟩

instance : Append Path := ⟨Path.append⟩

namespace Path
variable {path rest : Path} {axis : Axis}

theorem eq_of_axes (h : path.axes = rest.axes) : path = rest := by
  cases path
  cases rest
  exact congrArg mk h

@[simp] theorem axes_append : (path ++ rest).axes = path.axes ++ rest.axes := rfl

theorem axes_child_append : (path.child axis ++ rest).axes = path.axes ++ axis :: rest.axes := by
  rw [axes_append, child, List.append_assoc, List.singleton_append]

theorem append_child : path ++ rest.child axis = (path ++ rest).child axis := by
  apply eq_of_axes
  rw [axes_append, child, child, axes_append, List.append_assoc]

end Path

namespace ExtendedKey

/-! ### Steps without a child -/

/-- The keyed hash of a step leads to no key: its left half is not below the order of the group, or
so many times the generator and the public half add up to infinity. -/
def Childless (parent : ExtendedKey) (axis : Axis) : Prop :=
  ∃ message, parent.childMessage axis = .ok message ∧
    (groupOrder ≤ parent.tweakOf message ∨
      (Point.smul (parent.tweakOf message) .generator).add parent.publicKey.point = .infinity)

/-- Why a step from a key has no child, and the fault of it. -/
inductive StepFault (parent : ExtendedKey) (axis : Axis) : DerivationError → Prop
  | childless (h : parent.Childless axis) :
      StepFault parent axis (.invalidKey (parent.path.child axis))
  | closed (hnone : parent.privateKey = none) (hhardened : axis.hardened = true) :
      StepFault parent axis .privateKeyNeeded

section step
variable {parent : ExtendedKey} {axis : Axis} {cause : DerivationError}

/-- A key with matching halves has no child where its step has a fault, and nowhere else. -/
theorem derive_eq_error_iff (hmatched : parent.Matched) :
    parent.derive axis = .error cause ↔ StepFault parent axis cause := by
  have houtcome := derive_outcome parent axis
  constructor
  · intro h
    rw [h] at houtcome
    cases houtcome with
    | closed hnone hhardened =>
        exact .closed hnone hhardened
    | noPrivateChild hmessage hkey htweak =>
        rw [PrivateKey.tweak_eq_error_iff (hmatched _ hkey)] at htweak
        exact .childless ⟨_, hmessage, PublicKey.tweak_eq_error_iff.mp htweak⟩
    | noPublicChild hmessage _ htweak =>
        exact .childless ⟨_, hmessage, PublicKey.tweak_eq_error_iff.mp htweak⟩
  · rintro (⟨message, hmessage, hsum⟩ | ⟨hnone, hhardened⟩)
    · have htweak := PublicKey.tweak_eq_error_iff.mpr hsum
      cases hkey : parent.privateKey with
      | none =>
          rw [derive_of_publicKey hkey hmessage, htweak]
          rfl
      | some key =>
          rw [← PrivateKey.tweak_eq_error_iff (hmatched _ hkey)] at htweak
          rw [derive_of_privateKey hkey hmessage, htweak]
          rfl
    · exact derive_of_closed hhardened hnone

end step

/-! ### Runs -/

section run
variable {key child parent : ExtendedKey} {path rest before after : Path} {axis : Axis}
  {cause : DerivationError}

theorem derivePath_append (key : ExtendedKey) (path rest : Path) :
    key.derivePath (path ++ rest) =
      key.derivePath path >>= fun child => child.derivePath rest :=
  deriveSteps_append key path.axes rest.axes

theorem path_of_derivePath (h : key.derivePath path = .ok child) :
    child.path = key.path ++ path :=
  path_of_deriveSteps h

theorem Matched.derivePath (hmatched : key.Matched) (h : key.derivePath path = .ok child) :
    child.Matched :=
  hmatched.deriveSteps h

/-- A step without a child ends every path that goes through it. -/
theorem derivePath_of_stepFault (hmatched : key.Matched)
    (hbefore : key.derivePath before = .ok parent) (hfault : StepFault parent axis cause)
    (after : Path) :
    key.derivePath (before.child axis ++ after) = .error cause := by
  have hstep := (derive_eq_error_iff (hmatched.derivePath hbefore)).mpr hfault
  rw [ExtendedKey.derivePath, Path.axes_child_append, deriveSteps_append]
  change key.derivePath before >>= _ = _
  rw [hbefore, ok_bind, deriveSteps, hstep]
  rfl

/-- A path fails at its first step without a child. -/
theorem derivePath_eq_error_iff (hmatched : key.Matched) :
    key.derivePath path = .error cause ↔
      ∃ before axis after parent, path = before.child axis ++ after ∧
        key.derivePath before = .ok parent ∧ StepFault parent axis cause := by
  constructor
  · intro h
    obtain ⟨before, axis, after, parent, haxes, hbefore, hstep⟩ :=
      exists_step_of_deriveSteps_error h
    have hparent : parent.Matched := hmatched.deriveSteps hbefore
    refine ⟨⟨before⟩, axis, ⟨after⟩, parent, ?_, hbefore, (derive_eq_error_iff hparent).mp hstep⟩
    apply Path.eq_of_axes
    rw [Path.axes_child_append]
    exact haxes
  · rintro ⟨before, axis, after, parent, rfl, hbefore, hfault⟩
    exact derivePath_of_stepFault hmatched hbefore hfault after

/-- A step without a key to lead to is reported by its place below the master key. -/
theorem derivePath_of_childless (hmatched : key.Matched)
    (hbefore : key.derivePath before = .ok parent) (hchildless : parent.Childless axis)
    (after : Path) :
    key.derivePath (before.child axis ++ after) =
      .error (.invalidKey (key.path ++ before.child axis)) := by
  rw [derivePath_of_stepFault hmatched hbefore (.childless hchildless) after,
    path_of_derivePath hbefore, Path.append_child]

end run

/-- The master key of a seed, a path and the rest of it. -/
theorem deriveKey_append (seed : Bytes) (path rest : Path) :
    deriveKey seed (path ++ rest) =
      deriveKey seed path >>= fun key => key.derivePath rest := by
  unfold deriveKey
  rw [bind_assoc]
  exact bind_congr fun master => derivePath_append master path rest

/-! ### Composition -/

/-- From a reached key, a path in two parts leads to what its second part leads to from the end of
the first one, with the same fault if there is one, and the end of a path stands at the path of the
key followed by it.  A path fails exactly at the first step that has no child, with the fault of
that step, whatever stands behind it; where the step leads to no key, the fault names its place
below the master key.  So a path from a seed can be cut anywhere. -/
theorem derivePath_composes :
    (∀ key, Reachable key →
      (∀ path rest : Path,
        key.derivePath (path ++ rest) =
          key.derivePath path >>= fun child => child.derivePath rest) ∧
      (∀ path child, key.derivePath path = .ok child → child.path = key.path ++ path) ∧
      (∀ path cause, key.derivePath path = .error cause ↔
        ∃ before axis after parent, path = before.child axis ++ after ∧
          key.derivePath before = .ok parent ∧ StepFault parent axis cause) ∧
      ∀ before parent, key.derivePath before = .ok parent → ∀ axis (after : Path),
        (∀ cause, StepFault parent axis cause →
          key.derivePath (before.child axis ++ after) = .error cause) ∧
        (parent.Childless axis → ∃ cause,
          key.derivePath (before.child axis ++ after) = .error cause ∧
          cause = .invalidKey (key.path ++ before.child axis) ∧
          cause.message =
            "derived key at " ++ (key.path ++ before.child axis).text ++ " is invalid")) ∧
    ∀ (seed : Bytes) (path rest : Path),
      deriveKey seed (path ++ rest) =
        deriveKey seed path >>= fun key => key.derivePath rest := by
  refine ⟨fun key hreachable => ⟨derivePath_append key, fun _ _ => path_of_derivePath,
    fun _ _ => derivePath_eq_error_iff hreachable.matched, ?_⟩, deriveKey_append⟩
  intro before parent hbefore axis after
  constructor
  · intro cause hfault
    exact derivePath_of_stepFault hreachable.matched hbefore hfault after
  · intro hchildless
    exact ⟨_, derivePath_of_childless hreachable.matched hbefore hchildless after, rfl, rfl⟩

/-- The path `m/1'/2` in two parts below the seed of sixteen zeros, and any path that starts with
`1'` below its public half. -/
theorem derivePath_composes_zeros :
    ∃ key, ofSeed (List.replicate 16 0) = .ok key ∧ Reachable key ∧ Reachable key.neuter ∧
      key.derivePath ⟨[⟨1, true, by decide⟩, ⟨2, false, by decide⟩]⟩ =
        (key.derivePath ⟨[⟨1, true, by decide⟩]⟩ >>= fun child =>
          child.derivePath ⟨[⟨2, false, by decide⟩]⟩) ∧
      ∀ after : Path, key.neuter.derivePath (Path.root.child ⟨1, true, by decide⟩ ++ after) =
        .error .privateKeyNeeded := by
  obtain ⟨key, hseed, _⟩ := exists_ofSeed_zeros
  have hkey : Reachable key := .ofSeed hseed
  obtain ⟨hcompose, _⟩ := derivePath_composes.1 key hkey
  obtain ⟨_, _, _, hfail⟩ := derivePath_composes.1 key.neuter (.neuter hkey)
  refine ⟨key, hseed, hkey, .neuter hkey, ?_, fun after => ?_⟩
  · exact hcompose ⟨[⟨1, true, by decide⟩]⟩ ⟨[⟨2, false, by decide⟩]⟩
  · exact (hfail .root key.neuter rfl ⟨1, true, by decide⟩ after).1 _ (.closed rfl rfl)

end ExtendedKey
end DidKeys
