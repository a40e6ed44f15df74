import DidKeys.Proofs.Derivation.Reachable
import Mathlib.Data.List.TakeWhile

/-! # Watching a branch without its private keys

A key without its private half has the same normal descendants as with it.

* `derive_neuter_of_normal`: one step; the scalars are added on one side and the points on the
  other.
* `deriveSteps_neuter`: a run of normal steps, by induction on the steps.
* `derivePath_neuter`: every path of every reachable key, with the errors. -/

namespace DidKeys

/-- The steps of a path before its first hardened one. -/
def Path.normalPart (path : Path) : Path := ⟨path.axes.takeWhile fun axis => !axis.hardened⟩

namespace ExtendedKey

section
variable {key : ExtendedKey} {axis : Axis}

/-! ### Normal steps -/

/-- A normal step reads the public half only. -/
theorem childMessage_neuter_of_normal (hnormal : axis.hardened = false) :
    key.neuter.childMessage axis = key.childMessage axis := by
  rw [childMessage_of_normal hnormal, childMessage_of_normal hnormal]
  rfl

theorem derive_neuter_of_normal (hmatched : key.Matched) (hprivate : key.isPrivate = true)
    (hnormal : axis.hardened = false) :
    key.neuter.derive axis = (key.derive axis).map neuter := by
  obtain ⟨privateKey, hkey⟩ := Option.isSome_iff_exists.mp hprivate
  obtain ⟨message, hmessage⟩ := exists_childMessage hkey axis
  have hneuter : key.neuter.childMessage axis = .ok message := by
    rw [childMessage_neuter_of_normal hnormal]
    exact hmessage
  have htweaks := PublicKey.tweak_of_publicKey (hmatched privateKey hkey) (key.tweakOf message)
  have hleft : key.neuter.derive axis = do
      return ⟨none, ← liftTweak (key.path.child axis) (key.publicKey.tweak (key.tweakOf message)),
        key.chainCodeOf message, key.path.child axis⟩ := derive_of_publicKey rfl hneuter
  rw [hleft, derive_of_privateKey hkey hmessage, htweaks]
  cases htweak : privateKey.tweak (key.tweakOf message) with
  | error cause =>
      rw [PrivateKey.eq_tweak_of_tweak_eq_error htweak]
      rfl
  | ok child =>
      obtain ⟨publicKey, hpublic⟩ := child.exists_publicKey
      rw [ok_bind, hpublic]
      change _ = Except.map neuter (liftKey child.publicKey >>= _)
      rw [hpublic]
      rfl

theorem deriveSteps_neuter {axes : List Axis} (hmatched : key.Matched)
    (hprivate : key.isPrivate = true) (hnormal : ∀ axis ∈ axes, axis.hardened = false) :
    key.neuter.deriveSteps axes = (key.deriveSteps axes).map neuter := by
  induction axes generalizing key with
  | nil =>
      rfl
  | cons axis axes ih =>
      obtain ⟨hfirst, hrest⟩ := List.forall_mem_cons.mp hnormal
      rw [deriveSteps, deriveSteps, derive_neuter_of_normal hmatched hprivate hfirst]
      cases hstep : key.derive axis with
      | error cause =>
          rfl
      | ok child =>
          have hchild : child.isPrivate = true := by
            rw [isPrivate_of_derive hstep]
            exact hprivate
          exact ih (Matched.derive hstep) hchild hrest

/-! ### Hardened steps -/

theorem exists_normalPart_append {path : Path} (h : ∃ axis ∈ path.axes, axis.hardened = true) :
    ∃ axis after, path.axes = path.normalPart.axes ++ axis :: after ∧ axis.hardened = true := by
  have hsplit := List.takeWhile_append_dropWhile (p := fun axis => !axis.hardened) (l := path.axes)
  have hhead := List.head?_dropWhile_not (fun axis : Axis => !axis.hardened) path.axes
  cases hdrop : path.axes.dropWhile fun axis => !axis.hardened with
  | nil =>
      obtain ⟨axis, hmem, haxis⟩ := h
      have hnormal := List.dropWhile_eq_nil_iff.mp hdrop axis hmem
      rw [haxis] at hnormal
      cases hnormal
  | cons axis after =>
      rw [hdrop] at hsplit hhead
      refine ⟨axis, after, hsplit.symm, ?_⟩
      simpa using hhead

/-- A key without its private half gets as far as the first hardened step. -/
theorem derivePath_of_closed {path : Path} (hclosed : key.isPrivate = false)
    (hhardened : ∃ axis ∈ path.axes, axis.hardened = true) :
    key.derivePath path =
      key.derivePath path.normalPart >>= fun _ => .error .privateKeyNeeded := by
  obtain ⟨axis, after, haxes, haxis⟩ := exists_normalPart_append hhardened
  have hsplit : key.derivePath path =
      key.derivePath path.normalPart >>= fun child => child.deriveSteps (axis :: after) := by
    rw [derivePath, haxes, deriveSteps_append, derivePath]
  rw [hsplit]
  cases hprefix : key.derivePath path.normalPart with
  | error cause =>
      rfl
  | ok child =>
      have hnone : child.privateKey = none := by
        rw [← isPrivate_eq_false_iff, isPrivate_of_deriveSteps hprefix]
        exact hclosed
      rw [ok_bind, ok_bind, deriveSteps, derive_of_closed haxis hnone]
      rfl

end

/-! ### Paths -/

/-- Derivation from the public half of a reachable key, against derivation from the key itself. -/
theorem derivePath_neuter {key : ExtendedKey} (hreachable : Reachable key)
    (hprivate : key.isPrivate = true) (path : Path) :
    ((∀ axis ∈ path.axes, axis.hardened = false) →
      key.neuter.derivePath path = (key.derivePath path).map neuter ∧
      ∀ cause, key.derivePath path = .error cause →
        ∃ before axis after parent, path.axes = before ++ axis :: after ∧
          key.derivePath ⟨before⟩ = .ok parent ∧
          cause = .invalidKey ⟨key.path.axes ++ before ++ [axis]⟩) ∧
    ((∃ axis ∈ path.axes, axis.hardened = true) →
      key.neuter.derivePath path =
        match key.neuter.derivePath path.normalPart with
        | .ok _ => .error .privateKeyNeeded
        | .error cause => .error cause) := by
  constructor
  · intro hnormal
    refine ⟨deriveSteps_neuter hreachable.matched hprivate hnormal, ?_⟩
    intro cause hcause
    exact exists_of_deriveSteps_error hprivate hcause
  · intro hhardened
    have hclosed : key.neuter.isPrivate = false := rfl
    rw [derivePath_of_closed hclosed hhardened]
    cases key.neuter.derivePath path.normalPart with
    | error cause =>
        rfl
    | ok child =>
        rfl

/-- The paths `m/0/1` and `m/0/1'/2` below the seed of sixteen zeros. -/
theorem derivePath_neuter_zeros :
    ∃ key, ofSeed (List.replicate 16 0) = .ok key ∧ key.isPrivate = true ∧
      key.neuter.derivePath ⟨[⟨0, false, by decide⟩, ⟨1, false, by decide⟩]⟩ =
        (key.derivePath ⟨[⟨0, false, by decide⟩, ⟨1, false, by decide⟩]⟩).map neuter ∧
      key.neuter.derivePath
          ⟨[⟨0, false, by decide⟩, ⟨1, true, by decide⟩, ⟨2, false, by decide⟩]⟩ =
        match key.neuter.derivePath ⟨[⟨0, false, by decide⟩]⟩ with
        | .ok _ => .error .privateKeyNeeded
        | .error cause => .error cause := by
  obtain ⟨key, hseed, hprivate⟩ := exists_ofSeed_zeros
  refine ⟨key, hseed, hprivate, ?_, ?_⟩
  · exact ((derivePath_neuter (.ofSeed hseed) hprivate _).1 (by decide)).1
  · have hpart : Path.normalPart
        ⟨[⟨0, false, by decide⟩, ⟨1, true, by decide⟩, ⟨2, false, by decide⟩]⟩ =
          ⟨[⟨0, false, by decide⟩]⟩ := rfl
    rw [← hpart]
    exact (derivePath_neuter (.ofSeed hseed) hprivate _).2 (by decide)

end ExtendedKey
end DidKeys
