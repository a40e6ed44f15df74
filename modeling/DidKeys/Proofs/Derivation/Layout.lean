import DidKeys.Derivation.Layout
import DidKeys.Proofs.Derivation.Reachable

/-! # Keys at their places in the layout

A place in the layout is a path exactly if its numbers are small enough (`keyPath_of_lt`,
`keyPath_of_le`).  Whatever path leads to a key from a seed, the key has a pair, and its halves
belong together (`exists_privateKey_of_deriveKey`), so a place in the layout has no pair only where
its path has no key (`keyPairAt_eq_error_iff`). -/

namespace DidKeys

/-! ### Places -/

section place
variable {number didIndex keyIndex : Nat} {role : KeyRole}

theorem Axis.ofNumber_of_lt (h : number < hardenedBit) (hardened : Bool) :
    ofNumber number hardened = .ok ⟨number, hardened, h⟩ := by
  rw [ofNumber, ofNumber?, dif_pos h]

theorem Axis.ofNumber_of_le (h : hardenedBit ≤ number) (hardened : Bool) :
    ofNumber number hardened = .error (.axisOutOfRange number) := by
  rw [ofNumber, ofNumber?, dif_neg (Nat.not_lt.mpr h)]

theorem keyPath_of_lt (hdid : didIndex < Axis.hardenedBit) (role : KeyRole)
    (hkey : keyIndex < Axis.hardenedBit) :
    keyPath didIndex role keyIndex =
      .ok ⟨[⟨didIndex, true, hdid⟩, ⟨role.number, true, role.number_lt⟩,
        ⟨keyIndex, true, hkey⟩]⟩ := by
  rw [keyPath, Axis.ofNumber_of_lt hdid, Axis.ofNumber_of_lt hkey]
  rfl

theorem keyPath_of_le (hdid : Axis.hardenedBit ≤ didIndex) :
    keyPath didIndex role keyIndex = .error (.axisOutOfRange didIndex) := by
  rw [keyPath, Axis.ofNumber_of_le hdid]
  rfl

end place

/-! ### Keys at the end of a path -/

section path
variable {seed : Bytes} {path : Path}

theorem deriveKey_eq_ok_iff {key : ExtendedKey} :
    deriveKey seed path = .ok key ↔
      ∃ master, ExtendedKey.ofSeed seed = .ok master ∧ master.deriveSteps path.axes = .ok key :=
  bind_eq_ok_iff

/-- A key knows the path that led to it. -/
theorem path_of_deriveKey {key : ExtendedKey} (h : deriveKey seed path = .ok key) :
    key.path = path := by
  obtain ⟨master, hmaster, hsteps⟩ := deriveKey_eq_ok_iff.mp h
  obtain ⟨_, _, _, rfl⟩ := ExtendedKey.exists_of_ofSeed hmaster
  exact ExtendedKey.path_of_deriveSteps hsteps

/-- A key that a seed leads to has both halves, and they belong together. -/
theorem exists_privateKey_of_deriveKey {key : ExtendedKey} (h : deriveKey seed path = .ok key) :
    ∃ privateKey : PrivateKey, key.keyPair = .ok ⟨privateKey, key.publicKey⟩ ∧
      privateKey.publicKey = .ok key.publicKey := by
  obtain ⟨master, hmaster, hsteps⟩ := deriveKey_eq_ok_iff.mp h
  have hmatched : key.Matched := (ExtendedKey.Matched.ofSeed hmaster).deriveSteps hsteps
  have hprivate : key.isPrivate = true := by
    obtain ⟨_, _, _, rfl⟩ := ExtendedKey.exists_of_ofSeed hmaster
    exact ExtendedKey.isPrivate_of_deriveSteps hsteps
  obtain ⟨privateKey, hkey⟩ := Option.isSome_iff_exists.mp hprivate
  exact ⟨privateKey, hmatched.keyPair hkey, hmatched privateKey hkey⟩

theorem exists_keyPair_of_deriveKey {key : ExtendedKey} (h : deriveKey seed path = .ok key) :
    ∃ pair, key.keyPair = .ok pair ∧ pair.privateKey.publicKey = .ok pair.publicKey := by
  obtain ⟨privateKey, hpair, hpublic⟩ := exists_privateKey_of_deriveKey h
  exact ⟨_, hpair, hpublic⟩

/-- From a seed of a good length, a path only fails where it leads to no key, and the fault names
the place. -/
theorem exists_place_of_deriveKey_error {fault : DerivationError}
    (hlength : ExtendedKey.minSeedLength ≤ seed.length ∧ seed.length ≤ ExtendedKey.maxSeedLength)
    (h : deriveKey seed path = .error fault) :
    ∃ before after, path.axes = before ++ after ∧ fault = .invalidKey ⟨before⟩ := by
  rcases bind_eq_error_iff.mp h with hmaster | ⟨master, hmaster, hsteps⟩
  · exact ⟨[], path.axes, rfl, ExtendedKey.eq_invalidKey_of_ofSeed hlength hmaster⟩
  · obtain ⟨_, _, _, rfl⟩ := ExtendedKey.exists_of_ofSeed hmaster
    obtain ⟨before, axis, after, _, haxes, _, hfault⟩ :=
      ExtendedKey.exists_of_deriveSteps_error rfl hsteps
    refine ⟨before ++ [axis], after, ?_, hfault⟩
    rw [haxes, List.append_assoc, List.singleton_append]

end path

/-! ### Pairs of the layout -/

section pair
variable {seed : Bytes} {path : Path} {didIndex keyIndex : Nat} {role : KeyRole}

theorem keyPairAt_of_le (h : Axis.hardenedBit ≤ didIndex) :
    keyPairAt seed didIndex role keyIndex = .error (.path (.axisOutOfRange didIndex)) := by
  rw [keyPairAt, keyPath_of_le h]
  rfl

theorem keyPairAt_of_keyPath (h : keyPath didIndex role keyIndex = .ok path) :
    keyPairAt seed didIndex role keyIndex =
      deriveKey seed path >>= fun key => key.keyPair := by
  rw [keyPairAt, h]
  rfl

theorem keyPairAt_eq_error_iff {fault : DerivationError}
    (h : keyPath didIndex role keyIndex = .ok path) :
    keyPairAt seed didIndex role keyIndex = .error fault ↔
      deriveKey seed path = .error fault := by
  rw [keyPairAt_of_keyPath h, bind_eq_error_iff]
  constructor
  · rintro (hderive | ⟨key, hderive, hpair⟩)
    · exact hderive
    · obtain ⟨pair, hkey, _⟩ := exists_keyPair_of_deriveKey hderive
      rw [hkey] at hpair
      cases hpair
  · intro hderive
    exact .inl hderive

theorem publicKey_of_keyPairAt {pair : KeyPair}
    (h : keyPairAt seed didIndex role keyIndex = .ok pair) :
    pair.privateKey.publicKey = .ok pair.publicKey := by
  obtain ⟨path, _, hrest⟩ := bind_eq_ok_iff.mp h
  obtain ⟨key, hderive, hpair⟩ := bind_eq_ok_iff.mp hrest
  obtain ⟨pair', hkey, hpublic⟩ := exists_keyPair_of_deriveKey hderive
  rw [hpair] at hkey
  cases hkey
  exact hpublic

end pair
end DidKeys
