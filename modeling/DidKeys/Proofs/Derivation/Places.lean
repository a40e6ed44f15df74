import DidKeys.Proofs.Derivation.Layout
import DidKeys.Proofs.Derivation.PathGrammar
import DidKeys.Proofs.Derivation.WellFormed
import DidKeys.Proofs.Readings

/-! # Two ways to a place in the layout

Numbers lead to a path of hardened steps in two ways: the steps are made from them
(`Path.ofHardened`), or a text spells them and is read (`Path.hardenedText`).  Both give the same
path, or report the first number that is no number of a step (`Path.parse_hardenedText`,
`Path.ofHardened_eq_error_iff`).  A path has the numbers that it was made from
(`Path.numbers_of_ofHardened`).

The path of a key in the layout is that of three such numbers, so the pair at a place is the pair at
the end of the path that is read from the text of the place, and no two places overlap
(`keyPairAt_two_routes`). -/

namespace DidKeys

/-! ### Hardened steps from numbers -/

namespace Path
variable {numbers : List Nat} {path : Path}

/-- The hardened steps with given numbers, as a path. -/
def ofHardened (numbers : List Nat) : Except PathError Path := do
  return ⟨← numbers.mapM fun number => Axis.ofNumber number true⟩

/-- A number as a text spells it in a hardened step, be it that of a step or not. -/
def Segment.hardened (number : Nat) : Segment where
  digits := Decimal.digits number
  marked := true
  digits_ne_nil := Decimal.digits_ne_nil number
  isDigit_of_mem _ := Decimal.isDigit_of_mem_digits

/-- The text of hardened steps with given numbers, be they those of steps or not. -/
def hardenedText (numbers : List Nat) : String :=
  String.ofList (spell (numbers.map Segment.hardened))

theorem Segment.value_hardened (number : Nat) : (hardened number).value = number :=
  Decimal.value_digits number

theorem split_hardenedText (numbers : List Nat) :
    Text.split '/' (hardenedText numbers).toList =
      ['m'] :: (numbers.map Segment.hardened).map Segment.chars := by
  rw [hardenedText, String.toList_ofList, split_spell]

/-- A number that fits in 64 bits is reported as it is. -/
theorem readSegment_hardened (whole : String) {number : Nat} (h : number < 2 ^ 64) :
    readSegment whole (Segment.hardened number).chars = Axis.ofNumber number true := by
  have hvalue := Segment.value_hardened number
  rcases Nat.lt_or_ge number Axis.hardenedBit with hlt | hle
  · have hsmall : (Segment.hardened number).value < 2 ^ 31 := by
      rw [hvalue]
      exact hlt
    rw [readSegment_of_lt hsmall, Axis.ofNumber_of_lt hlt, Except.ok.injEq, eq_comm,
      Segment.eq_axis_iff]
    exact ⟨hvalue.symm, rfl⟩
  · have hlarge : 2 ^ 31 ≤ (Segment.hardened number).value := by
      rw [hvalue]
      exact hle
    rw [readSegment_of_le hlarge, Axis.ofNumber_of_le hle, hvalue,
      Nat.min_eq_left (Nat.le_sub_one_of_lt h)]

theorem readSegments_hardened (whole : String) (h : ∀ number ∈ numbers, number < 2 ^ 64) :
    readSegments whole ((numbers.map Segment.hardened).map Segment.chars) =
      numbers.mapM fun number => Axis.ofNumber number true := by
  induction numbers with
  | nil => rfl
  | cons number numbers ih =>
      obtain ⟨hfirst, hrest⟩ := List.forall_mem_cons.mp h
      rw [List.map_cons, List.map_cons, readSegments, readSegment_hardened whole hfirst, ih hrest,
        List.mapM_cons]

/-- A text that spells numbers is read as the steps with these numbers, or has their fault. -/
theorem parse_hardenedText (h : ∀ number ∈ numbers, number < 2 ^ 64) :
    parse (hardenedText numbers) = ofHardened numbers := by
  rw [parse_of_split (split_hardenedText numbers), readSegments_hardened _ h]
  rfl

/-! ### What the numbers and the text decide -/

theorem text_injective : Function.Injective text := by
  intro path other h
  have hparse := parse_text path
  rw [h, parse_text other] at hparse
  exact (Except.ok.inj hparse).symm

theorem numbers_of_ofHardened (h : ofHardened numbers = .ok path) :
    numbers = path.axes.map Axis.number := by
  obtain ⟨axes, haxes, hpath⟩ := bind_eq_ok_iff.mp h
  cases hpath
  have hall : List.Forall₂ (fun number (axis : Axis) => number = axis.number) numbers axes :=
    (mapM_eq_ok_iff.mp haxes).imp fun _ _ hstep => (Axis.number_of_ofNumber hstep).1.symm
  rw [← List.forall₂_map_right_iff, List.forall₂_eq_eq_eq] at hall
  exact hall

/-- The fault is the first number that is too large. -/
theorem ofHardened_eq_error_iff {fault : PathError} :
    ofHardened numbers = .error fault ↔
      ∃ number, numbers.find? (Axis.hardenedBit ≤ ·) = some number ∧
        fault = .axisOutOfRange number := by
  unfold ofHardened
  rw [bind_pure_eq_error_iff]
  induction numbers with
  | nil =>
      refine iff_of_false (fun h => nomatch h) ?_
      rintro ⟨_, h, _⟩
      cases h
  | cons number numbers ih =>
      rw [List.mapM_cons]
      rcases Nat.lt_or_ge number Axis.hardenedBit with hlt | hle
      · rw [List.find?_cons_of_neg (by simpa using hlt), Axis.ofNumber_of_lt hlt, ok_bind,
          bind_pure_eq_error_iff]
        exact ih
      · rw [List.find?_cons_of_pos (by simpa using hle), Axis.ofNumber_of_le hle]
        constructor
        · intro h
          cases h
          exact ⟨number, rfl, rfl⟩
        · rintro ⟨_, hfirst, rfl⟩
          cases hfirst
          rfl

end Path

/-! ### The layout -/

/-- The text of a place in the layout. -/
def placeText (didIndex : Nat) (role : KeyRole) (keyIndex : Nat) : String :=
  "m/" ++ Decimal.text didIndex ++ "'/" ++ Decimal.text role.number ++ "'/" ++
    Decimal.text keyIndex ++ "'"

theorem KeyRole.number_injective : Function.Injective number := by
  intro role other h
  cases role <;> cases other <;> first | rfl | cases h

section layout
variable {didIndex keyIndex : Nat} {role : KeyRole} {path : Path}

theorem keyPath_eq_ofHardened (didIndex : Nat) (role : KeyRole) (keyIndex : Nat) :
    keyPath didIndex role keyIndex = Path.ofHardened [didIndex, role.number, keyIndex] := by
  simp only [keyPath, Path.ofHardened, List.mapM_cons, List.mapM_nil,
    Axis.ofNumber_of_lt role.number_lt, bind_assoc, pure_bind, ok_bind]

theorem placeText_eq_hardenedText (didIndex : Nat) (role : KeyRole) (keyIndex : Nat) :
    placeText didIndex role keyIndex = Path.hardenedText [didIndex, role.number, keyIndex] := by
  apply String.toList_injective
  simp [placeText, Path.hardenedText, Path.spell, Path.Segment.chars, Path.Segment.hardened,
    Decimal.text]

/-- Reading the text of a place is making its path. -/
theorem parse_placeText (hdid : didIndex < 2 ^ 64) (role : KeyRole) (hkey : keyIndex < 2 ^ 64) :
    Path.parse (placeText didIndex role keyIndex) = keyPath didIndex role keyIndex := by
  have hrole : role.number < 2 ^ 64 := Nat.lt_trans role.number_lt (by decide)
  rw [placeText_eq_hardenedText, keyPath_eq_ofHardened]
  apply Path.parse_hardenedText
  exact List.forall_mem_cons.mpr
    ⟨hdid, List.forall_mem_cons.mpr ⟨hrole, List.forall_mem_singleton.mpr hkey⟩⟩

/-- The number of a role is never too large, so the fault is one of the other two numbers. -/
theorem keyPath_eq_error_iff {fault : PathError} :
    keyPath didIndex role keyIndex = .error fault ↔
      ∃ number, [didIndex, keyIndex].find? (Axis.hardenedBit ≤ ·) = some number ∧
        fault = .axisOutOfRange number := by
  have hrole : ¬Axis.hardenedBit ≤ role.number := Nat.not_le.mpr role.number_lt
  rw [keyPath_eq_ofHardened, Path.ofHardened_eq_error_iff]
  simp [List.find?_cons, hrole]

/-- Different numbers have different places. -/
theorem keyPath_inj {didIndex' keyIndex' : Nat} {role' : KeyRole}
    (h : keyPath didIndex role keyIndex = .ok path)
    (h' : keyPath didIndex' role' keyIndex' = .ok path) :
    didIndex = didIndex' ∧ role = role' ∧ keyIndex = keyIndex' := by
  rw [keyPath_eq_ofHardened] at h h'
  have hnumbers := (Path.numbers_of_ofHardened h).trans (Path.numbers_of_ofHardened h').symm
  simp only [List.cons.injEq, and_true] at hnumbers
  exact ⟨hnumbers.1, KeyRole.number_injective hnumbers.2.1, hnumbers.2.2⟩

end layout

/-! ### Pairs -/

section pair
variable {seed : Bytes} {didIndex keyIndex : Nat} {role : KeyRole} {path : Path}

theorem deriveKey_of_length
    (h : ¬(ExtendedKey.minSeedLength ≤ seed.length ∧ seed.length ≤ ExtendedKey.maxSeedLength))
    (path : Path) : deriveKey seed path = .error (.seedLength seed.length) := by
  rw [deriveKey, ExtendedKey.ofSeed_of_length h]
  rfl

/-- Derivation from a seed does not find fault with the path as such. -/
theorem deriveKey_ne_path (cause : PathError) : deriveKey seed path ≠ .error (.path cause) := by
  intro h
  by_cases hlength :
      ExtendedKey.minSeedLength ≤ seed.length ∧ seed.length ≤ ExtendedKey.maxSeedLength
  · obtain ⟨_, _, _, hfault⟩ := exists_place_of_deriveKey_error hlength h
    cases hfault
  · rw [deriveKey_of_length hlength] at h
    cases h

/-- A pair is refused for its numbers just when they are those of no place, whatever the seed. -/
theorem keyPairAt_eq_path_iff {cause : PathError} :
    keyPairAt seed didIndex role keyIndex = .error (.path cause) ↔
      keyPath didIndex role keyIndex = .error cause := by
  cases hpath : keyPath didIndex role keyIndex with
  | error fault =>
      rw [keyPairAt, hpath]
      show (.error (.path fault) : Except DerivationError KeyPair) = .error (.path cause) ↔ _
      rw [Except.error.injEq, Except.error.injEq, DerivationError.path.injEq]
  | ok path =>
      rw [keyPairAt_eq_error_iff hpath]
      refine iff_of_false (deriveKey_ne_path cause) ?_
      intro h
      cases h

end pair

/-- The pair at a place is the pair of the key that the path leads to which is read from the text of
the place, with the same fault if there is one.  The first number that is too large is reported,
before the length of the seed is looked at, and no other number is.  Small numbers have a place,
which is written as the text it is read from, and places of different numbers are different and have
different texts. -/
theorem keyPairAt_two_routes :
    (∀ (seed : Bytes) (didIndex keyIndex : UInt32) (role : KeyRole),
      keyPairAt seed didIndex.toNat role keyIndex.toNat =
        ((Path.parse (placeText didIndex.toNat role keyIndex.toNat)).mapError .path >>= fun path =>
          deriveKey seed path >>= fun key => key.keyPair)) ∧
    (∀ (seed : Bytes) (didIndex keyIndex : UInt32) (role : KeyRole) (number : Nat),
      keyPairAt seed didIndex.toNat role keyIndex.toNat =
          .error (.path (.axisOutOfRange number)) ↔
        [didIndex.toNat, keyIndex.toNat].find? (2 ^ 31 ≤ ·) = some number) ∧
    (∀ (didIndex keyIndex : UInt32) (role : KeyRole),
      didIndex.toNat < 2 ^ 31 → keyIndex.toNat < 2 ^ 31 →
        (∃ path, keyPath didIndex.toNat role keyIndex.toNat = .ok path ∧
          path.text = placeText didIndex.toNat role keyIndex.toNat ∧
          Path.parse path.text = .ok path) ∧
        ∀ seed : Bytes, ¬(16 ≤ seed.length ∧ seed.length ≤ 64) →
          keyPairAt seed didIndex.toNat role keyIndex.toNat =
            .error (.seedLength seed.length)) ∧
    ∀ (didIndex keyIndex didIndex' keyIndex' : UInt32) (role role' : KeyRole) (path path' : Path),
      keyPath didIndex.toNat role keyIndex.toNat = .ok path →
      keyPath didIndex'.toNat role' keyIndex'.toNat = .ok path' →
        (didIndex, role, keyIndex) ≠ (didIndex', role', keyIndex') →
          path ≠ path' ∧ path.text ≠ path'.text := by
  refine ⟨?routes, ?fault, ?small, ?apart⟩
  case routes =>
    intro seed didIndex keyIndex role
    have hdid : didIndex.toNat < 2 ^ 64 := Nat.lt_trans didIndex.toNat_lt (by decide)
    have hkey : keyIndex.toNat < 2 ^ 64 := Nat.lt_trans keyIndex.toNat_lt (by decide)
    rw [parse_placeText hdid role hkey]
    rfl
  case fault =>
    intro seed didIndex keyIndex role number
    rw [keyPairAt_eq_path_iff, keyPath_eq_error_iff]
    constructor
    · rintro ⟨first, hfirst, hnumber⟩
      cases hnumber
      exact hfirst
    · intro hfirst
      exact ⟨number, hfirst, rfl⟩
  case small =>
    intro didIndex keyIndex role hdid hkey
    have hpath := keyPath_of_lt hdid role hkey
    refine ⟨⟨_, hpath, text_of_keyPath hpath, Path.parse_text _⟩, fun seed hlength => ?_⟩
    rw [keyPairAt_eq_error_iff hpath]
    exact deriveKey_of_length hlength _
  case apart =>
    intro didIndex keyIndex didIndex' keyIndex' role role' path path' h h' hne
    have hpath : path ≠ path' := by
      rintro rfl
      obtain ⟨hdid, rfl, hkey⟩ := keyPath_inj h h'
      apply hne
      rw [UInt32.toNat_inj.mp hdid, UInt32.toNat_inj.mp hkey]
    exact ⟨hpath, fun htext => hpath (Path.text_injective htext)⟩

/-- The pair of the second key to issue with of the first identifier, numbers that are too large
beside a seed that is too short, and two places with the same numbers in another order. -/
theorem keyPairAt_two_routes_issuing :
    keyPairAt (List.replicate 64 0x5a) 1 .issuing 2 =
      ((Path.parse "m/1'/1'/2'").mapError .path >>= fun path =>
        deriveKey (List.replicate 64 0x5a) path >>= fun key => key.keyPair) ∧
    keyPairAt [] 2147483648 .issuing 4294967295 = .error (.path (.axisOutOfRange 2147483648)) ∧
    keyPairAt [] 1 .issuing 4294967295 = .error (.path (.axisOutOfRange 4294967295)) ∧
    keyPairAt [] 1 .issuing 2 = .error (.seedLength 0) ∧
    ∃ path path', keyPath 1 .issuing 2 = .ok path ∧ keyPath 2 .issuing 1 = .ok path' ∧
      path ≠ path' ∧ path.text ≠ path'.text := by
  obtain ⟨hroutes, hfault, hsmall, hapart⟩ := keyPairAt_two_routes
  have htext : placeText 1 .issuing 2 = "m/1'/1'/2'" := by decide +kernel
  refine ⟨?_, ?_, ?_, ?_, ?_⟩
  · rw [← htext]
    exact hroutes (List.replicate 64 0x5a) 1 2 .issuing
  · exact (hfault [] 2147483648 4294967295 .issuing 2147483648).mpr (by decide)
  · exact (hfault [] 1 4294967295 .issuing 4294967295).mpr (by decide)
  · exact (hsmall 1 2 .issuing (by decide) (by decide)).2 [] (by decide)
  · obtain ⟨path, hpath, _⟩ := (hsmall 1 2 .issuing (by decide) (by decide)).1
    obtain ⟨path', hpath', _⟩ := (hsmall 2 1 .issuing (by decide) (by decide)).1
    exact ⟨path, path', hpath, hpath', hapart 1 2 2 1 .issuing .issuing path path' hpath hpath'
      (by decide)⟩

end DidKeys
