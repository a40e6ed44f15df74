import DidKeys.Proofs.Bytes.Number
import DidKeys.Proofs.Derivation.WatchOnly

/-! # What is hashed for children

The message of a child is a tag, 32 bytes of the parent and the index of the step
(`exists_frame_of_childMessage`).  The tag is zero for a hardened step and two or three for a normal
one, and the index takes the number and the mark of the step without loss.  So a message tells its
step, whatever the keys (`axis_eq_of_childMessage`), and one parent never hashes a message for two
children.

Nothing here takes it that the keyed hash tells messages apart: children with one chain code are two
messages whose keyed hashes have one right half, and `childMessage_never_reused` names them. -/

namespace DidKeys

/-! ### Packing -/

namespace Axis
variable {axis other : Axis}

theorem hardened_ofIndex_iff {index : UInt32} :
    (ofIndex index).hardened = true ↔ 2 ^ 31 ≤ index.toNat :=
  decide_eq_true_iff

theorem index_injective : Function.Injective index :=
  Function.LeftInverse.injective ofIndex_index

/-- The four bytes of an index tell the step. -/
theorem eq_of_indexBytes_eq
    (h : Bytes.ofNat 4 axis.index.toNat = Bytes.ofNat 4 other.index.toNat) : axis = other := by
  have hvalue := congrArg Bytes.toNat h
  rw [Bytes.toNat_ofNat_of_lt axis.index.toNat_lt, Bytes.toNat_ofNat_of_lt other.index.toNat_lt]
    at hvalue
  exact index_injective (UInt32.toNat_inj.mp hvalue)

end Axis

namespace ExtendedKey

/-! ### The parts of a message -/

section message
variable {parent other child : ExtendedKey} {axis axis' : Axis} {message message' : Bytes}

/-- A message is a tag, 32 bytes of the parent and the bytes of the index, and only a hardened one
has the tag zero. -/
theorem exists_frame_of_childMessage (h : parent.childMessage axis = .ok message) :
    ∃ tag body, message = tag :: body ++ Bytes.ofNat 4 axis.index.toNat ∧ body.length = 32 ∧
      (tag = 0 ↔ axis.hardened = true) := by
  cases haxis : axis.hardened with
  | false =>
      rw [childMessage_of_normal haxis] at h
      cases h
      refine ⟨_, _, rfl, Bytes.length_ofNat _ _, ?_⟩
      rcases Nat.mod_two_eq_zero_or_one parent.publicKey.y.val with hparity | hparity
      · rw [hparity]
        decide
      · rw [hparity]
        decide
  | true =>
      cases hkey : parent.privateKey with
      | none =>
          rw [childMessage_of_closed haxis hkey] at h
          cases h
      | some key =>
          rw [childMessage_of_hardened haxis hkey] at h
          cases h
          exact ⟨0, key.toBytes, rfl, Bytes.length_ofNat _ _, iff_of_true rfl rfl⟩

theorem length_of_childMessage (h : parent.childMessage axis = .ok message) :
    message.length = 37 := by
  obtain ⟨tag, body, rfl, hbody, _⟩ := exists_frame_of_childMessage h
  rw [List.length_append, List.length_cons, hbody, Bytes.length_ofNat]

/-- A message starts with zero just when it is hardened. -/
theorem head_of_childMessage (h : parent.childMessage axis = .ok message) :
    message.head? = some 0 ↔ axis.hardened = true := by
  obtain ⟨tag, body, rfl, _, htag⟩ := exists_frame_of_childMessage h
  rw [← htag, List.cons_append, List.head?_cons, Option.some.injEq]

/-- Whatever the keys, a message tells its step. -/
theorem axis_eq_of_childMessage (h : parent.childMessage axis = .ok message)
    (h' : other.childMessage axis' = .ok message) : axis = axis' := by
  obtain ⟨tag, body, hmessage, hbody, _⟩ := exists_frame_of_childMessage h
  obtain ⟨tag', body', hmessage', hbody', _⟩ := exists_frame_of_childMessage h'
  have hsame := hmessage.symm.trans hmessage'
  -- the keys may differ in what they put there, but not in how much
  have hlength : (tag :: body).length = (tag' :: body').length := by
    rw [List.length_cons, List.length_cons, hbody, hbody']
  obtain ⟨_, hindex⟩ := List.append_inj hsame hlength
  exact Axis.eq_of_indexBytes_eq hindex

/-- There is a message for every step, but for a hardened one only with the private half. -/
theorem exists_childMessage_iff :
    (∃ message, parent.childMessage axis = .ok message) ↔
      (axis.hardened = true → parent.isPrivate = true) := by
  constructor
  · rintro ⟨message, h⟩ haxis
    by_contra hpublic
    rw [Bool.not_eq_true, isPrivate_eq_false_iff] at hpublic
    rw [childMessage_of_closed haxis hpublic] at h
    cases h
  · intro hopen
    cases haxis : axis.hardened with
    | false =>
        exact ⟨_, childMessage_of_normal haxis⟩
    | true =>
        obtain ⟨key, hkey⟩ := Option.isSome_iff_exists.mp (hopen haxis)
        exact exists_childMessage hkey axis

/-- The chain code of a child is the right half of the keyed hash of its message. -/
theorem exists_message_of_derive (h : parent.derive axis = .ok child) :
    ∃ message, parent.childMessage axis = .ok message ∧
      child.chainCode = parent.chainCodeOf message := by
  have houtcome := derive_outcome parent axis
  rw [h] at houtcome
  cases houtcome with
  | privateChild hmessage _ _ _ =>
      refine ⟨_, hmessage, ?_⟩
      dsimp only
  | publicChild hmessage _ _ =>
      refine ⟨_, hmessage, ?_⟩
      dsimp only

end message

/-! ### Separation -/

/-- Steps and indices stand for each other, and the hardened ones are those from `2³¹` on.  A key
has a message of 37 bytes for every step that is open to it.  Messages of different steps differ,
even from different keys, and a hardened one differs from a normal one in its first byte.  So
siblings are made from two different messages, and have one chain code just when the keyed hashes of
these have one right half.  A normal message is the same without the private half. -/
theorem childMessage_never_reused :
    (∀ axis : Axis, Axis.ofIndex axis.index = axis) ∧
    (∀ index : UInt32, (Axis.ofIndex index).index = index ∧
      ((Axis.ofIndex index).hardened = true ↔ 2 ^ 31 ≤ index.toNat)) ∧
    (∀ (key : ExtendedKey) (axis : Axis), (∃ message, key.childMessage axis = .ok message) ↔
      (axis.hardened = true → key.isPrivate = true)) ∧
    (∀ (key other : ExtendedKey) (axis axis' : Axis) (message message' : Bytes),
      key.childMessage axis = .ok message → other.childMessage axis' = .ok message' →
        message.length = 37 ∧ message'.length = 37 ∧
        (axis ≠ axis' → message ≠ message') ∧
        (axis.hardened ≠ axis'.hardened → message.head? ≠ message'.head?)) ∧
    (∀ (key child child' : ExtendedKey) (axis axis' : Axis),
      key.derive axis = .ok child → key.derive axis' = .ok child' → axis ≠ axis' →
        ∃ message message', key.childMessage axis = .ok message ∧
          key.childMessage axis' = .ok message' ∧
          message.length = 37 ∧ message'.length = 37 ∧ message ≠ message' ∧
          (child.chainCode = child'.chainCode ↔
            (hmacSha512 key.chainCode message).drop 32 =
              (hmacSha512 key.chainCode message').drop 32)) ∧
    ∀ (key : ExtendedKey) (axis : Axis), axis.hardened = false →
      ∃ message, key.childMessage axis = .ok message ∧
        key.neuter.childMessage axis = .ok message := by
  refine ⟨Axis.ofIndex_index, fun index => ⟨Axis.index_ofIndex index, Axis.hardened_ofIndex_iff⟩,
    fun key axis => exists_childMessage_iff, ?messages, ?siblings, ?neutered⟩
  case messages =>
    intro key other axis axis' message message' h h'
    refine ⟨length_of_childMessage h, length_of_childMessage h', ?_, ?_⟩
    · rintro hne rfl
      exact hne (axis_eq_of_childMessage h h')
    · intro hne hhead
      apply hne
      rw [Bool.eq_iff_iff, ← head_of_childMessage h, ← head_of_childMessage h', hhead]
  case siblings =>
    intro key child child' axis axis' h h' hne
    obtain ⟨message, hmessage, hchain⟩ := exists_message_of_derive h
    obtain ⟨message', hmessage', hchain'⟩ := exists_message_of_derive h'
    refine ⟨message, message', hmessage, hmessage', length_of_childMessage hmessage,
      length_of_childMessage hmessage', ?_, ?_⟩
    · rintro rfl
      exact hne (axis_eq_of_childMessage hmessage hmessage')
    · rw [hchain, hchain', chainCodeOf, chainCodeOf, chainCodeLength]
  case neutered =>
    intro key axis hnormal
    refine ⟨_, childMessage_of_normal hnormal, ?_⟩
    rw [childMessage_neuter_of_normal hnormal]
    exact childMessage_of_normal hnormal

/-- With its private half, a key has the hardened child whose tweak leads to a key. -/
theorem exists_derive_of_tweak {parent : ExtendedKey} {axis : Axis} {key : PrivateKey}
    (hkey : parent.privateKey = some key) (haxis : axis.hardened = true)
    (htweak : (key.tweak (parent.tweakOf
      (0 :: key.toBytes ++ Bytes.ofNat 4 axis.index.toNat))).isOk = true) :
    ∃ child, parent.derive axis = .ok child := by
  rw [derive_of_privateKey hkey (childMessage_of_hardened haxis hkey)]
  cases hchild : key.tweak (parent.tweakOf
      (0 :: key.toBytes ++ Bytes.ofNat 4 axis.index.toNat)) with
  | error cause =>
      rw [hchild] at htweak
      cases htweak
  | ok child =>
      obtain ⟨publicKey, hpublic⟩ := child.exists_publicKey
      change ∃ _, liftKey child.publicKey >>= _ = _
      rw [hpublic]
      exact ⟨_, rfl⟩

/-- The master key of sixteen zeros has its first two hardened children. -/
theorem exists_children_zeros :
    ∃ key child child', ofSeed (List.replicate 16 0) = .ok key ∧
      key.derive ⟨0, true, by decide⟩ = .ok child ∧
      key.derive ⟨1, true, by decide⟩ = .ok child' := by
  have hkeys : (PrivateKey.ofBytes? ((hmacSha512 seedKey (List.replicate 16 0)).take
      chainCodeLength)).any (fun key =>
        [(⟨0, true, by decide⟩ : Axis), ⟨1, true, by decide⟩].all fun axis =>
          (key.tweak (Bytes.toNat ((hmacSha512
            ((hmacSha512 seedKey (List.replicate 16 0)).drop chainCodeLength)
            (0 :: key.toBytes ++ Bytes.ofNat 4 axis.index.toNat)).take chainCodeLength))).isOk) =
        true := by
    decide +kernel
  obtain ⟨privateKey, hkey, htweaks⟩ := (Option.any_eq_true _ _).mp hkeys
  obtain ⟨publicKey, hpublic⟩ := privateKey.exists_publicKey
  have hseed := ofSeed_eq_ok (by decide) hkey hpublic
  have htweak := List.all_eq_true.mp htweaks
  -- the hash has been computed, and nothing below looks into it
  generalize hmacSha512 seedKey (List.replicate 16 0) = mac at hseed htweak
  have hchild : ∀ axis ∈ [(⟨0, true, by decide⟩ : Axis), ⟨1, true, by decide⟩],
      axis.hardened = true →
        ∃ child, derive ⟨some privateKey, publicKey, mac.drop chainCodeLength, .root⟩ axis =
          .ok child := by
    intro axis hmem haxis
    refine exists_derive_of_tweak rfl haxis ?_
    exact htweak axis hmem
  obtain ⟨child, hzero⟩ := hchild ⟨0, true, by decide⟩ (by decide) rfl
  obtain ⟨child', hone⟩ := hchild ⟨1, true, by decide⟩ (by decide) rfl
  exact ⟨_, child, child', hseed, hzero, hone⟩

/-- The steps `0'`, `1'` and `0` from the master key of sixteen zeros, and `0` from its public
half. -/
theorem childMessage_never_reused_zeros :
    ∃ key child child', ofSeed (List.replicate 16 0) = .ok key ∧
      key.derive ⟨0, true, by decide⟩ = .ok child ∧
      key.derive ⟨1, true, by decide⟩ = .ok child' ∧
      ∃ hardened hardened' normal, key.childMessage ⟨0, true, by decide⟩ = .ok hardened ∧
        key.childMessage ⟨1, true, by decide⟩ = .ok hardened' ∧
        key.childMessage ⟨0, false, by decide⟩ = .ok normal ∧
        key.neuter.childMessage ⟨0, false, by decide⟩ = .ok normal ∧
        hardened.length = 37 ∧ normal.length = 37 ∧ hardened ≠ hardened' ∧
        hardened.head? ≠ normal.head? ∧
        (child.chainCode = child'.chainCode ↔
          (hmacSha512 key.chainCode hardened).drop 32 =
            (hmacSha512 key.chainCode hardened').drop 32) := by
  obtain ⟨key, child, child', hseed, hzero, hone⟩ := exists_children_zeros
  obtain ⟨_, _, _, hmessages, hsiblings, hneutered⟩ := childMessage_never_reused
  obtain ⟨hardened, hardened', hmessage, hmessage', hlength, _, hne, hchain⟩ :=
    hsiblings key child child' _ _ hzero hone (by decide)
  obtain ⟨normal, hnormal, hpublic⟩ := hneutered key ⟨0, false, by decide⟩ rfl
  obtain ⟨_, hlength', _, hhead⟩ := hmessages key key _ _ hardened normal hmessage hnormal
  exact ⟨key, child, child', hseed, hzero, hone, hardened, hardened', normal, hmessage, hmessage',
    hnormal, hpublic, hlength, hlength', hne, hhead (by decide), hchain⟩

end ExtendedKey
end DidKeys
