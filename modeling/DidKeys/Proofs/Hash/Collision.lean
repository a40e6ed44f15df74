import DidKeys.Hash.Digest
import Mathlib.Data.List.Basic

/-! # Collisions

No statement of this library assumes that digests tell messages apart.  Where one needs it, it names
the messages that were hashed and says that otherwise two of these are a collision. -/

namespace DidKeys

/-- Two different ones of some messages have the same digest. -/
def Collision (messages : List Bytes) : Prop :=
  ∃ a ∈ messages, ∃ b ∈ messages, a ≠ b ∧ sha256 a = sha256 b

/-- A collision stays one among more messages. -/
theorem Collision.mono {messages more : List Bytes} (h : Collision messages)
    (hsub : messages ⊆ more) : Collision more := by
  obtain ⟨a, ha, b, hb, hne, heq⟩ := h
  exact ⟨a, hsub ha, b, hsub hb, hne, heq⟩

theorem Collision.append {first second first' second' : List Bytes}
    (h : Collision (first ++ second)) (hfirst : first ⊆ first') (hsecond : second ⊆ second') :
    Collision (first' ++ second') := by
  apply h.mono
  apply List.append_subset_of_subset_of_subset
  · exact List.subset_append_of_subset_left _ hfirst
  · exact List.subset_append_of_subset_right _ hsecond

/-- Messages with one digest are equal, or a collision. -/
theorem eq_or_collision {messages : List Bytes} {a b : Bytes} (ha : a ∈ messages)
    (hb : b ∈ messages) (h : sha256 a = sha256 b) : a = b ∨ Collision messages := by
  by_cases hab : a = b
  · exact .inl hab
  · exact .inr ⟨a, ha, b, hb, hab, h⟩

end DidKeys
