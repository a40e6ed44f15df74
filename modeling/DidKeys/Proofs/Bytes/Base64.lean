import DidKeys.Bytes.Base64Url
import Mathlib.Algebra.Group.Nat.Defs

/-! # Base64 text that spells nothing

A row of digits spells whole bytes unless there is a lone digit behind the last group of four, or
the last digit has bits that belong to no byte and are not zero (`decodeChars?_eq_none_iff`). -/

namespace DidKeys.Base64Url

/-- The bits of the last digit that belong to no byte. -/
def looseBits (cs : List Char) : Nat :=
  ((cs.getLast?.bind value?).getD 0) % 2 ^ (6 * cs.length % 8)

/-- A group of four digits leaves no bits. -/
theorem looseBits_group (p q r s : Char) (rest : List Char) :
    looseBits (p :: q :: r :: s :: rest) = looseBits rest := by
  cases rest with
  | nil => simp [looseBits, Nat.mod_one]
  | cons c rest =>
      have hlast : (p :: q :: r :: s :: c :: rest).getLast? = (c :: rest).getLast? := by
        simp [List.getLast?_cons_cons]
      have hlength : 6 * (p :: q :: r :: s :: c :: rest).length % 8 = 6 * (c :: rest).length % 8 := by
        simp only [List.length_cons]
        omega
      rw [looseBits, hlast, hlength, looseBits]

theorem decodeChars?_eq_none_iff {cs : List Char} (h : ∀ c ∈ cs, ∃ v, value? c = some v) :
    decodeChars? cs = none ↔ cs.length % 4 = 1 ∨ looseBits cs ≠ 0 := by
  fun_induction decodeChars? cs with
  | case1 => simp [looseBits]
  | case2 c => simp
  | case3 c d =>
      obtain ⟨p, hp⟩ := h c (by simp)
      obtain ⟨q, hq⟩ := h d (by simp)
      have hloose : looseBits [c, d] = q % 16 := by simp [looseBits, hq]
      simp [hp, hq, hloose]
  | case4 c d e =>
      obtain ⟨p, hp⟩ := h c (by simp)
      obtain ⟨q, hq⟩ := h d (by simp)
      obtain ⟨r, hr⟩ := h e (by simp)
      have hloose : looseBits [c, d, e] = r % 4 := by simp [looseBits, hr]
      simp [hp, hq, hr, hloose]
  | case5 c d e f rest ih =>
      obtain ⟨p, hp⟩ := h c (by simp)
      obtain ⟨q, hq⟩ := h d (by simp)
      obtain ⟨r, hr⟩ := h e (by simp)
      obtain ⟨s, hs⟩ := h f (by simp)
      have hrest := ih fun c hc => h c (by simp [hc])
      have hlength : (c :: d :: e :: f :: rest).length % 4 = rest.length % 4 := by
        simp only [List.length_cons]
        omega
      rw [hlength, looseBits_group, ← hrest]
      simp only [hp, hq, hr, hs, Option.bind_eq_bind, Option.bind_some]
      cases decodeChars? rest <;> simp

end DidKeys.Base64Url
