import DidKeys.Mnemonic.Code
import DidKeys.Proofs.Bytes.Bits
import Mathlib.Data.List.Induction

/-! # Entropy and checksum as one number

Digits to the base 2048 and numbers below a power of it determine each other
(`WordDigits.toNat_ofNat_of_lt`, `WordDigits.ofNat_toNat`).  The number of some entropy has room in
the words of its length (`checkedNumber_lt`), and gives the entropy back: it has one, or none if its
last bits are no checksum (`entropyOfNumber?_eq_some_iff`). -/

namespace DidKeys

/-! ### Digits to the base 2048 -/

namespace WordDigits

theorem toNat_concat (digits : List Nat) (d : Nat) :
    toNat (digits ++ [d]) = toNat digits * Wordlist.size + d := by
  rw [toNat, List.foldl_append]
  rfl

@[simp] theorem length_ofNat (count v : Nat) : (ofNat count v).length = count := by
  induction count generalizing v with
  | zero => rfl
  | succ count ih => rw [ofNat, List.length_append, ih, List.length_singleton]

theorem lt_of_mem_ofNat {count v : Nat} : ∀ d ∈ ofNat count v, d < Wordlist.size := by
  induction count generalizing v with
  | zero =>
      intro d hd
      cases hd
  | succ count ih =>
      intro d hd
      rcases List.mem_append.mp hd with hinit | hlast
      · exact ih d hinit
      · rw [List.mem_singleton.mp hlast]
        exact Nat.mod_lt _ (by decide)

theorem toNat_ofNat (count v : Nat) : toNat (ofNat count v) = v % Wordlist.size ^ count := by
  induction count generalizing v with
  | zero => rw [Nat.pow_zero, Nat.mod_one]; rfl
  | succ count ih =>
      rw [ofNat, toNat_concat, ih, Nat.pow_succ, Nat.mul_comm (Wordlist.size ^ count),
        Nat.mod_mul, Nat.mul_comm, Nat.add_comm]

theorem toNat_ofNat_of_lt {count v : Nat} (h : v < Wordlist.size ^ count) :
    toNat (ofNat count v) = v := by
  rw [toNat_ofNat, Nat.mod_eq_of_lt h]

/-- A row of digits is the one that its number is written with. -/
theorem ofNat_toNat {digits : List Nat} (h : ∀ d ∈ digits, d < Wordlist.size) :
    ofNat digits.length (toNat digits) = digits := by
  induction digits using List.reverseRecOn with
  | nil => rfl
  | append_singleton init last ih =>
      have hlast : last < Wordlist.size := h last (by simp)
      have hinit : ∀ d ∈ init, d < Wordlist.size := fun d hd => h d (by simp [hd])
      have hdiv : (toNat init * Wordlist.size + last) / Wordlist.size = toNat init := by
        rw [Nat.mul_comm, Nat.mul_add_div (by decide), Nat.div_eq_of_lt hlast, Nat.add_zero]
      have hmod : (toNat init * Wordlist.size + last) % Wordlist.size = last := by
        rw [Nat.mul_comm, Nat.mul_add_mod, Nat.mod_eq_of_lt hlast]
      rw [List.length_append, List.length_singleton, toNat_concat, ofNat, hdiv, hmod, ih hinit]

end WordDigits

/-! ### Numbers with a checksum -/

section checked
variable {count : WordCount} {entropy : Bytes} {number : Nat}

theorem entropyChecksum_lt (count : WordCount) (entropy : Bytes) :
    entropyChecksum count.checksumBits entropy < 2 ^ count.checksumBits := by
  have hbits : count.checksumBits ≤ 256 := by cases count <;> decide
  have hdigest := Bytes.toNat_lt (sha256 entropy).bytes
  rw [(sha256 entropy).length_bytes] at hdigest
  rw [entropyChecksum, Nat.shiftRight_eq_div_pow, Nat.div_lt_iff_lt_mul (Nat.two_pow_pos _),
    ← Nat.pow_add, Nat.add_sub_of_le hbits]
  exact hdigest

/-- The words of a length have as many bits as its entropy and its checksum together. -/
theorem size_pow_words (count : WordCount) :
    Wordlist.size ^ count.words = 256 ^ count.entropyBytes * 2 ^ count.checksumBits := by
  cases count <;> rfl

theorem checkedNumber_lt (h : entropy.length = count.entropyBytes) :
    checkedNumber count entropy < Wordlist.size ^ count.words := by
  have hentropy := Bytes.toNat_lt entropy
  have hchecksum := entropyChecksum_lt count entropy
  rw [h] at hentropy
  rw [checkedNumber, Nat.shiftLeft_eq, size_pow_words]
  calc Bytes.toNat entropy * 2 ^ count.checksumBits + entropyChecksum count.checksumBits entropy
      < Bytes.toNat entropy * 2 ^ count.checksumBits + 2 ^ count.checksumBits :=
        Nat.add_lt_add_left hchecksum _
    _ = (Bytes.toNat entropy + 1) * 2 ^ count.checksumBits := (Nat.succ_mul _ _).symm
    _ ≤ 256 ^ count.entropyBytes * 2 ^ count.checksumBits := Nat.mul_le_mul_right _ hentropy

/-- Without its last bits, the number of some entropy is the entropy. -/
theorem checkedNumber_shiftRight (count : WordCount) (entropy : Bytes) :
    checkedNumber count entropy >>> count.checksumBits = Bytes.toNat entropy := by
  rw [checkedNumber, Nat.shiftLeft_eq, Bits.shiftRight_of_lt (entropyChecksum_lt count entropy)]

/-- The entropy in a number is the one whose number it is. -/
theorem entropyOfNumber?_eq_some_iff :
    entropyOfNumber? count number = some entropy ↔
      entropy.length = count.entropyBytes ∧ checkedNumber count entropy = number := by
  unfold entropyOfNumber?
  dsimp only
  constructor
  · intro h
    split at h
    · next hnumber =>
      cases h
      exact ⟨Bytes.length_ofNat _ _, hnumber⟩
    · cases h
  · rintro ⟨hlength, rfl⟩
    rw [checkedNumber_shiftRight, Bytes.ofNat_toNat_of_length hlength, if_pos rfl]

end checked
end DidKeys
