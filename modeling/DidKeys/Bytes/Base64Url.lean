import DidKeys.Bytes

/-! # Base64 text for identifiers

Three bytes are four digits of six bits, in the alphabet that needs no escaping in an identifier,
and a last group of one or two bytes has two or three digits.  There is no padding.

Reading is strict: a lone last digit, a foreign character and bits left over that are not zero are
all refused, so every byte string has one text (`decode?_encode`, `encode_of_decode?`). -/

namespace DidKeys.Base64Url

/-- The digit of a value below 64. -/
def digit (v : Nat) : Char :=
  if v < 26 then Char.ofNat (65 + v)
  else if v < 52 then Char.ofNat (71 + v)
  else if v < 62 then Char.ofNat (v - 4)
  else if v = 62 then '-'
  else '_'

/-- The value of a digit. -/
def value? (c : Char) : Option Nat :=
  let v := c.toNat
  if 65 ≤ v ∧ v ≤ 90 then some (v - 65)
  else if 97 ≤ v ∧ v ≤ 122 then some (v - 71)
  else if 48 ≤ v ∧ v ≤ 57 then some (v + 4)
  else if c = '-' then some 62
  else if c = '_' then some 63
  else none

/-- The digits of a byte string. -/
def encodeChars : Bytes → List Char
  | [] => []
  | [a] => [digit (a.toNat / 4), digit (a.toNat % 4 * 16)]
  | [a, b] =>
    [digit (a.toNat / 4), digit (a.toNat % 4 * 16 + b.toNat / 16), digit (b.toNat % 16 * 4)]
  | a :: b :: c :: rest =>
    digit (a.toNat / 4) :: digit (a.toNat % 4 * 16 + b.toNat / 16) ::
      digit (b.toNat % 16 * 4 + c.toNat / 64) :: digit (c.toNat % 64) :: encodeChars rest

/-- The byte that the first and the second digit of a group share. -/
def firstByte (p q : Nat) : UInt8 := UInt8.ofNat (p * 4 + q / 16)

/-- The byte that the second and the third digit of a group share. -/
def secondByte (q r : Nat) : UInt8 := UInt8.ofNat (q % 16 * 16 + r / 4)

/-- The byte that the third and the fourth digit of a group share. -/
def thirdByte (r s : Nat) : UInt8 := UInt8.ofNat (r % 4 * 64 + s)

/-- The byte string that digits spell. -/
def decodeChars? : List Char → Option Bytes
  | [] => some []
  | [_] => none
  | [p, q] => do
    let p ← value? p
    let q ← value? q
    if q % 16 = 0 then some [firstByte p q] else none
  | [p, q, r] => do
    let p ← value? p
    let q ← value? q
    let r ← value? r
    if r % 4 = 0 then some [firstByte p q, secondByte q r] else none
  | p :: q :: r :: s :: rest => do
    let p ← value? p
    let q ← value? q
    let r ← value? r
    let s ← value? s
    let bytes ← decodeChars? rest
    return firstByte p q :: secondByte q r :: thirdByte r s :: bytes

/-- The text of a byte string. -/
def encode (bytes : Bytes) : String := String.ofList (encodeChars bytes)

/-- The byte string that a text spells. -/
def decode? (text : String) : Option Bytes := decodeChars? text.toList

/-! ### Reading what was written -/

theorem value?_digit {v : Nat} (h : v < 64) : value? (digit v) = some v := by
  have hall : ∀ w : Fin 64, value? (digit w.val) = some w.val := by decide
  exact hall ⟨v, h⟩

theorem firstByte_eq {p q : Nat} {b : UInt8} (h : p * 4 + q / 16 = b.toNat) :
    firstByte p q = b := by
  rw [firstByte, h, UInt8.ofNat_toNat]

theorem secondByte_eq {q r : Nat} {b : UInt8} (h : q % 16 * 16 + r / 4 = b.toNat) :
    secondByte q r = b := by
  rw [secondByte, h, UInt8.ofNat_toNat]

theorem thirdByte_eq {r s : Nat} {b : UInt8} (h : r % 4 * 64 + s = b.toNat) :
    thirdByte r s = b := by
  rw [thirdByte, h, UInt8.ofNat_toNat]

theorem decodeChars?_encodeChars (bytes : Bytes) :
    decodeChars? (encodeChars bytes) = some bytes := by
  fun_induction encodeChars bytes with
  | case1 => rfl
  | case2 a =>
    have ha := a.toNat_lt
    rw [decodeChars?, value?_digit (by omega), value?_digit (by omega)]
    have hq : a.toNat % 4 * 16 % 16 = 0 := by omega
    have h1 : firstByte (a.toNat / 4) (a.toNat % 4 * 16) = a := firstByte_eq (by omega)
    simp [hq, h1]
  | case3 a b =>
    have ha := a.toNat_lt
    have hb := b.toNat_lt
    rw [decodeChars?, value?_digit (by omega), value?_digit (by omega), value?_digit (by omega)]
    have hr : b.toNat % 16 * 4 % 4 = 0 := by omega
    have h1 : firstByte (a.toNat / 4) (a.toNat % 4 * 16 + b.toNat / 16) = a :=
      firstByte_eq (by omega)
    have h2 : secondByte (a.toNat % 4 * 16 + b.toNat / 16) (b.toNat % 16 * 4) = b :=
      secondByte_eq (by omega)
    simp [hr, h1, h2]
  | case4 a b c rest ih =>
    have ha := a.toNat_lt
    have hb := b.toNat_lt
    have hc := c.toNat_lt
    rw [decodeChars?, value?_digit (by omega), value?_digit (by omega), value?_digit (by omega),
      value?_digit (by omega), ih]
    have h1 : firstByte (a.toNat / 4) (a.toNat % 4 * 16 + b.toNat / 16) = a :=
      firstByte_eq (by omega)
    have h2 : secondByte (a.toNat % 4 * 16 + b.toNat / 16) (b.toNat % 16 * 4 + c.toNat / 64) = b :=
      secondByte_eq (by omega)
    have h3 : thirdByte (b.toNat % 16 * 4 + c.toNat / 64) (c.toNat % 64) = c :=
      thirdByte_eq (by omega)
    simp [h1, h2, h3]

@[simp] theorem decode?_encode (bytes : Bytes) : decode? (encode bytes) = some bytes := by
  simp [decode?, encode, decodeChars?_encodeChars]

/-! ### One text for each byte string -/

theorem digit_of_value? {c : Char} {v : Nat} (h : value? c = some v) : v < 64 ∧ digit v = c := by
  have hc := Char.ofNat_toNat c
  unfold value? at h
  dsimp only at h
  split at h
  · cases h
    refine ⟨by omega, ?_⟩
    rw [digit, if_pos (by omega), show 65 + (c.toNat - 65) = c.toNat by omega, hc]
  · split at h
    · cases h
      refine ⟨by omega, ?_⟩
      rw [digit, if_neg (by omega), if_pos (by omega),
        show 71 + (c.toNat - 71) = c.toNat by omega, hc]
    · split at h
      · cases h
        refine ⟨by omega, ?_⟩
        rw [digit, if_neg (by omega), if_neg (by omega), if_pos (by omega),
          show c.toNat + 4 - 4 = c.toNat by omega, hc]
      · split at h
        · next hminus =>
          cases h
          exact ⟨by decide, hminus.symm⟩
        · split at h
          · next hlow =>
            cases h
            exact ⟨by decide, hlow.symm⟩
          · cases h

theorem toNat_firstByte {p q : Nat} (hp : p < 64) (hq : q < 64) :
    (firstByte p q).toNat = p * 4 + q / 16 := by
  rw [firstByte, UInt8.toNat_ofNat']
  omega

theorem toNat_secondByte {q r : Nat} (hr : r < 64) :
    (secondByte q r).toNat = q % 16 * 16 + r / 4 := by
  rw [secondByte, UInt8.toNat_ofNat']
  omega

theorem toNat_thirdByte {r s : Nat} (hs : s < 64) : (thirdByte r s).toNat = r % 4 * 64 + s := by
  rw [thirdByte, UInt8.toNat_ofNat']
  omega

theorem encodeChars_of_decodeChars? {cs : List Char} {bytes : Bytes}
    (h : decodeChars? cs = some bytes) : encodeChars bytes = cs := by
  fun_induction decodeChars? cs generalizing bytes with
  | case1 =>
    cases h
    rfl
  | case2 => cases h
  | case3 c d =>
    simp only [Option.bind_eq_bind, Option.bind_eq_some_iff] at h
    obtain ⟨p, hp, q, hq, h⟩ := h
    obtain ⟨hplt, rfl⟩ := digit_of_value? hp
    obtain ⟨hqlt, rfl⟩ := digit_of_value? hq
    split at h
    · cases h
      rw [encodeChars, toNat_firstByte hplt hqlt, show (p * 4 + q / 16) / 4 = p by omega,
        show (p * 4 + q / 16) % 4 * 16 = q by omega]
    · cases h
  | case4 c d e =>
    simp only [Option.bind_eq_bind, Option.bind_eq_some_iff] at h
    obtain ⟨p, hp, q, hq, r, hr, h⟩ := h
    obtain ⟨hplt, rfl⟩ := digit_of_value? hp
    obtain ⟨hqlt, rfl⟩ := digit_of_value? hq
    obtain ⟨hrlt, rfl⟩ := digit_of_value? hr
    split at h
    · cases h
      rw [encodeChars, toNat_firstByte hplt hqlt, toNat_secondByte hrlt,
        show (p * 4 + q / 16) / 4 = p by omega,
        show (p * 4 + q / 16) % 4 * 16 + (q % 16 * 16 + r / 4) / 16 = q by omega,
        show (q % 16 * 16 + r / 4) % 16 * 4 = r by omega]
    · cases h
  | case5 c d e f rest ih =>
    simp only [Option.bind_eq_bind, Option.bind_eq_some_iff] at h
    obtain ⟨p, hp, q, hq, r, hr, s, hs, more, hmore, h⟩ := h
    obtain ⟨hplt, rfl⟩ := digit_of_value? hp
    obtain ⟨hqlt, rfl⟩ := digit_of_value? hq
    obtain ⟨hrlt, rfl⟩ := digit_of_value? hr
    obtain ⟨hslt, rfl⟩ := digit_of_value? hs
    cases h
    rw [encodeChars, ih hmore, toNat_firstByte hplt hqlt, toNat_secondByte hrlt,
      toNat_thirdByte hslt, show (p * 4 + q / 16) / 4 = p by omega,
      show (p * 4 + q / 16) % 4 * 16 + (q % 16 * 16 + r / 4) / 16 = q by omega,
      show (q % 16 * 16 + r / 4) % 16 * 4 + (r % 4 * 64 + s) / 64 = r by omega,
      show (r % 4 * 64 + s) % 64 = s by omega]

/-- Only the text that is written for a byte string is read as it. -/
theorem encode_of_decode? {text : String} {bytes : Bytes} (h : decode? text = some bytes) :
    encode bytes = text := by
  rw [encode, encodeChars_of_decodeChars? h, String.ofList_toList]

end DidKeys.Base64Url
