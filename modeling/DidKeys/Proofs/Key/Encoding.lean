import DidKeys.Proofs.Bytes.Number
import DidKeys.Proofs.Curve.SquareRoot
import DidKeys.Proofs.Key.Tweak

/-! # Keys are read back

A public key has three encodings (`PublicKey.IsEncoding`), and these are the byte strings that are
read as that key (`ofEncoded_eq_ok_iff`).  Stated by its coordinates, it is read from any byte
strings with their values (`ofCoordinates_eq_ok_iff`).  There is a key for each solution of the
equation of the curve in numbers below the prime (`exists_coordinates_iff`), and
`PublicKey.ofEncoded_exact` puts all this together.  A private key is read from any byte string with
the value of its scalar (`PrivateKey.ofBytes_eq_ok_iff`). -/

namespace DidKeys

/-! ### Coordinates -/

theorem Coord.val_lt (c : Coord) : c.val < 256 ^ PublicKey.coordinateLength :=
  Nat.lt_trans c.isLt (by decide)

/-- Among byte strings of the length of a coordinate, one has its value. -/
theorem Coord.toNat_eq_val_iff {bs : Bytes} {c : Coord}
    (hlength : bs.length = PublicKey.coordinateLength) :
    Bytes.toNat bs = c.val ↔ bs = Bytes.ofNat PublicKey.coordinateLength c.val := by
  constructor
  · intro h
    rw [← h, Bytes.ofNat_toNat_of_length hlength]
  · intro h
    rw [h, Bytes.toNat_ofNat_of_lt c.val_lt]

namespace PublicKey

theorem ofCoords?_eq_some_iff {x y : Nat} {key : PublicKey} :
    ofCoords? x y = some key ↔ x = key.x.val ∧ y = key.y.val := by
  unfold ofCoords?
  simp only [Option.bind_eq_bind, Option.bind_eq_some_iff, Coord.ofNat?_eq_some_iff,
    ofPoint?_eq_some_iff]
  constructor
  · rintro ⟨x', rfl, y', rfl, hpoint⟩
    cases hpoint
    exact ⟨rfl, rfl⟩
  · rintro ⟨rfl, rfl⟩
    exact ⟨key.x, rfl, key.y, rfl, rfl⟩

theorem ofX?_eq_some_iff {x : Nat} {odd : Bool} {key : PublicKey} :
    ofX? x odd = some key ↔ x = key.x.val ∧ (key.y.val % 2 == 1) = odd := by
  unfold ofX?
  simp only [Option.bind_eq_bind, Option.bind_eq_some_iff, Coord.ofNat?_eq_some_iff,
    ofPoint?_eq_some_iff, liftX?_eq_some_iff]
  constructor
  · rintro ⟨x', rfl, y', ⟨_, hparity⟩, hpoint⟩
    cases hpoint
    exact ⟨rfl, hparity⟩
  · rintro ⟨rfl, hparity⟩
    exact ⟨key.x, rfl, key.y, ⟨key.on_curve, hparity⟩, rfl⟩

/-- The values of the coordinates decide, not how many zeros stand in front of them. -/
theorem ofCoordinates_eq_ok_iff {x y : Bytes} {key : PublicKey} :
    ofCoordinates x y = .ok key ↔ Bytes.toNat x = key.x.val ∧ Bytes.toNat y = key.y.val := by
  unfold ofCoordinates
  rw [Bytes.fit?_eq, Bytes.fit?_eq]
  by_cases hx : Bytes.toNat x < 256 ^ coordinateLength
  · by_cases hy : Bytes.toNat y < 256 ^ coordinateLength
    · rw [if_pos hx, if_pos hy]
      dsimp only
      rw [Bytes.toNat_ofNat_of_lt hx, Bytes.toNat_ofNat_of_lt hy, ← ofCoords?_eq_some_iff]
      cases ofCoords? (Bytes.toNat x) (Bytes.toNat y) with
      | none => exact iff_of_false (fun h => nomatch h) (fun h => nomatch h)
      | some found => rw [Except.ok.injEq, Option.some.injEq]
    · rw [if_pos hx, if_neg hy]
      refine iff_of_false (fun h => nomatch h) ?_
      rintro ⟨_, h⟩
      exact hy (h ▸ key.y.val_lt)
  · rw [if_neg hx]
    refine iff_of_false (fun h => nomatch h) ?_
    rintro ⟨h, _⟩
    exact hx (h ▸ key.x.val_lt)

theorem toNat_xBytes (key : PublicKey) : Bytes.toNat key.xBytes = key.x.val :=
  Bytes.toNat_ofNat_of_lt key.x.val_lt

theorem toNat_yBytes (key : PublicKey) : Bytes.toNat key.yBytes = key.y.val :=
  Bytes.toNat_ofNat_of_lt key.y.val_lt

@[simp] theorem length_xBytes (key : PublicKey) : key.xBytes.length = coordinateLength :=
  Bytes.length_ofNat _ _

@[simp] theorem length_yBytes (key : PublicKey) : key.yBytes.length = coordinateLength :=
  Bytes.length_ofNat _ _

theorem ofCoordinates_bytes (key : PublicKey) :
    ofCoordinates key.xBytes key.yBytes = .ok key :=
  ofCoordinates_eq_ok_iff.2 ⟨key.toNat_xBytes, key.toNat_yBytes⟩

/-! ### Encodings -/

/-- The byte strings that encode a key. -/
inductive IsEncoding (key : PublicKey) : Bytes → Prop
  /-- Both coordinates. -/
  | uncompressed : IsEncoding key key.encoded
  /-- The first coordinate and the parity of the second one. -/
  | compressed : IsEncoding key key.compressed
  /-- The first coordinate alone, where the second one is even. -/
  | compact (heven : key.y.val % 2 = 0) : IsEncoding key (5 :: key.xBytes)

theorem compressed_of_even {key : PublicKey} (h : key.y.val % 2 = 0) :
    key.compressed = 2 :: key.xBytes := by
  rw [compressed, h]
  rfl

theorem compressed_of_odd {key : PublicKey} (h : key.y.val % 2 = 1) :
    key.compressed = 3 :: key.xBytes := by
  rw [compressed, h]
  rfl

theorem ofEncoded?_uncompressed {body : Bytes} {key : PublicKey} (hlength : body.length = 64) :
    ofEncoded? (4 :: body) = some key ↔ 4 :: body = key.encoded := by
  have htake : (body.take 32).length = coordinateLength := by
    rw [List.length_take, hlength]
    rfl
  have hdrop : (body.drop 32).length = coordinateLength := by
    rw [List.length_drop, hlength]
  rw [ofEncoded?, if_pos ⟨rfl, hlength⟩, ofCoords?_eq_some_iff, Coord.toNat_eq_val_iff htake,
    Coord.toNat_eq_val_iff hdrop]
  constructor
  · rintro ⟨hx, hy⟩
    rw [encoded, xBytes, yBytes, ← hx, ← hy, List.cons_append, List.take_append_drop]
  · intro h
    have hbody : body = key.xBytes ++ key.yBytes := (List.cons.inj h).2
    have hlen : key.xBytes.length = 32 := key.length_xBytes
    rw [hbody]
    exact ⟨List.take_left' hlen, List.drop_left' hlen⟩

theorem ofEncoded?_tagged {tag : UInt8} {body : Bytes} {key : PublicKey} (hne : tag ≠ 4)
    (htag : tag = 2 ∨ tag = 3 ∨ tag = 5) (hlength : body.length = 32) :
    ofEncoded? (tag :: body) = some key ↔
      body = key.xBytes ∧ (key.y.val % 2 == 1) = decide (tag = 3) := by
  rw [ofEncoded?, if_neg fun h => hne h.1, if_pos ⟨htag, hlength⟩, ofX?_eq_some_iff,
    Coord.toNat_eq_val_iff hlength]
  rfl

theorem isEncoding_of_ofEncoded? {bs : Bytes} {key : PublicKey} (h : ofEncoded? bs = some key) :
    key.IsEncoding bs := by
  cases bs with
  | nil => cases h
  | cons tag body =>
      by_cases hfull : tag = 4 ∧ body.length = 64
      · obtain ⟨rfl, hlength⟩ := hfull
        rw [(ofEncoded?_uncompressed hlength).1 h]
        exact .uncompressed
      · by_cases hshort : (tag = 2 ∨ tag = 3 ∨ tag = 5) ∧ body.length = 32
        · obtain ⟨htag, hlength⟩ := hshort
          have hne : tag ≠ 4 := by
            rintro rfl
            revert htag
            decide
          obtain ⟨hbody, hparity⟩ := (ofEncoded?_tagged hne htag hlength).1 h
          rw [hbody]
          rcases htag with rfl | rfl | rfl
          · have heven : key.y.val % 2 = 0 := by simpa using hparity
            rw [← compressed_of_even heven]
            exact .compressed
          · have hodd : key.y.val % 2 = 1 := by simpa using hparity
            rw [← compressed_of_odd hodd]
            exact .compressed
          · exact .compact (by simpa using hparity)
        · rw [ofEncoded?, if_neg hfull, if_neg hshort] at h
          cases h

theorem ofEncoded?_of_isEncoding {bs : Bytes} {key : PublicKey} (h : key.IsEncoding bs) :
    ofEncoded? bs = some key := by
  have hlength : key.xBytes.length = 32 := key.length_xBytes
  cases h with
  | uncompressed =>
      have hboth : (key.xBytes ++ key.yBytes).length = 64 := by
        rw [List.length_append, length_xBytes, length_yBytes]
        rfl
      exact (ofEncoded?_uncompressed hboth).2 rfl
  | compressed =>
      rcases Nat.mod_two_eq_zero_or_one key.y.val with heven | hodd
      · rw [compressed_of_even heven, ofEncoded?_tagged (by decide) (by decide) hlength, heven]
        exact ⟨rfl, rfl⟩
      · rw [compressed_of_odd hodd, ofEncoded?_tagged (by decide) (by decide) hlength, hodd]
        exact ⟨rfl, rfl⟩
  | compact heven =>
      rw [ofEncoded?_tagged (by decide) (by decide) hlength, heven]
      exact ⟨rfl, rfl⟩

/-- Exactly the encodings of a key are read as that key. -/
theorem ofEncoded_eq_ok_iff {bs : Bytes} {key : PublicKey} :
    ofEncoded bs = .ok key ↔ key.IsEncoding bs := by
  have hread : ofEncoded bs = .ok key ↔ ofEncoded? bs = some key := by
    unfold ofEncoded
    cases ofEncoded? bs with
    | none => exact iff_of_false (fun h => nomatch h) (fun h => nomatch h)
    | some found => rw [Except.ok.injEq, Option.some.injEq]
  rw [hread]
  exact ⟨isEncoding_of_ofEncoded?, ofEncoded?_of_isEncoding⟩

theorem ofEncoded_encoded (key : PublicKey) : ofEncoded key.encoded = .ok key :=
  ofEncoded_eq_ok_iff.mpr .uncompressed

theorem ofEncoded_compressed (key : PublicKey) : ofEncoded key.compressed = .ok key :=
  ofEncoded_eq_ok_iff.mpr .compressed

/-! ### Points in numbers -/

theorem onCurve_iff_mod {x y : Coord} :
    OnCurve x y ↔ y.val ^ 2 % fieldPrime = (x.val ^ 3 + 7) % fieldPrime := by
  have hseven : ((7 : Coord) : Nat) = 7 := rfl
  have hsquare : y.val ^ 2 = y.val * y.val := Nat.pow_two _
  have hcube : x.val ^ 3 = x.val * x.val * x.val := by rw [Nat.pow_succ, Nat.pow_two]
  unfold OnCurve
  rw [Fin.ext_iff, Fin.val_mul, Fin.val_add, Fin.val_mul, Fin.val_mul, hseven, Nat.mod_mul_mod,
    Nat.mod_add_mod, hsquare, hcube]

/-- The keys are the solutions of the equation of the curve in numbers below the prime. -/
theorem exists_coordinates_iff {x y : Nat} :
    (∃ key : PublicKey, key.x.val = x ∧ key.y.val = y) ↔
      x < fieldPrime ∧ y < fieldPrime ∧ y ^ 2 % fieldPrime = (x ^ 3 + 7) % fieldPrime := by
  constructor
  · rintro ⟨key, rfl, rfl⟩
    exact ⟨key.x.isLt, key.y.isLt, onCurve_iff_mod.mp key.on_curve⟩
  · rintro ⟨hx, hy, hequation⟩
    exact ⟨⟨⟨x, hx⟩, ⟨y, hy⟩, onCurve_iff_mod.mpr hequation⟩, rfl, rfl⟩

/-- Keys are the points of the curve other than the one at infinity.  Each is read from its three
encodings, of which one is there for an even second coordinate only, and from coordinates with its
values, and nothing else is read as it. -/
theorem ofEncoded_exact :
    (∀ x y : Nat, (∃ key : PublicKey, key.x.val = x ∧ key.y.val = y) ↔
      x < fieldPrime ∧ y < fieldPrime ∧ y ^ 2 % fieldPrime = (x ^ 3 + 7) % fieldPrime) ∧
    (∀ (bs : Bytes) (key : PublicKey), ofEncoded bs = .ok key ↔
      key.point ≠ .infinity ∧ key.point.Valid ∧
        (bs = key.encoded ∨ bs = key.compressed ∨ bs = 5 :: key.xBytes ∧ key.y.val % 2 = 0)) ∧
    (∀ key : PublicKey, ofEncoded key.encoded = .ok key ∧ ofEncoded key.compressed = .ok key) ∧
    (∀ (x y : Bytes) (key : PublicKey), ofCoordinates x y = .ok key ↔
      Bytes.toNat x = key.x.val ∧ Bytes.toNat y = key.y.val) := by
  refine ⟨fun _ _ => exists_coordinates_iff, ?_, ?_, fun _ _ _ => ofCoordinates_eq_ok_iff⟩
  · intro bs key
    have hpoint : key.point ≠ .infinity := by
      intro h
      cases h
    rw [ofEncoded_eq_ok_iff]
    constructor
    · intro h
      refine ⟨hpoint, key.on_curve, ?_⟩
      cases h with
      | uncompressed => exact .inl rfl
      | compressed => exact .inr (.inl rfl)
      | compact heven => exact .inr (.inr ⟨rfl, heven⟩)
    · rintro ⟨_, _, rfl | rfl | ⟨rfl, heven⟩⟩
      · exact .uncompressed
      · exact .compressed
      · exact .compact heven
  · intro key
    exact ⟨key.ofEncoded_encoded, key.ofEncoded_compressed⟩

end PublicKey

/-! ### Private keys -/

namespace PrivateKey

theorem one_le_scalar (key : PrivateKey) : 1 ≤ key.scalar.val :=
  Nat.pos_of_ne_zero fun hzero => key.ne_zero (Fin.ext hzero)

theorem scalar_le (key : PrivateKey) : key.scalar.val ≤ groupOrder - 1 :=
  Nat.le_sub_one_of_lt key.scalar.isLt

/-- The value of the bytes decides, not how many zeros stand in front of it. -/
theorem ofBytes_eq_ok_iff {bs : Bytes} {key : PrivateKey} :
    ofBytes bs = .ok key ↔ Bytes.toNat bs = key.scalar.val := by
  have hbound : groupOrder < 256 ^ byteLength := by decide
  have hread : ofBytes bs = .ok key ↔ ofBytes? bs = some key := by
    unfold ofBytes
    cases ofBytes? bs with
    | none => exact iff_of_false (fun h => nomatch h) (fun h => nomatch h)
    | some found => rw [Except.ok.injEq, Option.some.injEq]
  rw [hread, ofBytes?, Bytes.fit?_eq]
  by_cases hlt : Bytes.toNat bs < 256 ^ byteLength
  · simp only [if_pos hlt, Option.bind_eq_bind, Option.bind_some, Option.bind_eq_some_iff,
      Bytes.toNat_ofNat_of_lt hlt, Scalar.ofNat?_eq_some_iff, ofScalar?_eq_some_iff]
    constructor
    · rintro ⟨scalar, hscalar, rfl⟩
      exact hscalar
    · intro hscalar
      exact ⟨key.scalar, hscalar, rfl⟩
  · rw [if_neg hlt]
    refine iff_of_false (fun h => nomatch h) fun hscalar => hlt ?_
    rw [hscalar]
    exact Nat.lt_trans key.scalar.isLt hbound

/-- The bytes of a private key are taken as that key. -/
theorem ofBytes_toBytes (key : PrivateKey) : ofBytes key.toBytes = .ok key :=
  ofBytes_eq_ok_iff.2
    (Bytes.toNat_ofNat_of_lt (Nat.lt_trans key.scalar.isLt (by decide)))

end PrivateKey
end DidKeys
