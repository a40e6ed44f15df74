import DidKeys.Bytes.Hex
import DidKeys.Key.Error

/-! # Public keys

A public key is a point of the curve other than the one at infinity; both facts are part of the
type, so every way to get one passes through `ofPoint?` or the check in `ofCoordinates`.

* `encoded` is the form of 65 bytes: `04`, then both coordinates.
* `compressed` is the form of 33 bytes: `02` or `03` for an even or odd second coordinate, then the
  first coordinate.
* `ofEncoded` reads both, and also `05` followed by the first coordinate of a point whose second
  coordinate is even. -/

namespace DidKeys

/-- A point of the curve, not at infinity. -/
structure PublicKey where
  x : Coord
  y : Coord
  on_curve : OnCurve x y
  deriving DecidableEq

namespace PublicKey

/-- The bytes of a coordinate. -/
abbrev coordinateLength : Nat := 32

/-- The bytes of the uncompressed form. -/
abbrev encodedLength : Nat := 1 + 2 * coordinateLength

/-- The bytes of the compressed form. -/
abbrev compressedLength : Nat := 1 + coordinateLength

/-- The point that a key is. -/
def point (key : PublicKey) : Point := .affine key.x key.y

/-- The key that a point is, unless it is at infinity. -/
def ofPoint? : Point → Option PublicKey
  | .infinity => none
  | .affine x y => if h : OnCurve x y then some ⟨x, y, h⟩ else none

@[simp] theorem ofPoint?_point (key : PublicKey) : ofPoint? key.point = some key := by
  simp [ofPoint?, point, key.on_curve]

/-! ### Writing -/

/-- The first coordinate, 32 bytes. -/
def xBytes (key : PublicKey) : Bytes := Bytes.ofNat coordinateLength key.x.val

/-- The second coordinate, 32 bytes. -/
def yBytes (key : PublicKey) : Bytes := Bytes.ofNat coordinateLength key.y.val

/-- The uncompressed form, 65 bytes. -/
def encoded (key : PublicKey) : Bytes := 4 :: key.xBytes ++ key.yBytes

/-- The compressed form, 33 bytes. -/
def compressed (key : PublicKey) : Bytes := UInt8.ofNat (2 + key.y.val % 2) :: key.xBytes

/-- The uncompressed form in hexadecimal. -/
def hex (key : PublicKey) : String := Hex.encode key.encoded

/-- The diagnostic form: the first nine bytes of the uncompressed form. -/
def describe (key : PublicKey) : String :=
  "PublicKey(" ++ Hex.encode (key.encoded.take 9) ++ "...)"

@[simp] theorem length_encoded (key : PublicKey) : key.encoded.length = encodedLength := by
  simp [encoded, xBytes, yBytes, encodedLength, coordinateLength]

@[simp] theorem length_compressed (key : PublicKey) : key.compressed.length = compressedLength := by
  simp [compressed, xBytes, compressedLength, coordinateLength]

/-! ### Reading -/

/-- The key with the given coordinates. -/
def ofCoords? (x y : Nat) : Option PublicKey := do
  ofPoint? (.affine (← Coord.ofNat? x) (← Coord.ofNat? y))

/-- The key with the given first coordinate and parity of the second one. -/
def ofX? (x : Nat) (odd : Bool) : Option PublicKey := do
  let x ← Coord.ofNat? x
  ofPoint? (.affine x (← liftX? x odd))

/-- The key with the given coordinates, as numbers of any width. -/
def ofCoordinates (x y : Bytes) : Except KeyError PublicKey :=
  match Bytes.fit? coordinateLength x, Bytes.fit? coordinateLength y with
  | none, _ => .error (.publicKey .xTooWide)
  | some _, none => .error (.publicKey .yTooWide)
  | some x, some y =>
    match ofCoords? (Bytes.toNat x) (Bytes.toNat y) with
    | some key => .ok key
    | none => .error (.publicKey .offCurve)

/-- The key with the given encoding, if it has the form of one. -/
def ofEncoded? : Bytes → Option PublicKey
  | tag :: body =>
    if tag = 4 ∧ body.length = 64 then
      ofCoords? (Bytes.toNat (body.take 32)) (Bytes.toNat (body.drop 32))
    else if (tag = 2 ∨ tag = 3 ∨ tag = 5) ∧ body.length = 32 then
      ofX? (Bytes.toNat body) (tag = 3)
    else none
  | [] => none

/-- The key with the given encoding. -/
def ofEncoded (bs : Bytes) : Except KeyError PublicKey :=
  match ofEncoded? bs with
  | some key => .ok key
  | none => .error (.publicKey (.notEncoded bs.length))

/-! ### Tweaking -/

/-- The key plus `tweak` times the generator; the tweak has to be a scalar and the sum a key. -/
def tweak (key : PublicKey) (tweak : Nat) : Except KeyError PublicKey :=
  match Scalar.ofNat? tweak with
  | none => .error .tweak
  | some t =>
    match ofPoint? ((Point.smul t.val .generator).add key.point) with
    | some child => .ok child
    | none => .error .tweak

end PublicKey
end DidKeys
