import DidKeys.Curve.Point
import DidKeys.Text.Decimal

/-! # What can be wrong with a key or a signature

Each cause is a constructor; `message` is the only place that words it.  A message tells the shape
of the problem and never the bytes. -/

namespace DidKeys

/-- Why bytes do not describe a point of the curve. -/
inductive PointError where
  /-- The first coordinate needs more than 32 bytes. -/
  | xTooWide
  /-- The second coordinate needs more than 32 bytes. -/
  | yTooWide
  /-- The coordinates do not satisfy the equation of the curve. -/
  | offCurve
  /-- This many bytes are no encoding of a point. -/
  | notEncoded (length : Nat)
  deriving DecidableEq, Repr

/-- Why a key or a signature is refused. -/
inductive KeyError where
  /-- A private key is zero, too large or too wide. -/
  | privateKeyRange
  /-- A public key is no point of the curve. -/
  | publicKey (cause : PointError)
  /-- A signature is neither of fixed width nor in the distinguished encoding. -/
  | signatureEncoding
  /-- A tweak is too large, or leads to zero or to infinity. -/
  | tweak
  deriving DecidableEq, Repr

/-- The text of a cause. -/
def PointError.message : PointError → String
  | .xTooWide => "x coordinate too wide"
  | .yTooWide => "y coordinate too wide"
  | .offCurve => "point is not on the curve"
  | .notEncoded length => Decimal.text length ++ " bytes is not a SEC1 point on " ++ curveName

/-- The text of a cause. -/
def KeyError.message : KeyError → String
  | .privateKeyRange => "invalid private key: not a scalar in [1, n-1]"
  | .publicKey cause => "invalid public key encoding: " ++ cause.message
  | .signatureEncoding => "invalid signature encoding"
  | .tweak => "derived key is invalid"

end DidKeys
