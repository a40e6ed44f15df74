import DidKeys.Signature.Basic

/-! # The distinguished encoding of signatures

A signature is a sequence of two integers, each part with its tag, its length and its content.

* Lengths are written in one byte, which is below 128: the longest signature has 70 bytes of
  content, and a longer spelling of a short length is not distinguished.
* An integer has the fewest bytes that its value and a sign bit of zero allow.
* Both integers have to be scalars other than zero.

So each signature has one encoding, and only encodings are read. -/

namespace DidKeys.Der

/-- A tag, a length and a content. -/
def item (tag : UInt8) (content : Bytes) : Bytes := tag :: UInt8.ofNat content.length :: content

/-- The content of an integer: no zeros in front, but for one above a set top bit. -/
def integerContent (v : Nat) : Bytes :=
  match (Bytes.ofNat 32 v).dropWhile (· == 0) with
  | [] => [0]
  | top :: rest => if top < 128 then top :: rest else 0 :: top :: rest

/-- The encoding of a signature, whose numbers have to be scalars other than zero. -/
def encode (sig : Signature) : Except KeyError Bytes :=
  match sig.scalars? with
  | some (r, s) =>
    .ok (item 0x30 (item 0x02 (integerContent r.val) ++ item 0x02 (integerContent s.val)))
  | none => .error .signatureEncoding

/-- Splits an item with the wanted tag off: its content and what follows it. -/
def takeItem? (tag : UInt8) : Bytes → Option (Bytes × Bytes)
  | t :: length :: rest =>
    if t = tag ∧ length < 128 ∧ length.toNat ≤ rest.length then
      some (rest.take length.toNat, rest.drop length.toNat)
    else none
  | _ => none

/-- The value of the content of an integer that is not negative, spelled with the fewest bytes. -/
def integerValue? : Bytes → Option Nat
  | [] => none
  | [b] => if b < 128 then some b.toNat else none
  | 0 :: b :: rest => if b < 128 then none else some (Bytes.toNat (b :: rest))
  | b :: rest => if b < 128 then some (Bytes.toNat (b :: rest)) else none

/-- The scalar other than zero that the content of an integer spells. -/
def unit? (content : Bytes) : Option Scalar := do
  Signature.unit? (← integerValue? content)

/-- The signature that bytes encode. -/
def decode? (bs : Bytes) : Option Signature := do
  let (body, rest) ← takeItem? 0x30 bs
  guard (rest = [])
  let (r, body) ← takeItem? 0x02 body
  let (s, body) ← takeItem? 0x02 body
  guard (body = [])
  return .ofScalars (← unit? r) (← unit? s)

/-- As `decode?`, with the reason for a refusal. -/
def decode (bs : Bytes) : Except KeyError Signature :=
  match decode? bs with
  | some sig => .ok sig
  | none => .error .signatureEncoding

end DidKeys.Der
