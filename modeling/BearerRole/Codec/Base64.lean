import BearerRole.Codec.Bytes

/-!
Base64 in its two alphabets. Reading is exact: the bits that a last group leaves over are zero, so each byte
string has one unpadded form. The form of a token segment may carry its padding when that fills it up to a
multiple of four; the form inside a key file must.
-/

namespace BearerRole.Base64

set_option autoImplicit false

inductive Alphabet
  | standard
  | url
  deriving Repr, DecidableEq

namespace Alphabet

def char62 : Alphabet → CodePoint
  | standard => 43
  | url => 45

def char63 : Alphabet → CodePoint
  | standard => 47
  | url => 95

def char (alphabet : Alphabet) (value : Nat) : CodePoint :=
  if value < 26 then 65 + value
  else if value < 52 then 97 + (value - 26)
  else if value < 62 then 48 + (value - 52)
  else if value = 62 then alphabet.char62
  else alphabet.char63

def value? (alphabet : Alphabet) (c : CodePoint) : Option Nat :=
  if 65 ≤ c ∧ c ≤ 90 then some (c - 65)
  else if 97 ≤ c ∧ c ≤ 122 then some (c - 97 + 26)
  else if 48 ≤ c ∧ c ≤ 57 then some (c - 48 + 52)
  else if c = alphabet.char62 then some 62
  else if c = alphabet.char63 then some 63
  else none

end Alphabet

def encode (alphabet : Alphabet) : Bytes → Text
  | [] => []
  | [a] => [alphabet.char (a.toNat / 4), alphabet.char (a.toNat % 4 * 16)]
  | [a, b] =>
      [alphabet.char (a.toNat / 4), alphabet.char (a.toNat % 4 * 16 + b.toNat / 16),
        alphabet.char (b.toNat % 16 * 4)]
  | a :: b :: c :: rest =>
      alphabet.char (a.toNat / 4) :: alphabet.char (a.toNat % 4 * 16 + b.toNat / 16) ::
        alphabet.char (b.toNat % 16 * 4 + c.toNat / 64) :: alphabet.char (c.toNat % 64) ::
        encode alphabet rest

def pack : List Nat → Option Bytes
  | [] => some []
  | [_] => none
  | [p, q] => if q % 16 = 0 then some [UInt8.ofNat (p * 4 + q / 16)] else none
  | [p, q, r] =>
      if r % 4 = 0 then
        some [UInt8.ofNat (p * 4 + q / 16), UInt8.ofNat (q % 16 * 16 + r / 4)]
      else none
  | p :: q :: r :: s :: rest =>
      (pack rest).map fun bytes =>
        UInt8.ofNat (p * 4 + q / 16) :: UInt8.ofNat (q % 16 * 16 + r / 4) ::
          UInt8.ofNat (r % 4 * 64 + s) :: bytes

def decode (alphabet : Alphabet) (t : Text) : Option Bytes := do
  let values ← t.mapM alphabet.value?
  pack values

def dropPadding (t : Text) : Text :=
  match t.reverse with
  | 61 :: 61 :: rest => rest.reverse
  | 61 :: rest => rest.reverse
  | _ => t

/-- Reads the form of a token segment: padded to a multiple of four, or not padded at all. -/
def decodeSegment (t : Text) : Option Bytes :=
  decode .url (if t.length % 4 = 0 then dropPadding t else t)

def decodePadded (t : Text) : Option Bytes :=
  if t.length % 4 = 0 then decode .standard (dropPadding t) else none

def encodePadded (alphabet : Alphabet) (bytes : Bytes) : Text :=
  let t := encode alphabet bytes
  t ++ List.replicate ((4 - t.length % 4) % 4) 61

end BearerRole.Base64
