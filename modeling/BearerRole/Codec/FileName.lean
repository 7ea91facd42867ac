import BearerRole.Codec.Utf8

/-!
The form in which names reach the operating system, which knows bytes only. A byte that is no part of UTF-8 is shown as
a surrogate from U+DC80 to U+DCFF that holds its number, and is written back as that byte.
-/

namespace BearerRole.FileName

set_option autoImplicit false

/-- The bytes of a name. Other surrogates have none. -/
def encode? (t : Text) : Option Bytes :=
  (t.mapM fun c =>
    if 0xDC80 ≤ c ∧ c ≤ 0xDCFF then some [UInt8.ofNat (c - 0xDC00)]
    else if Text.isSurrogate c then none
    else some (Utf8.encodePoint c)).map List.flatten

def ofByte (b : UInt8) : CodePoint := if b < 0x80 then b.toNat else 0xDC00 + b.toNat

/-- The text of bytes: each longest piece that is UTF-8 as what it writes, all other bytes one by one. -/
def decode : Bytes → Text
  | a :: b :: c :: d :: rest =>
      if a < 0x80 then a.toNat :: decode (b :: c :: d :: rest)
      else match Utf8.pair? a b, Utf8.triple? false a b c, Utf8.quadruple? a b c d with
        | some point, _, _ => point :: decode (c :: d :: rest)
        | none, some point, _ => point :: decode (d :: rest)
        | none, none, some point => point :: decode rest
        | none, none, none => ofByte a :: decode (b :: c :: d :: rest)
  | [a, b, c] =>
      match Utf8.pair? a b, Utf8.triple? false a b c with
      | some point, _ => [point, ofByte c]
      | none, some point => [point]
      | none, none => ofByte a :: decode [b, c]
  | [a, b] =>
      match Utf8.pair? a b with
      | some point => [point]
      | none => [ofByte a, ofByte b]
  | [a] => [ofByte a]
  | [] => []

end BearerRole.FileName
