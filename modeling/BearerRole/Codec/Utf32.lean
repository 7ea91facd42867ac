import BearerRole.Codec.Bytes

/-!
Reading UTF-32. Surrogates are kept; a number above the last code point is refused.
-/

namespace BearerRole.Utf32

set_option autoImplicit false

def decode (bigEndian : Bool) : Bytes → Option Text
  | [] => some []
  | a :: b :: c :: d :: rest =>
      let point := if bigEndian then Bytes.toNat [a, b, c, d] else Bytes.toNat [d, c, b, a]
      if point < 0x110000 then (decode bigEndian rest).map (point :: ·) else none
  | _ => none

end BearerRole.Utf32
