import BearerRole.Codec.Bytes

/-!
Reading UTF-16. A high unit and the low unit after it make one code point; a unit that stands alone is kept.
-/

namespace BearerRole.Utf16

set_option autoImplicit false

def units? (bigEndian : Bool) : Bytes → Option (List Nat)
  | [] => some []
  | [_] => none
  | a :: b :: rest =>
      let unit := if bigEndian then 256 * a.toNat + b.toNat else 256 * b.toNat + a.toNat
      (units? bigEndian rest).map (unit :: ·)

def isHigh (unit : Nat) : Bool := 0xD800 ≤ unit && unit < 0xDC00

def isLow (unit : Nat) : Bool := 0xDC00 ≤ unit && unit < 0xE000

def joinPair (high low : Nat) : CodePoint := 0x10000 + (high - 0xD800) * 1024 + (low - 0xDC00)

def points : List Nat → Text
  | [] => []
  | [unit] => [unit]
  | high :: low :: rest =>
      if isHigh high && isLow low then joinPair high low :: points rest
      else high :: points (low :: rest)

def decode (bigEndian : Bool) (bytes : Bytes) : Option Text := (units? bigEndian bytes).map points

end BearerRole.Utf16
