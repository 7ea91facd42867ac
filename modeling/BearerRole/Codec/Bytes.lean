import BearerRole.Text.Basic

/-!
Byte strings, and the numbers that they write in big-endian order.
-/

namespace BearerRole

set_option autoImplicit false

abbrev Bytes := List UInt8

namespace Bytes

/-- The number whose digits to base 256 are the bytes, most significant first. -/
def toNat (bytes : Bytes) : Nat := bytes.foldl (fun n b => 256 * n + b.toNat) 0

def ofNat : Nat → Nat → Bytes
  | 0, _ => []
  | width + 1, n => ofNat width (n / 256) ++ [UInt8.ofNat (n % 256)]

def hex (bytes : Bytes) : Text :=
  bytes.flatMap fun b => [Text.digit (b.toNat / 16), Text.digit (b.toNat % 16)]

def latin1 (bytes : Bytes) : Text := bytes.map UInt8.toNat

end Bytes

end BearerRole
