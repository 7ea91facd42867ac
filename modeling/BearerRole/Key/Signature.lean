import BearerRole.Digest.Sha256
import BearerRole.Digest.Sha512
import BearerRole.Key.PublicKey

/-!
Signatures by RSA with the padding of PKCS #1 v1.5. The message's digest, with the name of its algorithm, is
padded to the width of the modulus, and that whole block is compared with the signature's power.
-/

namespace BearerRole

set_option autoImplicit false

inductive Algorithm
  | rs256
  | rs384
  | rs512
  deriving Repr, DecidableEq

namespace Algorithm

def all : List Algorithm := [rs256, rs384, rs512]

def name : Algorithm → Text
  | rs256 => text "RS256"
  | rs384 => text "RS384"
  | rs512 => text "RS512"

def ofName? (t : Text) : Option Algorithm := all.find? (·.name == t)

def digest : Algorithm → Bytes → Bytes
  | rs256 => Sha256.digest
  | rs384 => Sha512.digest384
  | rs512 => Sha512.digest

def digestNumber : Algorithm → UInt8 × UInt8
  | rs256 => (1, 32)
  | rs384 => (2, 48)
  | rs512 => (3, 64)

def digestInfo (algorithm : Algorithm) (message : Bytes) : Bytes :=
  let (number, length) := algorithm.digestNumber
  [0x30, 17 + length, 0x30, 0x0D, 0x06, 0x09, 0x60, 0x86, 0x48, 0x01, 0x65, 0x03, 0x04, 0x02,
    number, 0x05, 0x00, 0x04, length] ++ algorithm.digest message

end Algorithm

namespace Signature

/-- The block that a valid signature's power equals: it needs at least eight bytes of padding. -/
def paddedBlock? (width : Nat) (info : Bytes) : Option Bytes :=
  if info.length + 11 ≤ width then
    some ([0x00, 0x01] ++ List.replicate (width - info.length - 3) 0xFF ++ [0x00] ++ info)
  else none

/-- The keys that can verify: an odd modulus of at most 16384 bits above the exponent, and above 3072 bits only
an exponent of at most 64. -/
def canVerify (key : RsaKey) : Bool :=
  key.modulus % 2 == 1 && key.exponent < key.modulus && key.size ≤ 16384 &&
    (key.size ≤ 3072 || key.exponent < 0x10000000000000000)

def verifies (key : RsaKey) (algorithm : Algorithm) (message signature : Bytes) : Bool :=
  match paddedBlock? key.width (algorithm.digestInfo message) with
  | none => false
  | some block =>
      canVerify key && signature.length == key.width && Bytes.toNat signature < key.modulus &&
        powMod (Bytes.toNat signature) key.exponent key.modulus == Bytes.toNat block

end Signature

end BearerRole
