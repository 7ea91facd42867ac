import BearerRole.Codec.Bytes

/-!
The digests SHA-512 and SHA-384: a message is padded to blocks of sixteen words of 64 bits, and the blocks are
folded into a state of eight words. SHA-384 starts from another state and keeps six words of the last one.
-/

namespace BearerRole.Sha512

set_option autoImplicit false

def rotate (x : UInt64) (n : UInt64) : UInt64 := (x >>> n) ||| (x <<< (64 - n))

structure State where
  a : UInt64
  b : UInt64
  c : UInt64
  d : UInt64
  e : UInt64
  f : UInt64
  g : UInt64
  h : UInt64
  deriving Repr, DecidableEq

namespace State

def add (s t : State) : State :=
  ⟨s.a + t.a, s.b + t.b, s.c + t.c, s.d + t.d, s.e + t.e, s.f + t.f, s.g + t.g, s.h + t.h⟩

def words (s : State) : List UInt64 := [s.a, s.b, s.c, s.d, s.e, s.f, s.g, s.h]

def round (s : State) (input : UInt64) : State :=
  let sum1 := rotate s.e 14 ^^^ rotate s.e 18 ^^^ rotate s.e 41
  let choice := (s.e &&& s.f) ^^^ (~~~s.e &&& s.g)
  let first := s.h + sum1 + choice + input
  let sum0 := rotate s.a 28 ^^^ rotate s.a 34 ^^^ rotate s.a 39
  let majority := (s.a &&& s.b) ^^^ (s.a &&& s.c) ^^^ (s.b &&& s.c)
  ⟨first + (sum0 + majority), s.a, s.b, s.c, s.d + first, s.e, s.f, s.g⟩

end State

/-- The fractions of the square roots of the first eight primes. -/
def initial512 : State :=
  ⟨0x6A09E667F3BCC908, 0xBB67AE8584CAA73B, 0x3C6EF372FE94F82B, 0xA54FF53A5F1D36F1,
    0x510E527FADE682D1, 0x9B05688C2B3E6C1F, 0x1F83D9ABFB41BD6B, 0x5BE0CD19137E2179⟩

/-- The fractions of the square roots of the ninth to sixteenth primes. -/
def initial384 : State :=
  ⟨0xCBBB9D5DC1059ED8, 0x629A292A367CD507, 0x9159015A3070DD17, 0x152FECD8F70E5939,
    0x67332667FFC00B31, 0x8EB44A8768581511, 0xDB0C2E0D64F98FA7, 0x47B5481DBEFA4FA4⟩

def constants : List UInt64 :=
  [
    0x428A2F98D728AE22, 0x7137449123EF65CD, 0xB5C0FBCFEC4D3B2F, 0xE9B5DBA58189DBBC,
    0x3956C25BF348B538, 0x59F111F1B605D019, 0x923F82A4AF194F9B, 0xAB1C5ED5DA6D8118,
    0xD807AA98A3030242, 0x12835B0145706FBE, 0x243185BE4EE4B28C, 0x550C7DC3D5FFB4E2,
    0x72BE5D74F27B896F, 0x80DEB1FE3B1696B1, 0x9BDC06A725C71235, 0xC19BF174CF692694,
    0xE49B69C19EF14AD2, 0xEFBE4786384F25E3, 0x0FC19DC68B8CD5B5, 0x240CA1CC77AC9C65,
    0x2DE92C6F592B0275, 0x4A7484AA6EA6E483, 0x5CB0A9DCBD41FBD4, 0x76F988DA831153B5,
    0x983E5152EE66DFAB, 0xA831C66D2DB43210, 0xB00327C898FB213F, 0xBF597FC7BEEF0EE4,
    0xC6E00BF33DA88FC2, 0xD5A79147930AA725, 0x06CA6351E003826F, 0x142929670A0E6E70,
    0x27B70A8546D22FFC, 0x2E1B21385C26C926, 0x4D2C6DFC5AC42AED, 0x53380D139D95B3DF,
    0x650A73548BAF63DE, 0x766A0ABB3C77B2A8, 0x81C2C92E47EDAEE6, 0x92722C851482353B,
    0xA2BFE8A14CF10364, 0xA81A664BBC423001, 0xC24B8B70D0F89791, 0xC76C51A30654BE30,
    0xD192E819D6EF5218, 0xD69906245565A910, 0xF40E35855771202A, 0x106AA07032BBD1B8,
    0x19A4C116B8D2D0C8, 0x1E376C085141AB53, 0x2748774CDF8EEB99, 0x34B0BCB5E19B48A8,
    0x391C0CB3C5C95A63, 0x4ED8AA4AE3418ACB, 0x5B9CCA4F7763E373, 0x682E6FF3D6B2B8A3,
    0x748F82EE5DEFB2FC, 0x78A5636F43172F60, 0x84C87814A1F0AB72, 0x8CC702081A6439EC,
    0x90BEFFFA23631E28, 0xA4506CEBDE82BDE9, 0xBEF9A3F7B2C67915, 0xC67178F2E372532B,
    0xCA273ECEEA26619C, 0xD186B8C721C0C207, 0xEADA7DD6CDE0EB1E, 0xF57D4F7FEE6ED178,
    0x06F067AA72176FBA, 0x0A637DC5A2C898A6, 0x113F9804BEF90DAE, 0x1B710B35131C471B,
    0x28DB77F523047D84, 0x32CAAB7B40C72493, 0x3C9EBE0A15C9BEBC, 0x431D67C49C100D4C,
    0x4CC5D4BECB3E42B6, 0x597F299CFC657E2A, 0x5FCB6FAB3AD6FAEC, 0x6C44198C4A475817 ]

def nextWord (latest : List UInt64) : UInt64 :=
  let back (k : Nat) : UInt64 := latest.getD (k - 1) 0
  let small0 := rotate (back 15) 1 ^^^ rotate (back 15) 8 ^^^ (back 15 >>> 7)
  let small1 := rotate (back 2) 19 ^^^ rotate (back 2) 61 ^^^ (back 2 >>> 6)
  back 16 + small0 + back 7 + small1

def extend : Nat → List UInt64 → List UInt64
  | 0, latest => latest
  | n + 1, latest => extend n (nextWord latest :: latest)

def schedule (block : List UInt64) : List UInt64 := (extend 64 block.reverse).reverse

def compress (s : State) (block : List UInt64) : State :=
  s.add ((List.zipWith (· + ·) constants (schedule block)).foldl State.round s)

def pad (message : Bytes) : Bytes :=
  message ++ 0x80 :: List.replicate ((239 - message.length % 128) % 128) 0 ++
    Bytes.ofNat 16 (8 * message.length)

def words : Bytes → List UInt64
  | a :: b :: c :: d :: e :: f :: g :: h :: rest =>
      (a.toUInt64 <<< 56 ||| b.toUInt64 <<< 48 ||| c.toUInt64 <<< 40 ||| d.toUInt64 <<< 32 |||
        e.toUInt64 <<< 24 ||| f.toUInt64 <<< 16 ||| g.toUInt64 <<< 8 ||| h.toUInt64) :: words rest
  | _ => []

def absorb : Nat → State → List UInt64 → State
  | 0, s, _ => s
  | n + 1, s, input => absorb n (compress s (input.take 16)) (input.drop 16)

def digestFrom (initial : State) (message : Bytes) : Bytes :=
  let input := words (pad message)
  (absorb (input.length / 16) initial input).words.flatMap fun w => Bytes.ofNat 8 w.toNat

def digest (message : Bytes) : Bytes := digestFrom initial512 message

def digest384 (message : Bytes) : Bytes := (digestFrom initial384 message).take 48

end BearerRole.Sha512
