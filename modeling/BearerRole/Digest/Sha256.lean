import BearerRole.Codec.Bytes

/-!
The digest SHA-256: a message is padded to blocks of sixteen words of 32 bits, and the blocks are folded into a
state of eight words.
-/

namespace BearerRole.Sha256

set_option autoImplicit false

def rotate (x : UInt32) (n : UInt32) : UInt32 := (x >>> n) ||| (x <<< (32 - n))

structure State where
  a : UInt32
  b : UInt32
  c : UInt32
  d : UInt32
  e : UInt32
  f : UInt32
  g : UInt32
  h : UInt32
  deriving Repr, DecidableEq

namespace State

def add (s t : State) : State :=
  ⟨s.a + t.a, s.b + t.b, s.c + t.c, s.d + t.d, s.e + t.e, s.f + t.f, s.g + t.g, s.h + t.h⟩

def words (s : State) : List UInt32 := [s.a, s.b, s.c, s.d, s.e, s.f, s.g, s.h]

def round (s : State) (input : UInt32) : State :=
  let sum1 := rotate s.e 6 ^^^ rotate s.e 11 ^^^ rotate s.e 25
  let choice := (s.e &&& s.f) ^^^ (~~~s.e &&& s.g)
  let first := s.h + sum1 + choice + input
  let sum0 := rotate s.a 2 ^^^ rotate s.a 13 ^^^ rotate s.a 22
  let majority := (s.a &&& s.b) ^^^ (s.a &&& s.c) ^^^ (s.b &&& s.c)
  ⟨first + (sum0 + majority), s.a, s.b, s.c, s.d + first, s.e, s.f, s.g⟩

end State

/-- The fractions of the square roots of the first eight primes. -/
def initial : State :=
  ⟨0x6A09E667, 0xBB67AE85, 0x3C6EF372, 0xA54FF53A,
    0x510E527F, 0x9B05688C, 0x1F83D9AB, 0x5BE0CD19⟩

/-- The fractions of the cube roots of the first sixty-four primes. -/
def constants : List UInt32 :=
  [
    0x428A2F98, 0x71374491, 0xB5C0FBCF, 0xE9B5DBA5, 0x3956C25B, 0x59F111F1, 0x923F82A4, 0xAB1C5ED5,
    0xD807AA98, 0x12835B01, 0x243185BE, 0x550C7DC3, 0x72BE5D74, 0x80DEB1FE, 0x9BDC06A7, 0xC19BF174,
    0xE49B69C1, 0xEFBE4786, 0x0FC19DC6, 0x240CA1CC, 0x2DE92C6F, 0x4A7484AA, 0x5CB0A9DC, 0x76F988DA,
    0x983E5152, 0xA831C66D, 0xB00327C8, 0xBF597FC7, 0xC6E00BF3, 0xD5A79147, 0x06CA6351, 0x14292967,
    0x27B70A85, 0x2E1B2138, 0x4D2C6DFC, 0x53380D13, 0x650A7354, 0x766A0ABB, 0x81C2C92E, 0x92722C85,
    0xA2BFE8A1, 0xA81A664B, 0xC24B8B70, 0xC76C51A3, 0xD192E819, 0xD6990624, 0xF40E3585, 0x106AA070,
    0x19A4C116, 0x1E376C08, 0x2748774C, 0x34B0BCB5, 0x391C0CB3, 0x4ED8AA4A, 0x5B9CCA4F, 0x682E6FF3,
    0x748F82EE, 0x78A5636F, 0x84C87814, 0x8CC70208, 0x90BEFFFA, 0xA4506CEB, 0xBEF9A3F7, 0xC67178F2 ]

/-- The next schedule word, from the last sixteen, latest first. -/
def nextWord (latest : List UInt32) : UInt32 :=
  let back (k : Nat) : UInt32 := latest.getD (k - 1) 0
  let small0 := rotate (back 15) 7 ^^^ rotate (back 15) 18 ^^^ (back 15 >>> 3)
  let small1 := rotate (back 2) 17 ^^^ rotate (back 2) 19 ^^^ (back 2 >>> 10)
  back 16 + small0 + back 7 + small1

def extend : Nat → List UInt32 → List UInt32
  | 0, latest => latest
  | n + 1, latest => extend n (nextWord latest :: latest)

def schedule (block : List UInt32) : List UInt32 := (extend 48 block.reverse).reverse

def compress (s : State) (block : List UInt32) : State :=
  s.add ((List.zipWith (· + ·) constants (schedule block)).foldl State.round s)

/-- A one bit, zeros, and the length in bits fill the last block. -/
def pad (message : Bytes) : Bytes :=
  message ++ 0x80 :: List.replicate ((119 - message.length % 64) % 64) 0 ++
    Bytes.ofNat 8 (8 * message.length)

def words : Bytes → List UInt32
  | a :: b :: c :: d :: rest =>
      (a.toUInt32 <<< 24 ||| b.toUInt32 <<< 16 ||| c.toUInt32 <<< 8 ||| d.toUInt32) :: words rest
  | _ => []

def absorb : Nat → State → List UInt32 → State
  | 0, s, _ => s
  | n + 1, s, input => absorb n (compress s (input.take 16)) (input.drop 16)

def digest (message : Bytes) : Bytes :=
  let input := words (pad message)
  (absorb (input.length / 16) initial input).words.flatMap fun w => Bytes.ofNat 4 w.toNat

end BearerRole.Sha256
