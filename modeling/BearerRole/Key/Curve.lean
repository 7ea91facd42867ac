import BearerRole.Codec.Bytes

/-!
The elliptic curves whose public keys are recognised, each `y² = x³ + a·x + b` over a prime field, and the test
whether bytes write a point of a curve.
-/

namespace BearerRole

set_option autoImplicit false

def powMod (b e m : Nat) : Nat :=
  if e = 0 then 1 % m
  else
    let half := powMod (b * b % m) (e / 2) m
    if e % 2 = 1 then b * half % m else half

/-- The object identifier of a curve is held as its encoded bytes. -/
structure Curve where
  oid : Bytes
  p : Nat
  a : Nat
  b : Nat
  deriving Repr, DecidableEq

namespace Curve

def p192 : Curve where
  oid := [0x2A, 0x86, 0x48, 0xCE, 0x3D, 0x03, 0x01, 0x01]
  p := 0xFFFFFFFFFFFFFFFFFFFFFFFFFFFFFFFEFFFFFFFFFFFFFFFF
  a := 0xFFFFFFFFFFFFFFFFFFFFFFFFFFFFFFFEFFFFFFFFFFFFFFFC
  b := 0x64210519E59C80E70FA7E9AB72243049FEB8DEECC146B9B1

def p224 : Curve where
  oid := [0x2B, 0x81, 0x04, 0x00, 0x21]
  p := 0xFFFFFFFFFFFFFFFFFFFFFFFFFFFFFFFF000000000000000000000001
  a := 0xFFFFFFFFFFFFFFFFFFFFFFFFFFFFFFFEFFFFFFFFFFFFFFFFFFFFFFFE
  b := 0xB4050A850C04B3ABF54132565044B0B7D7BFD8BA270B39432355FFB4

def p256 : Curve where
  oid := [0x2A, 0x86, 0x48, 0xCE, 0x3D, 0x03, 0x01, 0x07]
  p := 0xFFFFFFFF00000001000000000000000000000000FFFFFFFFFFFFFFFFFFFFFFFF
  a := 0xFFFFFFFF00000001000000000000000000000000FFFFFFFFFFFFFFFFFFFFFFFC
  b := 0x5AC635D8AA3A93E7B3EBBD55769886BC651D06B0CC53B0F63BCE3C3E27D2604B

def p384 : Curve where
  oid := [0x2B, 0x81, 0x04, 0x00, 0x22]
  p := 0xFFFFFFFFFFFFFFFFFFFFFFFFFFFFFFFFFFFFFFFFFFFFFFFFFFFFFFFFFFFFFFFEFFFFFFFF0000000000000000FFFFFFFF
  a := 0xFFFFFFFFFFFFFFFFFFFFFFFFFFFFFFFFFFFFFFFFFFFFFFFFFFFFFFFFFFFFFFFEFFFFFFFF0000000000000000FFFFFFFC
  b := 0xB3312FA7E23EE7E4988E056BE3F82D19181D9C6EFE8141120314088F5013875AC656398D8A2ED19D2A85C8EDD3EC2AEF

def p521 : Curve where
  oid := [0x2B, 0x81, 0x04, 0x00, 0x23]
  p := 0x1FFFFFFFFFFFFFFFFFFFFFFFFFFFFFFFFFFFFFFFFFFFFFFFFFFFFFFFFFFFFFFFFFFFFFFFFFFFFFFFFFFFFFFFFFFFFFFFFFFFFFFFFFFFFFFFFFFFFFFFFFFFFFFFFFF
  a := 0x1FFFFFFFFFFFFFFFFFFFFFFFFFFFFFFFFFFFFFFFFFFFFFFFFFFFFFFFFFFFFFFFFFFFFFFFFFFFFFFFFFFFFFFFFFFFFFFFFFFFFFFFFFFFFFFFFFFFFFFFFFFFFFFFFFC
  b := 0x51953EB9618E1C9A1F929A21A0B68540EEA2DA725B99B315F3B8B489918EF109E156193951EC7E937B1652C0BD3BB1BF073573DF883D2C34F1EF451FD46B503F00

def secp256k1 : Curve where
  oid := [0x2B, 0x81, 0x04, 0x00, 0x0A]
  p := 0xFFFFFFFFFFFFFFFFFFFFFFFFFFFFFFFFFFFFFFFFFFFFFFFFFFFFFFFEFFFFFC2F
  a := 0x0
  b := 0x7

def brainpool256 : Curve where
  oid := [0x2B, 0x24, 0x03, 0x03, 0x02, 0x08, 0x01, 0x01, 0x07]
  p := 0xA9FB57DBA1EEA9BC3E660A909D838D726E3BF623D52620282013481D1F6E5377
  a := 0x7D5A0975FC2C3057EEF67530417AFFE7FB8055C126DC5C6CE94A4B44F330B5D9
  b := 0x26DC5C6CE94A4B44F330B5D9BBD77CBF958416295CF7E1CE6BCCDC18FF8C07B6

def brainpool384 : Curve where
  oid := [0x2B, 0x24, 0x03, 0x03, 0x02, 0x08, 0x01, 0x01, 0x0B]
  p := 0x8CB91E82A3386D280F5D6F7E50E641DF152F7109ED5456B412B1DA197FB71123ACD3A729901D1A71874700133107EC53
  a := 0x7BC382C63D8C150C3C72080ACE05AFA0C2BEA28E4FB22787139165EFBA91F90F8AA5814A503AD4EB04A8C7DD22CE2826
  b := 0x4A8C7DD22CE28268B39B55416F0447C2FB77DE107DCD2A62E880EA53EEB62D57CB4390295DBC9943AB78696FA504C11

def brainpool512 : Curve where
  oid := [0x2B, 0x24, 0x03, 0x03, 0x02, 0x08, 0x01, 0x01, 0x0D]
  p := 0xAADD9DB8DBE9C48B3FD4E6AE33C9FC07CB308DB3B3C9D20ED6639CCA703308717D4D9B009BC66842AECDA12AE6A380E62881FF2F2D82C68528AA6056583A48F3
  a := 0x7830A3318B603B89E2327145AC234CC594CBDD8D3DF91610A83441CAEA9863BC2DED5D5AA8253AA10A2EF1C98B9AC8B57F1117A72BF2C7B9E7C1AC4D77FC94CA
  b := 0x3DF91610A83441CAEA9863BC2DED5D5AA8253AA10A2EF1C98B9AC8B57F1117A72BF2C7B9E7C1AC4D77FC94CADC083E67984050B75EBAE5DD2809BD638016F723

def known : List Curve :=
  [p192, p224, p256, p384, p521, secp256k1, brainpool256, brainpool384, brainpool512]

def width (curve : Curve) : Nat := (curve.p.log2 + 8) / 8

def rightSide (curve : Curve) (x : Nat) : Nat :=
  (x * x * x + curve.a * x + curve.b) % curve.p

/-- Whether a compressed point exists: the right-hand side has a square root, and a root of zero is even. -/
def hasRoot (curve : Curve) (x : Nat) (odd : Bool) : Bool :=
  let r := curve.rightSide x
  if r = 0 then !odd else powMod r ((curve.p - 1) / 2) curve.p == 1

def isPoint (curve : Curve) (x y : Nat) : Bool :=
  x < curve.p && y < curve.p && y * y % curve.p == curve.rightSide x

/-- Whether bytes write a point other than the one at infinity: in full, compressed, or in the mixed form
that has both the second coordinate and its parity. -/
def holds (curve : Curve) : Bytes → Bool
  | [] => false
  | form :: rest =>
      let x := Bytes.toNat (rest.take curve.width)
      let y := Bytes.toNat (rest.drop curve.width)
      if form = 2 ∨ form = 3 then
        rest.length == curve.width && x < curve.p && curve.hasRoot x (form = 3)
      else if form = 4 then rest.length == 2 * curve.width && curve.isPoint x y
      else if form = 6 ∨ form = 7 then
        rest.length == 2 * curve.width && curve.isPoint x y && (y % 2 == 1) == (form = 7)
      else false

end Curve

end BearerRole
