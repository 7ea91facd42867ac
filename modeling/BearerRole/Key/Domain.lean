import BearerRole.Key.Curve
import BearerRole.Key.Der

/-!
Explicit parameters of a curve. Instead of naming its curve a key may write out field, equation, base point and order;
that is taken where they are exactly those of one of three curves.
-/

namespace BearerRole

set_option autoImplicit false

/-- What a curve's explicit parameters have beyond its equation: the seed of its choice, the base point in full, and
the order of that point. -/
structure Domain where
  curve : Curve
  seed : Nat
  baseX : Nat
  baseY : Nat
  order : Nat
  deriving Repr, DecidableEq

namespace Domain

def p256 : Domain where
  curve := .p256
  seed := 0xC49D360886E704936A6678E1139D26B7819F7E90
  baseX := 0x6B17D1F2E12C4247F8BCE6E563A440F277037D812DEB33A0F4A13945D898C296
  baseY := 0x4FE342E2FE1A7F9B8EE7EB4A7C0F9E162BCE33576B315ECECBB6406837BF51F5
  order := 0xFFFFFFFF00000000FFFFFFFFFFFFFFFFBCE6FAADA7179E84F3B9CAC2FC632551

def p384 : Domain where
  curve := .p384
  seed := 0xA335926AA319A27A1D00896A6773A4827ACDAC73
  baseX := 0xAA87CA22BE8B05378EB1C71EF320AD746E1D3B628BA79B9859F741E082542A385502F25DBF55296C3A545E3872760AB7
  baseY := 0x3617DE4A96262C6F5D9E98BF9292DC29F8F41DBD289A147CE9DA3113B5F0B8C00A60B1CE1D7E819D7A431D7C90EA0E5F
  order := 0xFFFFFFFFFFFFFFFFFFFFFFFFFFFFFFFFFFFFFFFFFFFFFFFFC7634D81F4372DDF581A0DB248B0A77AECEC196ACCC52973

def p521 : Domain where
  curve := .p521
  seed := 0xD09E8800291CB85396CC6717393284AAA0DA64BA
  baseX := 0xC6858E06B70404E9CD9E3ECB662395B4429C648139053FB521F828AF606B4D3DBAA14B5E77EFE75928FE1DC127A2FFA8DE3348B3C1856A429BF97E7E31C2E5BD66
  baseY := 0x11839296A789A3BC0045C8A5FB42C7D1BD998F54449579B446817AFBD17273E662C97EE72995EF42640C550B9013FAD0761353C7086A272C24088BE94769FD16650
  order := 0x1FFFFFFFFFFFFFFFFFFFFFFFFFFFFFFFFFFFFFFFFFFFFFFFFFFFFFFFFFFFFFFFFFFA51868783BF2F966B7FCC0148F709A5D03BB5C9B8899C47AEBB6FB71E91386409

def all : List Domain := [p256, p384, p521]

def primeFieldOid : Bytes := [0x2A, 0x86, 0x48, 0xCE, 0x3D, 0x01, 0x01]

def sequence (members : List Der.Element) : Der.Element :=
  ⟨Der.sequenceTag, members.flatMap Der.Element.encode⟩

def element (d : Domain) (hasSeed : Bool) : Der.Element :=
  let width := d.curve.width
  let octets (bytes : Bytes) : Der.Element := ⟨Der.octetStringTag, bytes⟩
  sequence
    [.natural 1, sequence [⟨Der.oidTag, primeFieldOid⟩, .natural d.curve.p],
      sequence ([octets (Bytes.ofNat width d.curve.a), octets (Bytes.ofNat width d.curve.b)] ++
        if hasSeed then [Der.bitString (Bytes.ofNat 20 d.seed)] else []),
      octets (4 :: (Bytes.ofNat width d.baseX ++ Bytes.ofNat width d.baseY)),
      .natural d.order, .natural 1]

def curve? (e : Der.Element) : Option Curve :=
  (all.find? fun d => e = d.element true ∨ e = d.element false).map Domain.curve

end Domain

end BearerRole
