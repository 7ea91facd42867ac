import BearerRole.Key.AlgorithmIdentifier
import BearerRole.Key.Domain

/-!
Public keys in their binary forms. The general form names its algorithm and holds the key as a bit string; the
RSA form is the bare pair of modulus and exponent. Main definitions: `PublicKey.decode` with its writer
`RsaKey.encode`, and `RsaKey.decodeBare` with `RsaKey.encodeBare`.
-/

namespace BearerRole

set_option autoImplicit false

structure RsaKey where
  modulus : Nat
  exponent : Nat
  deriving Repr, DecidableEq

def RsaKey.size (key : RsaKey) : Nat := if key.modulus = 0 then 0 else key.modulus.log2 + 1

def RsaKey.width (key : RsaKey) : Nat := (key.size + 7) / 8

/-- The numbers a key may have: an odd exponent other than one, and a modulus above it. -/
def RsaKey.isUsable (key : RsaKey) : Bool :=
  key.exponent % 2 == 1 && 3 ≤ key.exponent && key.exponent < key.modulus

inductive OtherFamily
  | ellipticCurve
  | ed25519
  | ed448
  | x25519
  | x448
  | dsa
  | dh
  | mlDsa44
  | mlDsa65
  | mlDsa87
  | mlKem768
  | mlKem1024
  deriving Repr, DecidableEq

def OtherFamily.label : OtherFamily → Text
  | ellipticCurve => text "ECPublicKey"
  | ed25519 => text "Ed25519PublicKey"
  | ed448 => text "Ed448PublicKey"
  | x25519 => text "X25519PublicKey"
  | x448 => text "X448PublicKey"
  | dsa => text "DSAPublicKey"
  | dh => text "DHPublicKey"
  | mlDsa44 => text "MLDSA44PublicKey"
  | mlDsa65 => text "MLDSA65PublicKey"
  | mlDsa87 => text "MLDSA87PublicKey"
  | mlKem768 => text "MLKEM768PublicKey"
  | mlKem1024 => text "MLKEM1024PublicKey"

inductive PublicKey
  | rsa (key : RsaKey)
  | other (family : OtherFamily)
  deriving Repr, DecidableEq

def ellipticCurveOid : Bytes := [0x2A, 0x86, 0x48, 0xCE, 0x3D, 0x02, 0x01]
def dsaOid : Bytes := [0x2A, 0x86, 0x48, 0xCE, 0x38, 0x04, 0x01]
def dhOid : Bytes := [0x2A, 0x86, 0x48, 0x86, 0xF7, 0x0D, 0x01, 0x03, 0x01]
def dhWithOrderOid : Bytes := [0x2A, 0x86, 0x48, 0xCE, 0x3E, 0x02, 0x01]
def x25519Oid : Bytes := [0x2B, 0x65, 0x6E]
def x448Oid : Bytes := [0x2B, 0x65, 0x6F]
def ed25519Oid : Bytes := [0x2B, 0x65, 0x70]
def ed448Oid : Bytes := [0x2B, 0x65, 0x71]

/-- The identifiers of the lattice algorithms differ in their last two bytes. -/
def latticeOid (family member : UInt8) : Bytes :=
  [0x60, 0x86, 0x48, 0x01, 0x65, 0x03, 0x04, family, member]

namespace RsaKey

def encodeBare (key : RsaKey) : Bytes :=
  Der.encodeSequence [.natural key.modulus, .natural key.exponent]

def decodeBare (bytes : Bytes) : Option RsaKey :=
  match Der.sequence? bytes with
  | some [modulus, exponent] => do
      let key : RsaKey := ⟨← Der.natural? modulus, ← Der.natural? exponent⟩
      if key.isUsable then some key else none
  | _ => none

def encode (key : RsaKey) : Bytes :=
  let algorithm := [Der.Element.mk Der.oidTag AlgorithmIdentifier.rsaOid, Der.Element.mk Der.nullTag []]
  Der.encodeSequence
    [⟨Der.sequenceTag, algorithm.flatMap Der.Element.encode⟩, Der.bitString key.encodeBare]

end RsaKey

namespace PublicKey

def byteStrings : List (Bytes × Nat × OtherFamily) :=
  [(ed25519Oid, 32, .ed25519), (x25519Oid, 32, .x25519), (ed448Oid, 57, .ed448), (x448Oid, 56, .x448),
    (latticeOid 3 17, 1312, .mlDsa44), (latticeOid 3 18, 1952, .mlDsa65), (latticeOid 3 19, 2592, .mlDsa87),
    (latticeOid 4 2, 1184, .mlKem768), (latticeOid 4 3, 1568, .mlKem1024)]

/-- The coefficients that follow one another in twelve bits each, two to three bytes, are below the modulus. -/
def areReduced : Bytes → Bool
  | a :: b :: c :: rest =>
      a.toNat + 256 * (b.toNat % 16) < 3329 && b.toNat / 16 + 16 * c.toNat < 3329 && areReduced rest
  | _ => true

def byteString? (bytes : Bytes) (length : Nat) (family : OtherFamily) : Option PublicKey :=
  let isEncapsulation := family == .mlKem768 || family == .mlKem1024
  if bytes.length = length ∧ (!isEncapsulation || areReduced (bytes.take (length - 32))) then
    some (.other family)
  else none

/-- A key of an elliptic curve names a known curve, or writes its parameters out, and is a point of it. -/
def ellipticCurve? (parameters : List Der.Element) (bytes : Bytes) : Option PublicKey :=
  match parameters with
  | [p] => do
      let curve ← match Curve.known.find? fun curve => p = ⟨Der.oidTag, curve.oid⟩ with
        | some curve => some curve
        | none => Domain.curve? p
      if curve.holds bytes then some (.other .ellipticCurve) else none
  | _ => none

/-- A key that is a number, with a sequence of parameters that begins with given count of numbers and goes on as a
check says. -/
def number? (family : OtherFamily) (count : Nat) (goesOn : List Der.Element → Bool)
    (parameters : List Der.Element) (bytes : Bytes) : Option PublicKey := do
  let [p] := parameters | none
  let members ← p.members?
  let numbers ← (members.take count).mapM Der.natural?
  match Der.Element.decode bytes with
  | some (key, []) =>
      let _ ← Der.natural? key
      if numbers.length = count ∧ goesOn (members.drop count) then some (.other family) else none
  | _ => none

/-- After the numbers there may be the length of private values. -/
def isPrivateLength : List Der.Element → Bool
  | [] => true
  | [e] => (Der.natural? e).any fun n => n < 0x100000000
  | _ => false

/-- After the numbers there may be a cofactor and then a sequence that tells how they were found. -/
def isCofactorAndProof : List Der.Element → Bool
  | [] => true
  | [e] => e.tag == Der.sequenceTag || (Der.natural? e).isSome
  | [e, proof] => (Der.natural? e).isSome && proof.tag == Der.sequenceTag
  | _ => false

def ofParts? (algorithm : AlgorithmIdentifier) (bytes : Bytes) : Option PublicKey :=
  let oid := algorithm.oid
  let parameters := algorithm.parameters
  if oid = AlgorithmIdentifier.rsaOid ∨ oid = AlgorithmIdentifier.rsaPssOid then
    if algorithm.isValid then (RsaKey.decodeBare bytes).map .rsa else none
  else if oid = ellipticCurveOid then ellipticCurve? parameters bytes
  else if oid = dsaOid then number? .dsa 3 List.isEmpty parameters bytes
  else if oid = dhOid then number? .dh 2 isPrivateLength parameters bytes
  else if oid = dhWithOrderOid then number? .dh 3 isCofactorAndProof parameters bytes
  else
    match byteStrings.lookup oid, parameters with
    | some (length, family), [] => byteString? bytes length family
    | _, _ => none

def isSupported (algorithm : AlgorithmIdentifier) : Bool :=
  if algorithm.oid = ellipticCurveOid then
    algorithm.parameters.all fun p => p.tag != Der.oidTag || Curve.known.any (·.oid == p.content)
  else
    [AlgorithmIdentifier.rsaOid, AlgorithmIdentifier.rsaPssOid, dsaOid, dhOid, dhWithOrderOid].contains algorithm.oid ||
      (byteStrings.lookup algorithm.oid).isSome

def algorithm? (bytes : Bytes) : Option AlgorithmIdentifier := do
  match ← Der.sequence? bytes with
  | [algorithm, key] =>
      let _ ← Der.bitString? key
      AlgorithmIdentifier.decode algorithm
  | _ => none

def decode (bytes : Bytes) : Option PublicKey := do
  match ← Der.sequence? bytes with
  | [algorithm, key] => ofParts? (← AlgorithmIdentifier.decode algorithm) (← Der.bitString? key)
  | _ => none

end PublicKey

end BearerRole
