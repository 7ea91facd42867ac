import BearerRole.Key.Der

/-!
Algorithm identifiers: the object identifier of an algorithm with the parameters that go with it. Main definition:
`AlgorithmIdentifier.isValid`, which says whether the parameters have the form that the algorithm asks for.
-/

namespace BearerRole

set_option autoImplicit false

/-- The object identifier is held as its encoded bytes. -/
structure AlgorithmIdentifier where
  oid : Bytes
  parameters : List Der.Element
  deriving Repr, DecidableEq

namespace AlgorithmIdentifier

def rsaOid : Bytes := [0x2A, 0x86, 0x48, 0x86, 0xF7, 0x0D, 0x01, 0x01, 0x01]
def rsaPssOid : Bytes := [0x2A, 0x86, 0x48, 0x86, 0xF7, 0x0D, 0x01, 0x01, 0x0A]
def maskGenerationOid : Bytes := [0x2A, 0x86, 0x48, 0x86, 0xF7, 0x0D, 0x01, 0x01, 0x08]
def sha1Oid : Bytes := [0x2B, 0x0E, 0x03, 0x02, 0x1A]

/-- The groups of a written identifier's digits to base 128: each ends in a byte below 0x80 and none begins
with a zero digit. -/
def areArcs : Bool → Bytes → Bool
  | isFirst, [] => isFirst
  | isFirst, b :: rest => !(isFirst && b == 0x80) && areArcs (b < 0x80) rest

def isOid (bytes : Bytes) : Bool := !bytes.isEmpty && bytes.length ≤ 63 && areArcs true bytes

def decode (e : Der.Element) : Option AlgorithmIdentifier :=
  match e.members? with
  | some (oid :: parameters) =>
      if oid.tag = Der.oidTag ∧ isOid oid.content then some ⟨oid.content, parameters⟩ else none
  | _ => none

/-- Signature, digest and authentication algorithms whose parameters are null or left out, by the front of the
identifier and the bytes that may end it. -/
def nullable : List (Bytes × Bytes) :=
  [([0x2B, 0x0E, 0x03, 0x02], [0x1A, 0x1D]),
    ([0x60, 0x86, 0x48, 0x01, 0x65, 0x03, 0x04, 0x02], [1, 2, 3, 4, 7, 8, 9, 10]),
    ([0x60, 0x86, 0x48, 0x01, 0x65, 0x03, 0x04, 0x03], [1, 2, 3, 4, 13, 14, 15, 16]),
    ([0x2A, 0x86, 0x48, 0x86, 0xF7, 0x0D, 0x01, 0x01], [1, 5, 11, 12, 13, 14]),
    ([0x2A, 0x86, 0x48, 0x86, 0xF7, 0x0D, 0x02], [7, 8, 9, 10, 11]),
    ([0x2A, 0x86, 0x48, 0xCE, 0x3D, 0x04, 0x03], [1, 2, 3, 4])]

def bare : List (Bytes × Bytes) :=
  [([0x2B, 0x65], [0x6E, 0x6F, 0x70, 0x71]),
    ([0x60, 0x86, 0x48, 0x01, 0x65, 0x03, 0x04, 0x03], [9, 10, 11, 12, 17, 18, 19]),
    ([0x60, 0x86, 0x48, 0x01, 0x65, 0x03, 0x04, 0x04], [2, 3])]

def isAmong (table : List (Bytes × Bytes)) (oid : Bytes) : Bool :=
  table.any fun group => oid.dropLast == group.1 && (oid.getLast?.map group.2.contains).getD false

def defaultDigest : AlgorithmIdentifier := ⟨sha1Oid, [⟨Der.nullTag, []⟩]⟩

/-- What follows an element that may be left out. It stands in an explicit tag and passes a check. -/
def optional (tag : UInt8) (check : Der.Element → Bool) : List Der.Element → Option (List Der.Element)
  | [] => some []
  | e :: rest =>
      if e.tag = tag then
        match Der.Element.decode e.content with
        | some (inner, []) => if check inner then some rest else none
        | _ => none
      else some (e :: rest)

def isNumberBelow (bound : Nat) (e : Der.Element) : Bool :=
  match Der.natural? e with
  | some n => n < bound
  | none => false

def defaultSaltLength : Der.Element := ⟨Der.integerTag, [20]⟩

/-- The parameters of the probabilistic signature scheme: digest, mask generation, length of salt and trailer. None but the
trailer is written where it is the one understood anyway. -/
def arePssParameters (isValid : AlgorithmIdentifier → Bool) (e : Der.Element) : Bool :=
  let isDigest (e : Der.Element) : Bool :=
    match decode e with
    | some digest => isValid digest && digest != defaultDigest
    | none => false
  let isMask (e : Der.Element) : Bool :=
    match e.members? with
    | some [oid, digest] =>
        match decode digest with
        | some digest =>
            oid.tag == Der.oidTag && isOid oid.content && isValid digest &&
              !(oid.content == maskGenerationOid && digest == defaultDigest)
        | none => false
    | _ => false
  let rest := do
    let members ← e.members?
    let members ← optional 0xA0 isDigest members
    let members ← optional 0xA1 isMask members
    let members ← optional 0xA2 (fun e => isNumberBelow 0x10000 e && e != defaultSaltLength) members
    optional 0xA3 (isNumberBelow 0x100) members
  rest == some []

/-- The parameters suit the algorithm. Of an algorithm that is not known there is at most one, of any form. Identifiers
nest, and the fuel bounds how deep. -/
def isValidWithin : Nat → AlgorithmIdentifier → Bool
  | 0, _ => false
  | fuel + 1, a =>
      if isAmong nullable a.oid then a.parameters.isEmpty || a.parameters == [⟨Der.nullTag, []⟩]
      else if isAmong bare a.oid then a.parameters.isEmpty
      else if a.oid = rsaPssOid then
        match a.parameters with
        | [] => true
        | [p] => arePssParameters (isValidWithin fuel) p
        | _ => false
      else a.parameters.length ≤ 1

/-- Each level of nesting takes a byte at least, so the count of bytes is fuel enough. -/
def isValid (a : AlgorithmIdentifier) : Bool :=
  a.isValidWithin (a.parameters.foldl (fun fuel p => fuel + p.content.length) 1)

end AlgorithmIdentifier

end BearerRole
