import BearerRole.Codec.Bytes

/-!
The distinguished encoding of data elements: a tag, a length in as few bytes as possible, and the content.
Reading is exact, so an element has one written form.
-/

namespace BearerRole.Der

set_option autoImplicit false

structure Element where
  tag : UInt8
  content : Bytes
  deriving Repr, DecidableEq

def integerTag : UInt8 := 0x02
def bitStringTag : UInt8 := 0x03
def octetStringTag : UInt8 := 0x04
def nullTag : UInt8 := 0x05
def oidTag : UInt8 := 0x06
def sequenceTag : UInt8 := 0x30

def magnitude (n : Nat) : Bytes :=
  if n = 0 then [] else magnitude (n / 256) ++ [UInt8.ofNat (n % 256)]

def encodeLength (n : Nat) : Bytes :=
  if n < 0x80 then [UInt8.ofNat n]
  else UInt8.ofNat (0x80 + (magnitude n).length) :: magnitude n

def Element.encode (e : Element) : Bytes := e.tag :: encodeLength e.content.length ++ e.content

def decodeLength : Bytes → Option (Nat × Bytes)
  | [] => none
  | first :: rest =>
      if first < 0x80 then some (first.toNat, rest)
      else
        let count := first.toNat - 0x80
        let digits := rest.take count
        let n := Bytes.toNat digits
        if digits.length = count ∧ encodeLength n = first :: digits then some (n, rest.drop count)
        else none

def Element.decode : Bytes → Option (Element × Bytes)
  | [] => none
  | tag :: rest =>
      if tag.toNat % 32 = 31 then none
      else do
        let (length, rest) ← decodeLength rest
        if length ≤ rest.length then some (⟨tag, rest.take length⟩, rest.drop length) else none

/-- The elements that follow one another up to the end. Each takes at least two bytes, so the count of bytes
is fuel enough. -/
def decodeAll : Nat → Bytes → Option (List Element)
  | _, [] => some []
  | 0, _ => none
  | fuel + 1, bytes => do
      let (element, rest) ← Element.decode bytes
      let elements ← decodeAll fuel rest
      some (element :: elements)

def Element.members? (e : Element) : Option (List Element) :=
  if e.tag = sequenceTag then decodeAll e.content.length e.content else none

def sequence? (bytes : Bytes) : Option (List Element) :=
  match Element.decode bytes with
  | some (element, []) => element.members?
  | _ => none

def encodeSequence (members : List Element) : Bytes :=
  (Element.mk sequenceTag (members.flatMap Element.encode)).encode

/-- The content of a number's element: as few bytes as hold it with a sign bit of zero. -/
def naturalContent (n : Nat) : Bytes :=
  match magnitude n with
  | [] => [0]
  | first :: rest => if first < 0x80 then first :: rest else 0 :: first :: rest

def Element.natural (n : Nat) : Element := ⟨integerTag, naturalContent n⟩

/-- A number that is not negative, in its only form. -/
def natural? (e : Element) : Option Nat :=
  let n := Bytes.toNat e.content
  if e.tag = integerTag ∧ naturalContent n = e.content then some n else none

def bitString (bytes : Bytes) : Element := ⟨bitStringTag, 0 :: bytes⟩

/-- The bytes of a bit string. Its first byte counts the bits that are left over in the last one; a string of
whole bytes has none. -/
def bitString? (e : Element) : Option Bytes :=
  match e.content with
  | 0 :: bytes => if e.tag = bitStringTag then some bytes else none
  | _ => none

end BearerRole.Der
