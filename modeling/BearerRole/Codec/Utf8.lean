import BearerRole.Codec.Bytes

/-!
UTF-8. Writing refuses surrogates. Reading takes exactly the shortest forms; a surrogate in three bytes is
read where the caller asks for it, and refused otherwise.
-/

namespace BearerRole.Utf8

set_option autoImplicit false

def encodePoint (c : CodePoint) : Bytes :=
  if c < 0x80 then [UInt8.ofNat c]
  else if c < 0x800 then [UInt8.ofNat (0xC0 + c / 64), UInt8.ofNat (0x80 + c % 64)]
  else if c < 0x10000 then
    [UInt8.ofNat (0xE0 + c / 4096), UInt8.ofNat (0x80 + c / 64 % 64), UInt8.ofNat (0x80 + c % 64)]
  else
    [UInt8.ofNat (0xF0 + c / 262144), UInt8.ofNat (0x80 + c / 4096 % 64),
      UInt8.ofNat (0x80 + c / 64 % 64), UInt8.ofNat (0x80 + c % 64)]

def encode? (t : Text) : Option Bytes :=
  if Text.isWellFormed t then some (t.flatMap encodePoint) else none

def isTail (b : UInt8) : Bool := 0x80 ≤ b && b < 0xC0

def pair? (a b : UInt8) : Option CodePoint :=
  if 0xC2 ≤ a ∧ a < 0xE0 ∧ isTail b then some ((a.toNat - 0xC0) * 64 + (b.toNat - 0x80)) else none

def triple? (surrogates : Bool) (a b c : UInt8) : Option CodePoint :=
  let point := (a.toNat - 0xE0) * 4096 + (b.toNat - 0x80) * 64 + (c.toNat - 0x80)
  if 0xE0 ≤ a ∧ a < 0xF0 ∧ isTail b ∧ isTail c ∧ 0x800 ≤ point ∧
      (surrogates ∨ !Text.isSurrogate point) then some point
  else none

def quadruple? (a b c d : UInt8) : Option CodePoint :=
  let point := (a.toNat - 0xF0) * 262144 + (b.toNat - 0x80) * 4096 + (c.toNat - 0x80) * 64 +
    (d.toNat - 0x80)
  if 0xF0 ≤ a ∧ isTail b ∧ isTail c ∧ isTail d ∧ 0x10000 ≤ point ∧ point < 0x110000 then some point
  else none

def decode (surrogates : Bool) : Bytes → Option Text
  | [] => some []
  | a :: rest =>
      if a < 0x80 then (decode surrogates rest).map (a.toNat :: ·)
      else match rest with
        | [] => none
        | b :: rest =>
            match pair? a b with
            | some point => (decode surrogates rest).map (point :: ·)
            | none =>
                match rest with
                | [] => none
                | c :: rest =>
                    match triple? surrogates a b c with
                    | some point => (decode surrogates rest).map (point :: ·)
                    | none =>
                        match rest with
                        | [] => none
                        | d :: rest =>
                            match quadruple? a b c d with
                            | some point => (decode surrogates rest).map (point :: ·)
                            | none => none

def decode? (bytes : Bytes) : Option Text := decode false bytes

end BearerRole.Utf8
