import BearerRole.Codec.Utf16
import BearerRole.Codec.Utf32
import BearerRole.Codec.Utf8
import BearerRole.Value.Basic

/-!
Reading JSON. The grammar is that of RFC 8259 with the three words for numbers that are not finite. A
surrogate may stand alone, an integer has any size up to a limit on its digits, and of two entries with one
key the later value counts. Bytes are read in whichever Unicode encoding their first bytes show.
-/

namespace BearerRole.Json

set_option autoImplicit false

/-- How deep collections may nest, and how many digits an integer may have. -/
structure Limits where
  depth : Nat
  digits : Option Nat
  deriving Repr, DecidableEq

def Limits.allowsDigits (limits : Limits) (count : Nat) : Bool :=
  match limits.digits with
  | none => true
  | some most => count ≤ most

def isSpace (c : CodePoint) : Bool := c == 32 || c == 9 || c == 10 || c == 13

def skipSpace (t : Text) : Text := t.dropWhile isSpace

def hexUnit? : Text → Option (Nat × Text)
  | a :: b :: c :: d :: rest => do
      let a ← Text.hexValue? a
      let b ← Text.hexValue? b
      let c ← Text.hexValue? c
      let d ← Text.hexValue? d
      some (4096 * a + 256 * b + 16 * c + d, rest)
  | _ => none

def escaped? (c : CodePoint) : Option CodePoint :=
  if c = 34 ∨ c = 92 ∨ c = 47 then some c
  else if c = 98 then some 8
  else if c = 102 then some 12
  else if c = 110 then some 10
  else if c = 114 then some 13
  else if c = 116 then some 9
  else none

/-- An escape by number, after its letter. A high surrogate takes an escaped low one that follows it. -/
def numbered? (t : Text) : Option (CodePoint × Text) := do
  let (unit, rest) ← hexUnit? t
  if Utf16.isHigh unit then
    match rest with
    | 92 :: 117 :: after =>
        match hexUnit? after with
        | some (low, beyond) =>
            if Utf16.isLow low then some (Utf16.joinPair unit low, beyond) else some (unit, rest)
        | none => some (unit, rest)
    | _ => some (unit, rest)
  else some (unit, rest)

def character? : Text → Option (CodePoint × Text)
  | 92 :: 117 :: rest => numbered? rest
  | 92 :: c :: rest => (escaped? c).map (·, rest)
  | [92] => none
  | c :: rest => if c < 32 then none else some (c, rest)
  | [] => none

/-- The characters up to the closing quote, and what follows it. Each character takes at least one code
point, so the length of the text is fuel enough. -/
def quoted? : Nat → Text → Text → Option (Text × Text)
  | 0, _, _ => none
  | fuel + 1, seen, t =>
      match t with
      | 34 :: rest => some (seen.reverse, rest)
      | t => do
          let (c, rest) ← character? t
          quoted? fuel (c :: seen) rest

structure Numeral where
  negative : Bool
  whole : Text
  fraction : Option Text
  exponent : Option Int

def takeDigits (t : Text) : Text × Text := (t.takeWhile Text.isAsciiDigit, t.dropWhile Text.isAsciiDigit)

/-- A fraction needs a digit after its point; without one the number ends before the point. -/
def fraction? : Text → Option Text × Text
  | 46 :: rest =>
      let (digits, after) := takeDigits rest
      if digits.isEmpty then (none, 46 :: rest) else (some digits, after)
  | t => (none, t)

/-- An exponent needs a digit; without one the number ends before the mark. -/
def exponent? (t : Text) : Option Int × Text :=
  match t with
  | mark :: rest =>
      if mark = 101 ∨ mark = 69 then
        let (negative, unsigned) := match rest with
          | 43 :: unsigned => (false, unsigned)
          | 45 :: unsigned => (true, unsigned)
          | unsigned => (false, unsigned)
        let (digits, after) := takeDigits unsigned
        if digits.isEmpty then (none, t)
        else
          let size : Int := Text.digitsValue digits
          (some (if negative then -size else size), after)
      else (none, t)
  | [] => (none, t)

/-- A number begins with a zero that stands alone, or with another digit. -/
def unsigned? (negative : Bool) (t : Text) : Option (Numeral × Text) :=
  let whole := match t with
    | 48 :: rest => ([48], rest)
    | t => takeDigits t
  if whole.1.isEmpty then none
  else
    let fraction := fraction? whole.2
    let exponent := exponent? fraction.2
    some (⟨negative, whole.1, fraction.1, exponent.1⟩, exponent.2)

def Numeral.value? (limits : Limits) (n : Numeral) : Option Value :=
  match n.fraction, n.exponent with
  | none, none =>
      if limits.allowsDigits n.whole.length then
        let size : Int := Text.digitsValue n.whole
        some (.int (if n.negative then -size else size))
      else none
  | fraction, exponent =>
      let places := fraction.getD []
      some (.float (Binary64.ofDecimal n.negative (Text.digitsValue (n.whole ++ places))
        (exponent.getD 0 - places.length)))

def number? (limits : Limits) (t : Text) : Option (Value × Text) := do
  let (numeral, rest) ← match t with
    | 45 :: rest => unsigned? true rest
    | t => unsigned? false t
  let value ← numeral.value? limits
  some (value, rest)

def words : List (Text × Value) :=
  [(text "null", .null), (text "true", .bool true), (text "false", .bool false),
    (text "NaN", .float .nan), (text "Infinity", .float (.infinity false)),
    (text "-Infinity", .float (.infinity true))]

def word? (t : Text) : Option (Value × Text) :=
  words.findSome? fun entry =>
    if entry.1.isPrefixOf t then some (entry.2, t.drop entry.1.length) else none

mutual

def value? (limits : Limits) : Nat → Nat → Text → Option (Value × Text)
  | 0, _, _ => none
  | fuel + 1, depth, t =>
      match t with
      | 34 :: rest => (quoted? (rest.length + 1) [] rest).map fun parts => (.text parts.1, parts.2)
      | 91 :: rest =>
          match depth with
          | 0 => none
          | depth + 1 =>
              match skipSpace rest with
              | 93 :: after => some (.list [], after)
              | rest => items? limits fuel depth [] rest
      | 123 :: rest =>
          match depth with
          | 0 => none
          | depth + 1 =>
              match skipSpace rest with
              | 125 :: after => some (.object [], after)
              | rest => members? limits fuel depth [] rest
      | t =>
          match word? t with
          | some found => some found
          | none => number? limits t

def items? (limits : Limits) : Nat → Nat → List Value → Text → Option (Value × Text)
  | 0, _, _, _ => none
  | fuel + 1, depth, before, t => do
      let (item, rest) ← value? limits fuel depth t
      match skipSpace rest with
      | 93 :: after => some (.list (item :: before).reverse, after)
      | 44 :: after => items? limits fuel depth (item :: before) (skipSpace after)
      | _ => none

def members? (limits : Limits) : Nat → Nat → Fields → Text → Option (Value × Text)
  | 0, _, _, _ => none
  | fuel + 1, depth, before, t =>
      match t with
      | 34 :: rest => do
          let (key, rest) ← quoted? (rest.length + 1) [] rest
          match skipSpace rest with
          | 58 :: rest =>
              let (value, rest) ← value? limits fuel depth (skipSpace rest)
              let fields := Fields.insert before key value
              match skipSpace rest with
              | 125 :: after => some (.object fields, after)
              | 44 :: after => members? limits fuel depth fields (skipSpace after)
              | _ => none
          | _ => none
      | _ => none

end

def read (limits : Limits) (t : Text) : Option Value := do
  let (value, rest) ← value? limits (2 * t.length + 2) limits.depth (skipSpace t)
  if (skipSpace rest).isEmpty then some value else none

inductive Encoding
  | utf8
  | utf16 (bigEndian : Bool)
  | utf32 (bigEndian : Bool)
  deriving Repr, DecidableEq

/-- The encoding that the first bytes show, and the bytes after a byte order mark. A mark decides; else the
places of zero bytes among the first four do. -/
def Encoding.detect (bytes : Bytes) : Encoding × Bytes :=
  match bytes with
  | 0x00 :: 0x00 :: 0xFE :: 0xFF :: rest => (.utf32 true, rest)
  | 0xFF :: 0xFE :: 0x00 :: 0x00 :: rest => (.utf32 false, rest)
  | 0xFE :: 0xFF :: rest => (.utf16 true, rest)
  | 0xFF :: 0xFE :: rest => (.utf16 false, rest)
  | 0xEF :: 0xBB :: 0xBF :: rest => (.utf8, rest)
  | a :: b :: c :: d :: _ =>
      if a = 0 then (if b = 0 then (.utf32 true, bytes) else (.utf16 true, bytes))
      else if b = 0 then (if c = 0 ∧ d = 0 then (.utf32 false, bytes) else (.utf16 false, bytes))
      else (.utf8, bytes)
  | [a, b] =>
      if a = 0 then (.utf16 true, bytes)
      else if b = 0 then (.utf16 false, bytes)
      else (.utf8, bytes)
  | _ => (.utf8, bytes)

def Encoding.decode : Encoding → Bytes → Option Text
  | utf8, bytes => Utf8.decode true bytes
  | utf16 bigEndian, bytes => Utf16.decode bigEndian bytes
  | utf32 bigEndian, bytes => Utf32.decode bigEndian bytes

/-- Reads bytes that hold one value; a second byte order mark is no blank. -/
def readBytes (limits : Limits) (bytes : Bytes) : Option Value := do
  let (encoding, rest) := Encoding.detect bytes
  let t ← encoding.decode rest
  read limits t

end BearerRole.Json
