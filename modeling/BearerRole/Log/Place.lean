import BearerRole.Decimal.Rounded
import BearerRole.Value.Inspect

/-!
How one argument is written into a message: the shape of its place, and the text that a value has in a place of that shape.
A value that does not suit its place has none.
-/

namespace BearerRole.Log

set_option autoImplicit false

structure Shape where
  left : Bool
  plus : Bool
  space : Bool
  zero : Bool
  alternate : Bool
  width : Nat
  precision : Option Nat
  letter : CodePoint
  deriving Repr, DecidableEq

namespace Shape

def fill (shape : Shape) (t : Text) : Text :=
  let missing := shape.width - t.length
  if shape.left then t ++ List.replicate missing 32 else List.replicate missing 32 ++ t

/-- Fills a number up to the width of its place; zeros go between sign and digits. -/
def fillNumber (shape : Shape) (negative : Bool) (start digits : Text) : Text :=
  let sign := if negative then [45] else if shape.plus then [43] else if shape.space then [32] else []
  let all := sign ++ start ++ digits
  if shape.zero && !shape.left then
    sign ++ start ++ List.replicate (shape.width - all.length) 48 ++ digits
  else shape.fill all

def digits (shape : Shape) (base n : Nat) : Text :=
  let t := (Nat.toDigits base n).map Char.toNat
  List.replicate (shape.precision.getD 0 - t.length) 48 ++ t

def cut (shape : Shape) (t : Text) : Text :=
  match shape.precision with
  | some n => t.take n
  | none => t

end Shape

def whole? (truncate : Bool) : Value → Option Int
  | .int n => some n
  | .bool b => some (if b then 1 else 0)
  | .float x => if truncate then x.truncate? else none
  | _ => none

/-- The number that an argument is, rounded to a float; one too large for that has none. -/
def float? : Value → Option Binary64
  | .float x => some x
  | v => do
      let n ← whole? false v
      let x := Binary64.ofQuotient (n < 0) n.natAbs 1
      if x.isFinite then some x else none

def asciiOnly (t : Text) : Text :=
  t.flatMap fun c =>
    if c < 128 then [c]
    else if c < 0x100 then text "\\x" ++ Text.hexPadded 2 c
    else if c < 0x10000 then text "\\u" ++ Text.hexPadded 4 c
    else text "\\U" ++ Text.hexPadded 8 c

def capitals (t : Text) : Text := t.map fun c => if 97 ≤ c ∧ c ≤ 122 then c - 32 else c

namespace Shape

def writeWhole (shape : Shape) (base : Nat) (mark : String) (n : Int) : Text :=
  shape.fillNumber (n < 0) (if shape.alternate then text mark else []) (shape.digits base n.natAbs)

def writeFloat (shape : Shape) (rule : Bool → Nat → Decimal.Ratio → Text) (x : Binary64) : Text :=
  if x.isNaN then shape.fillNumber false [] (text "nan")
  else if x.isInfinite then shape.fillNumber x.isNegative [] (text "inf")
  else shape.fillNumber x.isNegative []
    (rule shape.alternate (shape.precision.getD 6) (Decimal.Ratio.ofBinary64 x))

def writeCharacter (shape : Shape) (v : Value) : Option Text :=
  match whole? false v, v.asText? with
  | some n, _ => if 0 ≤ n ∧ n < 0x110000 then some (shape.fill [n.toNat]) else none
  | none, some [c] => some (shape.fill [c])
  | none, _ => none

def write (shape : Shape) (v : Value) : Option Text :=
  match Char.ofNat shape.letter with
  | 's' => some (shape.fill (shape.cut v.display))
  | 'r' => some (shape.fill (shape.cut v.inspect))
  | 'a' => some (shape.fill (shape.cut (asciiOnly v.inspect)))
  | 'd' | 'i' | 'u' => (whole? true v).map (shape.writeWhole 10 "")
  | 'x' => (whole? false v).map (shape.writeWhole 16 "0x")
  | 'X' => (whole? false v).map fun n => capitals (shape.writeWhole 16 "0x" n)
  | 'o' => (whole? false v).map (shape.writeWhole 8 "0o")
  | 'f' => (float? v).map (shape.writeFloat Decimal.fixed)
  | 'F' => (float? v).map fun x => capitals (shape.writeFloat Decimal.fixed x)
  | 'e' => (float? v).map (shape.writeFloat Decimal.scientific)
  | 'E' => (float? v).map fun x => capitals (shape.writeFloat Decimal.scientific x)
  | 'g' => (float? v).map (shape.writeFloat Decimal.general)
  | 'G' => (float? v).map fun x => capitals (shape.writeFloat Decimal.general x)
  | 'c' => shape.writeCharacter v
  | _ => none

end Shape

end BearerRole.Log
