/-!
Text as a list of code points. A code point is a plain number, so that a text may hold a surrogate that
stands alone, which no `Char` can. The operations are the ones that the rest of the library asks of text:
cutting at a separator, joining, searching, and writing numbers.
-/

namespace BearerRole

set_option autoImplicit false

abbrev CodePoint := Nat

abbrev Text := List CodePoint

def text (literal : String) : Text := literal.toList.map Char.toNat

namespace Text

/-- A text is well formed when none of its code points is a surrogate: only then has it a UTF-8 form. -/
def isSurrogate (c : CodePoint) : Bool := 0xD800 ≤ c && c ≤ 0xDFFF

def isWellFormed (t : Text) : Bool := t.all fun c => !isSurrogate c

def cut (sep : CodePoint) : Text → Option (Text × Text)
  | [] => none
  | c :: rest =>
      if c = sep then some ([], rest)
      else (cut sep rest).map fun parts => (c :: parts.1, parts.2)

def cutLast (sep : CodePoint) (t : Text) : Option (Text × Text) :=
  (cut sep t.reverse).map fun parts => (parts.2.reverse, parts.1.reverse)

def split (sep : CodePoint) : Text → List Text
  | [] => [[]]
  | c :: rest =>
      if c = sep then [] :: split sep rest
      else match split sep rest with
        | [] => [[c]]
        | segment :: segments => (c :: segment) :: segments

def join (sep : Text) (ts : List Text) : Text := (ts.intersperse sep).flatten

def includes (needle : Text) : Text → Bool
  | [] => needle.isEmpty
  | c :: rest => needle.isPrefixOf (c :: rest) || includes needle rest

def cutAt (needle : Text) : Text → Option (Text × Text)
  | [] => if needle.isEmpty then some ([], []) else none
  | c :: rest =>
      if needle.isPrefixOf (c :: rest) then some ([], (c :: rest).drop needle.length)
      else (cutAt needle rest).map fun parts => (c :: parts.1, parts.2)

def isAtMost : Text → Text → Bool
  | [], _ => true
  | _ :: _, [] => false
  | a :: as, b :: bs => a < b || (a == b && isAtMost as bs)

def padRight (width : Nat) (t : Text) : Text := t ++ List.replicate (width - t.length) 32

def isAsciiDigit (c : CodePoint) : Bool := 48 ≤ c && c ≤ 57

def hexValue? (c : CodePoint) : Option Nat :=
  if 48 ≤ c ∧ c ≤ 57 then some (c - 48)
  else if 65 ≤ c ∧ c ≤ 70 then some (c - 55)
  else if 97 ≤ c ∧ c ≤ 102 then some (c - 87)
  else none

def digit (value : Nat) : CodePoint := if value < 10 then 48 + value else 87 + value

def ofNat (n : Nat) : Text :=
  if n < 10 then [digit n] else ofNat (n / 10) ++ [digit (n % 10)]

def ofInt : Int → Text
  | .ofNat n => ofNat n
  | .negSucc n => 45 :: ofNat (n + 1)

def hex (n : Nat) : Text :=
  if n < 16 then [digit n] else hex (n / 16) ++ [digit (n % 16)]

def hexPadded (width n : Nat) : Text :=
  List.replicate (width - (hex n).length) 48 ++ hex n

def digitsValue (digits : Text) : Nat := digits.foldl (fun n c => 10 * n + (c - 48)) 0

end Text

end BearerRole
