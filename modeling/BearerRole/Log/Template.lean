import BearerRole.Log.Place

/-!
Message templates. Two percent signs stand for one; a single one begins a place: an optional name in parentheses, flags, a least
width, a precision, and a letter that says how the argument is written. Places take their arguments in order, or
by name from one object. Main definitions: `Template.pieces?` reads a template, `Template.fill` puts arguments in.
-/

namespace BearerRole.Log.Template

set_option autoImplicit false

/-- A width or a precision is given in the template, or by an argument of its own. -/
inductive Size
  | given (n : Nat)
  | argument
  deriving Repr, DecidableEq

structure Place where
  name : Option Text
  width : Size
  precision : Option Size
  shape : Shape
  deriving Repr, DecidableEq

inductive Piece
  | literal (c : CodePoint)
  | place (place : Place)
  deriving Repr, DecidableEq

def isFlag (c : CodePoint) : Bool := c == 45 || c == 43 || c == 32 || c == 48 || c == 35

def isLengthMark (c : CodePoint) : Bool := c == 104 || c == 108 || c == 76

/-- The name in parentheses at the front of a place; parentheses inside it are balanced. -/
def name? : Nat → Text → Text → Option (Text × Text)
  | _, _, [] => none
  | depth, seen, c :: rest =>
      if c = 41 then
        match depth with
        | 0 => some (seen.reverse, rest)
        | depth + 1 => name? depth (c :: seen) rest
      else name? (if c = 40 then depth + 1 else depth) (c :: seen) rest

/-- A size at the front, and what follows it; a star asks for an argument, and no digits are nought. -/
def size : Text → Size × Text
  | 42 :: rest => (.argument, rest)
  | t => (.given (Text.digitsValue (t.takeWhile Text.isAsciiDigit)), t.dropWhile Text.isAsciiDigit)

/-- One length mark may stand before the letter; it says nothing. -/
def withoutLengthMark : Text → Text
  | c :: rest => if isLengthMark c then rest else c :: rest
  | [] => []

def place? (t : Text) : Option (Place × Text) := do
  let (name, t) ← match t with
    | 40 :: rest => (name? 0 [] rest).map fun parts => (some parts.1, parts.2)
    | t => some (none, t)
  let flags := t.takeWhile isFlag
  let (width, t) := size (t.dropWhile isFlag)
  let (precision, t) := match t with
    | 46 :: rest => (some (size rest).1, (size rest).2)
    | t => (none, t)
  match withoutLengthMark t with
  | letter :: rest =>
      some (⟨name, width, precision,
        ⟨flags.contains 45, flags.contains 43, flags.contains 32, flags.contains 48, flags.contains 35,
          0, none, letter⟩⟩, rest)
  | [] => none

def piecesWithin : Nat → Text → Option (List Piece)
  | _, [] => some []
  | 0, _ => none
  | fuel + 1, 37 :: 37 :: rest => (piecesWithin fuel rest).map (.literal 37 :: ·)
  | fuel + 1, 37 :: rest => do
      let (place, rest) ← place? rest
      (piecesWithin fuel rest).map (.place place :: ·)
  | fuel + 1, c :: rest => (piecesWithin fuel rest).map (.literal c :: ·)

def pieces? (template : Text) : Option (List Piece) := piecesWithin template.length template

/-- A template takes a list of arguments, all of which it must use, or the entries of one object. A name selects
the entry that comes next; before any name that is the object as a whole. -/
inductive Arguments
  | ordered (values : List Value)
  | named (fields : Fields) (next : Option Value)
  deriving Repr, BEq

namespace Arguments

def of : List Value → Arguments
  | [.object (first :: rest)] => .named (first :: rest) (some (.object (first :: rest)))
  | values => .ordered values

def next? : Arguments → Option (Value × Arguments)
  | .ordered (v :: rest) => some (v, .ordered rest)
  | .named fields (some v) => some (v, .named fields none)
  | _ => none

/-- A name selects its entry; arguments in order have no names. -/
def select? : Option Text → Arguments → Option Arguments
  | none, arguments => some arguments
  | some name, .named fields _ => (fields.get? name).map fun v => .named fields (some v)
  | some _, .ordered _ => none

def isSpent : Arguments → Bool
  | .ordered (_ :: _) => false
  | _ => true

end Arguments

def sizeLimit : Nat := 0x80000000

def Size.settle? : Size → Arguments → Option (Int × Arguments)
  | .given n, arguments => if n < sizeLimit then some (n, arguments) else none
  | .argument, arguments => do
      let (v, arguments) ← arguments.next?
      let n ← whole? false v
      if n.natAbs < sizeLimit then some (n, arguments) else none

/-- The shape of a place with its sizes: a negative width asks for the left side, a negative precision for none. -/
def Place.settle? (place : Place) (arguments : Arguments) : Option (Shape × Arguments) := do
  let arguments ← arguments.select? place.name
  let (width, arguments) ← place.width.settle? arguments
  let shape := { place.shape with width := width.natAbs, left := place.shape.left || width < 0 }
  match place.precision with
  | none => some (shape, arguments)
  | some size => do
      let (precision, arguments) ← size.settle? arguments
      some ({ shape with precision := some precision.toNat }, arguments)

def Place.fill? (place : Place) (arguments : Arguments) : Option (Text × Arguments) := do
  let (shape, arguments) ← place.settle? arguments
  let (v, arguments) ← arguments.next?
  let written ← shape.write v
  some (written, arguments)

/-- Fills a template. It fails where a place has no argument, or one that it cannot write, and where arguments
in order are left over. -/
def fill? : Arguments → List Piece → Option Text
  | arguments, [] => if arguments.isSpent then some [] else none
  | arguments, .literal c :: rest => (fill? arguments rest).map (c :: ·)
  | arguments, .place place :: rest => do
      let (written, arguments) ← place.fill? arguments
      (fill? arguments rest).map (written ++ ·)

/-- A message from a template; without arguments the template is the message. -/
def message? (template : Text) (values : List Value) : Option Text :=
  if values.isEmpty then some template else (pieces? template).bind (fill? (Arguments.of values))

end BearerRole.Log.Template
