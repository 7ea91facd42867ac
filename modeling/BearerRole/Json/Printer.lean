import BearerRole.Value.Inspect

/-!
Writing JSON. A style says how entries are set apart and whether code points outside ASCII are escaped.
-/

namespace BearerRole.Json

set_option autoImplicit false

structure Style where
  betweenItems : Text
  afterKey : Text
  asciiOnly : Bool
  deriving Repr, DecidableEq

def Style.line : Style := ⟨text ", ", text ": ", true⟩

def Style.body : Style := ⟨text ",", text ":", false⟩

def Style.segment : Style := ⟨text ",", text ":", true⟩

def numbered (c : CodePoint) : Text :=
  if c < 0x10000 then text "\\u" ++ Text.hexPadded 4 c
  else
    text "\\u" ++ Text.hexPadded 4 (0xD800 + (c - 0x10000) / 1024) ++
      text "\\u" ++ Text.hexPadded 4 (0xDC00 + (c - 0x10000) % 1024)

def character (asciiOnly : Bool) (c : CodePoint) : Text :=
  if c = 34 ∨ c = 92 then [92, c]
  else if c = 8 then text "\\b"
  else if c = 12 then text "\\f"
  else if c = 10 then text "\\n"
  else if c = 13 then text "\\r"
  else if c = 9 then text "\\t"
  else if c < 32 then numbered c
  else if asciiOnly && 127 ≤ c then numbered c
  else [c]

def quote (asciiOnly : Bool) (t : Text) : Text := [34] ++ t.flatMap (character asciiOnly) ++ [34]

def writtenNonFinite : Decimal.NonFinite := ⟨text "NaN", text "Infinity"⟩

mutual

/-- A tuple is written as a list, and bytes as the text that shows them. -/
def write (style : Style) : Value → Text
  | .null => text "null"
  | .bool true => text "true"
  | .bool false => text "false"
  | .int n => Text.ofInt n
  | .float x => Decimal.write writtenNonFinite x
  | .text t => quote style.asciiOnly t
  | .role r => quote style.asciiOnly r.name
  | .bytes b => quote style.asciiOnly b.inspect
  | .list items => [91] ++ Text.join style.betweenItems (writeAll style items) ++ [93]
  | .tuple items => [91] ++ Text.join style.betweenItems (writeAll style items) ++ [93]
  | .object fields => [123] ++ Text.join style.betweenItems (writeFields style fields) ++ [125]

def writeAll (style : Style) : List Value → List Text
  | [] => []
  | item :: rest => write style item :: writeAll style rest

def writeFields (style : Style) : List (Text × Value) → List Text
  | [] => []
  | (key, value) :: rest =>
      (quote style.asciiOnly key ++ style.afterKey ++ write style value) :: writeFields style rest

end

end BearerRole.Json
