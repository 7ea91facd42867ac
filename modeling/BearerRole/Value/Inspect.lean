import BearerRole.Decimal.Layout
import BearerRole.Text.Printable
import BearerRole.Value.Basic

/-!
The two written forms of a value: `display`, which shows text bare, and `inspect`, which quotes it and shows
what the parts of a collection are.
-/

namespace BearerRole

set_option autoImplicit false

namespace Text

/-- A text is quoted in single quotes, unless it holds some and no double ones. -/
def quoteFor (t : Text) : CodePoint := if t.contains 39 && !t.contains 34 then 34 else 39

/-- One code point inside quotes. What cannot be printed is written by its number, with as many digits as
its size needs. -/
def inspectPoint (quote c : CodePoint) : Text :=
  if c = quote ∨ c = 92 then [92, c]
  else if c = 9 then text "\\t"
  else if c = 10 then text "\\n"
  else if c = 13 then text "\\r"
  else if isPrintable c then [c]
  else if c < 0x100 then text "\\x" ++ hexPadded 2 c
  else if c < 0x10000 then text "\\u" ++ hexPadded 4 c
  else text "\\U" ++ hexPadded 8 c

def inspect (t : Text) : Text :=
  let quote := t.quoteFor
  [quote] ++ t.flatMap (inspectPoint quote) ++ [quote]

end Text

/-- Bytes are quoted as text is; all but the printable ASCII ones are written by two digits. -/
def Bytes.inspect (bytes : Bytes) : Text :=
  let points := bytes.latin1
  let quote := points.quoteFor
  let point (c : CodePoint) : Text :=
    if c = quote ∨ c = 92 then [92, c]
    else if c = 9 then text "\\t"
    else if c = 10 then text "\\n"
    else if c = 13 then text "\\r"
    else if 32 ≤ c ∧ c < 127 then [c]
    else text "\\x" ++ Text.hexPadded 2 c
  [98, quote] ++ points.flatMap point ++ [quote]

def Role.inspect (r : Role) : Text :=
  text "<Role." ++ r.label ++ text ": " ++ r.name.inspect ++ text ">"

namespace Value

def shownNonFinite : Decimal.NonFinite := ⟨BearerRole.text "nan", BearerRole.text "inf"⟩

mutual

def inspect : Value → Text
  | null => BearerRole.text "None"
  | bool true => BearerRole.text "True"
  | bool false => BearerRole.text "False"
  | int n => Text.ofInt n
  | float x => Decimal.write shownNonFinite x
  | text t => t.inspect
  | role r => r.inspect
  | bytes b => b.inspect
  | list items => [91] ++ Text.join (BearerRole.text ", ") (inspectAll items) ++ [93]
  | tuple [item] => [40] ++ inspect item ++ BearerRole.text ",)"
  | tuple items => [40] ++ Text.join (BearerRole.text ", ") (inspectAll items) ++ [41]
  | object fields => [123] ++ Text.join (BearerRole.text ", ") (inspectFields fields) ++ [125]

def inspectAll : List Value → List Text
  | [] => []
  | item :: rest => inspect item :: inspectAll rest

def inspectFields : List (Text × Value) → List Text
  | [] => []
  | (key, value) :: rest =>
      (key.inspect ++ BearerRole.text ": " ++ inspect value) :: inspectFields rest

end

def display (v : Value) : Text := v.asText?.getD v.inspect

end Value

end BearerRole
