import BearerRole.Text.Lower
import BearerRole.Value.Dictionary

/-!
Redaction of log fields. A field is sensitive by its name alone; its value is then replaced, and names, order and
the other fields stay. Fields that others hold too are redacted where they lie.
-/

namespace BearerRole.Log

set_option autoImplicit false

def sensitiveNames : List Text :=
  [text "token", text "authorization", text "bearer", text "claims", text "password",
    text "secret", text "credential", text "private_key"]

def sensitiveParts : List Text := [text "token", text "secret"]

def isSensitiveName (name : Text) : Bool :=
  let lower := Text.lower name
  sensitiveNames.contains lower || sensitiveParts.any fun part => Text.includes part lower

def redacted : Value := .ofText "***REDACTED***"

def redact (fields : Fields) : Fields :=
  fields.map fun entry => if isSensitiveName entry.1 then (entry.1, redacted) else entry

def redactKey (place : Place) (memory : Memory) (key : Text) : Memory :=
  if isSensitiveName key then memory.assign place key redacted else memory

/-- Redacts the dictionary at a place by a walk over the keys that it has at the start, and gives the place back. -/
def redactAt (place : Place) (memory : Memory) : Place × Memory :=
  (place, (memory place).keys.foldl (redactKey place) memory)

end BearerRole.Log
