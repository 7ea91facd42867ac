import BearerRole.Codec.FileName
import BearerRole.Fault
import BearerRole.Text.Lower

/-!
Environment variables. A name keeps its place when its value changes, and readers that ignore the case of names
see the last of several that agree.
-/

namespace BearerRole.Settings

set_option autoImplicit false

abbrev Environment := List (Text × Text)

namespace Environment

def empty : Environment := []

def get? (environment : Environment) (name : Text) : Option Text := environment.lookup name

def put : Environment → Text → Text → Environment
  | [], name, value => [(name, value)]
  | (n, v) :: rest, name, value =>
      if n = name then (n, value) :: rest else (n, v) :: put rest name value

def systemText (v : Value) : Except Fault Text :=
  match v.asText? with
  | none => .error .unsuitable
  | some t =>
      match FileName.encode? t with
      | none => .error .unencodable
      | some bytes => .ok (FileName.decode bytes)

/-- Sets a variable. Name and value are texts with a form for the operating system and without NUL; a name has no equals
sign and is not empty. -/
def set (environment : Environment) (name value : Value) : Except Fault Environment := do
  let name ← systemText name
  let value ← systemText value
  if name.contains 61 || name.contains 0 || value.contains 0 then .error .badPath
  else if name.isEmpty then .error .system
  else .ok (environment.put name value)

def unset (environment : Environment) (name : Value) : Except Fault Environment := do
  let name ← systemText name
  .ok (environment.filter fun entry => entry.1 ≠ name)

def find? (environment : Environment) (lowerName : Text) : Option Text :=
  (environment.reverse.find? fun entry => Text.lower entry.1 == lowerName).map Prod.snd

end Environment

end BearerRole.Settings
