import BearerRole.Fault
import BearerRole.Text.Blank
import BearerRole.Text.Lower

/-!
The bearer scheme of the `Authorization` header: a scheme, one space, and a token with blanks around it. A
header without a usable token is no error.
-/

namespace BearerRole.Bearer

set_option autoImplicit false

def headerName : Text := text "Authorization"

def scheme : Text := text "bearer"

def wrap (token : Text) : Text := text "Bearer " ++ token

/-- The token of a header value, without the blanks around it. The scheme ends at the first space and is
compared without regard to case. -/
def token? (header : Text) : Option Text :=
  match Text.cut 32 header with
  | none => none
  | some (name, value) =>
      if Text.lower name = scheme then
        let token := Text.trim value
        if token.isEmpty then none else some token
      else none

/-- The token of a header value of any kind. What is null, zero or empty carries none; of the rest only text
can be asked. -/
def token (header : Value) : Except Fault (Option Text) :=
  if header.isFalsy then .ok none
  else
    match header with
    | .bytes _ => .error .unsuitable
    | header =>
        match header.asText? with
        | some t => .ok (token? t)
        | none => .error .missingPart

end BearerRole.Bearer
