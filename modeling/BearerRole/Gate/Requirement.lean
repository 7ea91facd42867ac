import BearerRole.Fault

/-!
Asking for a role. An operator may do everything that a viewer may. Only members of the role type count: a text
that spells a role is none.
-/

namespace BearerRole.Gate

set_option autoImplicit false

def grants (user required : Role) : Bool :=
  match required with
  | .viewer => true
  | .operator => user == .operator

def grantsValue (user required : Value) : Bool :=
  match required, user with
  | .role .viewer, _ => true
  | .role required, .role user => grants user required
  | _, _ => false

/-- Passes a caller or denies it. A denial names the required role, and so needs one. -/
def require (required current : Value) : Except Fault Unit :=
  if grantsValue current required then .ok ()
  else
    match required with
    | .role r => .error (.gate (GateError.accessDenied r))
    | _ => .error .missingPart

end BearerRole.Gate
