import BearerRole.Claim.Shape

/-!
Addressing a claim by a path of keys with dots between them. There is no escape, so a key with a dot in it cannot
be addressed.
-/

namespace BearerRole.Claim

set_option autoImplicit false

def dot : CodePoint := 46

def follow : Value → List Text → Option Value
  | value, [] => some value
  | value, key :: keys =>
      match value with
      | .object fields =>
          match Fields.get? fields key with
          | some inner => follow inner keys
          | none => none
      | _ => none

def at? (claims : Value) (path : Text) : Option Value := follow claims (Text.split dot path)

end BearerRole.Claim
