import BearerRole.Claim.Lookup
import BearerRole.Text.Fold

/-!
The role that a claim gives. A text elevates when it is the operator value, a collection when it has it as a
member; case does not count. Every other claim, and none at all, leaves its bearer a viewer.
-/

namespace BearerRole.Claim

set_option autoImplicit false

def isSameText (folded : Text) (v : Value) : Bool :=
  match v.asText? with
  | some t => Text.fold t == folded
  | none => false

def elevates (operatorValue : Text) (claim : Value) : Bool :=
  let folded := Text.fold operatorValue
  match claim with
  | .list items => items.any (isSameText folded)
  | .tuple items => items.any (isSameText folded)
  | claim => isSameText folded claim

def role (operatorValue : Text) : Option Value → Role
  | some claim => if elevates operatorValue claim then .operator else .viewer
  | none => .viewer

end BearerRole.Claim
