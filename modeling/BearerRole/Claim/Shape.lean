import BearerRole.Value.Basic

/-!
The shapes of claim values, and the parts that a value of each shape gives. A part is asked by an accessor that
answers nothing for the other shapes.
-/

namespace BearerRole.Claim

set_option autoImplicit false

inductive Shape
  | text
  | textList
  | mapping
  | other
  deriving Repr, DecidableEq

def Shape.name : Shape → Text
  | text => BearerRole.text "text"
  | textList => BearerRole.text "text_list"
  | mapping => BearerRole.text "mapping"
  | other => BearerRole.text "other"

/-- A collection is called a list of texts whatever its members are. -/
def shape : Value → Shape
  | .text _ => .text
  | .role _ => .text
  | .list _ => .textList
  | .tuple _ => .textList
  | .object _ => .mapping
  | _ => .other

/-- The members of a collection that are text; the others are passed over. -/
def members? : Value → Option (List Value)
  | .list items => some (items.filter Value.isText)
  | .tuple items => some (items.filter Value.isText)
  | _ => none

def fields? : Value → Option Fields
  | .object fields => some fields
  | _ => none

end BearerRole.Claim
