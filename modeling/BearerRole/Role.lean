import BearerRole.Text.Basic

/-!
The two access levels and what each of them grants.
-/

namespace BearerRole

set_option autoImplicit false

/-- A viewer may look; an operator may also manage. Without evidence a caller is a viewer. -/
inductive Role
  | viewer
  | operator
  deriving Repr, DecidableEq, Inhabited

namespace Role

def name : Role → Text
  | viewer => text "viewer"
  | operator => text "operator"

def label : Role → Text
  | viewer => text "VIEWER"
  | operator => text "OPERATOR"

end Role

end BearerRole
