/-!
Powers of the two bases that numbers are written in.
-/

namespace BearerRole.Decimal

set_option autoImplicit false

def twoTo (n : Nat) : Nat := Nat.pow 2 n

def tenTo (n : Nat) : Nat := Nat.pow 10 n

end BearerRole.Decimal
