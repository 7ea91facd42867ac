import BearerRole.Text.Blank
import BearerRole.Text.Digit

/-!
Integers written by people: blanks around them, a sign, digits of any script, and single underscores
between digits.
-/

namespace BearerRole.Text

set_option autoImplicit false

def maxIntegerDigits : Nat := 4300

/-- The digit values of a run of digits in which an underscore may stand between two digits. -/
def groupedDigits? : Text → Option (List Nat)
  | [] => none
  | [c] => (digitValue? c).map ([·])
  | c :: 95 :: rest => do
      let value ← digitValue? c
      let values ← groupedDigits? rest
      some (value :: values)
  | c :: rest => do
      let value ← digitValue? c
      let values ← groupedDigits? rest
      some (value :: values)

def integer? (t : Text) : Option Int := do
  let trimmed := trimOf isWhiteSpace t
  let (negative, digits) := match trimmed with
    | 45 :: rest => (true, rest)
    | 43 :: rest => (false, rest)
    | rest => (false, rest)
  let values ← groupedDigits? digits
  if values.length > maxIntegerDigits then none
  else
    let n : Int := (values.foldl (fun n value => 10 * n + value) 0 : Nat)
    some (if negative then -n else n)

end BearerRole.Text
