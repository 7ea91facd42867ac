import BearerRole.Decimal.Shortest

/-!
Decimals of a wanted length. A quotient is rounded to a count of places after the point, or to a count of digits from
its first one; a half goes to the even neighbour. The written forms are those of a report: by place, with an
exponent, or whichever of the two suits the size.
-/

namespace BearerRole.Decimal

set_option autoImplicit false

structure Ratio where
  num : Nat
  den : Nat
  deriving Repr, DecidableEq

def Ratio.ofBinary64 (x : Binary64) : Ratio := ⟨x.toRat.num.natAbs, x.toRat.den⟩

namespace Ratio

def scaled (r : Ratio) (k : Int) : Nat :=
  Binary64.roundDiv (r.num * scaleUp 10 k) (r.den * scaleDown 10 k)

/-- The exponent of the power of ten at or below a positive quotient. The numbers of digits tell it but for one. -/
def decade (r : Ratio) : Int :=
  let guess : Int := (Text.ofNat r.num).length - (Text.ofNat r.den).length
  if r.den * scaleUp 10 guess ≤ r.num * scaleDown 10 guess then guess else guess - 1

/-- A quotient to a count of digits, which is at least one. Nought has its digits after the point. -/
def toDigits (r : Ratio) (count : Nat) : Scaled :=
  let top := if r.num = 0 then 0 else r.decade
  let place := top - (count - 1 : Nat)
  let digits := r.scaled (-place)
  if digits = tenTo count then ⟨digits / 10, place + 1⟩ else ⟨digits, place⟩

end Ratio

def pointed (keepsPoint : Bool) (places n : Nat) : Text :=
  let rest := Text.ofNat (n % tenTo places)
  Text.ofNat (n / tenTo places) ++
    if places = 0 then (if keepsPoint then [46] else [])
    else [46] ++ List.replicate (places - rest.length) 48 ++ rest

def exponentPart (e : Int) : Text :=
  let size := Text.ofNat e.natAbs
  [101, if e < 0 then 45 else 43] ++ List.replicate (2 - size.length) 48 ++ size

/-- A fraction without the zeros at its end, and without a point that nothing follows. -/
def withoutZeros (t : Text) : Text :=
  if t.contains 46 then
    match t.reverse.dropWhile (· == 48) with
    | 46 :: whole => whole.reverse
    | kept => kept.reverse
  else t

def fixed (keepsPoint : Bool) (places : Nat) (r : Ratio) : Text :=
  pointed keepsPoint places (r.scaled places)

def scientific (keepsPoint : Bool) (places : Nat) (r : Ratio) : Text :=
  let s := r.toDigits (places + 1)
  pointed keepsPoint places s.digits ++ exponentPart (s.place + places)

/-- To a count of digits: by place from the fourth place after the point up to that count, and else with an exponent.
Zeros at the end are dropped unless the point is kept. -/
def general (keepsPoint : Bool) (precision : Nat) (r : Ratio) : Text :=
  let count := max precision 1
  let s := r.toDigits count
  let exponent := s.place + (count - 1 : Nat)
  let trim := fun t => if keepsPoint then t else withoutZeros t
  if -4 ≤ exponent ∧ exponent < count then trim (pointed keepsPoint (-s.place).toNat s.digits)
  else trim (pointed keepsPoint (count - 1) s.digits) ++ exponentPart exponent

end BearerRole.Decimal
