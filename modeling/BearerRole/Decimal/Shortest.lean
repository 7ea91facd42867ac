import BearerRole.Decimal.Binary64

/-!
The shortest decimal that reads back. The numbers that round to a given one form an interval around it. Of
the decimal grids with one digit, two digits and so on up to seventeen, the first with a point in the interval
fixes how many digits are written; of the value's two neighbours on that grid the nearer one is
taken, and of two equally near ones the even one.
-/

namespace BearerRole.Decimal

set_option autoImplicit false

structure Scaled where
  digits : Nat
  place : Int
  deriving Repr, DecidableEq

/-- A power with an exponent of either sign is a quotient of two powers, of which one is one. -/
def scaleUp (base : Nat) (e : Int) : Nat := Nat.pow base e.toNat

def scaleDown (base : Nat) (e : Int) : Nat := Nat.pow base (-e).toNat

/-- A positive finite number with the bounds of its interval, all in quarters of its last place. -/
structure Interval where
  lower : Nat
  value : Nat
  upper : Nat
  closed : Bool
  place : Int

def Interval.ofBinary64 (x : Binary64) : Interval :=
  let m := x.mantissa
  let narrow := x.fraction == 0 && x.biasedExponent > 1
  ⟨4 * m - (if narrow then 1 else 2), 4 * m, 4 * m + 2, m % 2 == 0, x.exponent - 2⟩

namespace Interval

def compareWith (i : Interval) (k d : Nat) (p : Int) : Ordering :=
  compare (k * scaleUp 2 i.place * scaleDown 10 p) (d * scaleUp 10 p * scaleDown 2 i.place)

def holds (i : Interval) (d : Nat) (p : Int) : Bool :=
  match i.compareWith i.lower d p, i.compareWith i.upper d p with
  | .lt, .gt => true
  | .eq, _ => i.closed
  | _, .eq => i.closed
  | _, _ => false

def decade (i : Interval) : Int :=
  let guess := ((i.value.log2 : Int) + i.place) * 30103 / 100000
  if i.compareWith i.value 1 (guess + 1) == .lt then guess else guess + 1

def floorOn (i : Interval) (p : Int) : Nat :=
  (i.value * scaleUp 2 i.place * scaleDown 10 p) / (scaleUp 10 p * scaleDown 2 i.place)

/-- The better of the value's two neighbours on a grid, if one lies in the interval. -/
def nearestOn? (i : Interval) (p : Int) : Option Scaled :=
  let d := i.floorOn p
  match i.holds d p, i.holds (d + 1) p with
  | false, false => none
  | true, false => some ⟨d, p⟩
  | false, true => some ⟨d + 1, p⟩
  | true, true =>
      match i.compareWith (2 * i.value) (2 * d + 1) p with
      | .lt => some ⟨d, p⟩
      | .gt => some ⟨d + 1, p⟩
      | .eq => some ⟨if d % 2 = 0 then d else d + 1, p⟩

end Interval

/-- The shortest decimal of a positive finite number; seventeen digits always suffice. -/
def shortest (x : Binary64) : Scaled :=
  let i := Interval.ofBinary64 x
  let top := i.decade
  ((List.range 17).findSome? fun (n : Nat) => i.nearestOn? (top - n)).getD ⟨i.floorOn (top - 16), top - 16⟩

end BearerRole.Decimal
