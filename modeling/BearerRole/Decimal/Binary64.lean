import BearerRole.Decimal.Power
import BearerRole.Text.Basic

/-!
Binary floating-point numbers of 64 bits, held by their bits. A finite one is exactly
`(-1)^sign · mantissa · 2^exponent`, and all arithmetic here is on those whole numbers.
-/

namespace BearerRole

set_option autoImplicit false

structure Binary64 where
  bits : UInt64
  deriving Repr, DecidableEq, Inhabited

namespace Binary64

open Decimal

def isNegative (x : Binary64) : Bool := x.bits.toNat / twoTo 63 == 1

def biasedExponent (x : Binary64) : Nat := x.bits.toNat / twoTo 52 % 2048

def fraction (x : Binary64) : Nat := x.bits.toNat % twoTo 52

def isNaN (x : Binary64) : Bool := x.biasedExponent == 2047 && x.fraction != 0

def isInfinite (x : Binary64) : Bool := x.biasedExponent == 2047 && x.fraction == 0

def isFinite (x : Binary64) : Bool := x.biasedExponent != 2047

def isZero (x : Binary64) : Bool := x.biasedExponent == 0 && x.fraction == 0

def mantissa (x : Binary64) : Nat :=
  if x.biasedExponent = 0 then x.fraction else twoTo 52 + x.fraction

def exponent (x : Binary64) : Int := (max x.biasedExponent 1 : Nat) - 1075

def ofParts (negative : Bool) (biased fraction : Nat) : Binary64 :=
  ⟨UInt64.ofNat ((if negative then twoTo 63 else 0) + biased * twoTo 52 + fraction)⟩

def nan : Binary64 := ofParts false 2047 (twoTo 51)

def infinity (negative : Bool) : Binary64 := ofParts negative 2047 0

/-- The whole part, toward zero; a number that is not finite has none. -/
def truncate? (x : Binary64) : Option Int :=
  if x.isFinite then
    let size : Nat := match x.exponent with
      | .ofNat e => x.mantissa * twoTo e
      | .negSucc e => x.mantissa / twoTo (e + 1)
    some (if x.isNegative then -(size : Int) else size)
  else none

def toRat (x : Binary64) : Rat :=
  let size : Rat := match x.exponent with
    | .ofNat e => ((x.mantissa * twoTo e : Nat) : Rat)
    | .negSucc e => mkRat x.mantissa (twoTo (e + 1))
  if x.isNegative then -size else size

/-- The quotient of two whole numbers, rounded to nearest, a half going to the even neighbour. -/
def roundDiv (num den : Nat) : Nat :=
  let q := num / den
  let r := num % den
  if 2 * r > den ∨ (2 * r = den ∧ q % 2 = 1) then q + 1 else q

/-- The number nearest to `num / den`, for `den` positive. The scale is chosen such that the rounded quotient has
fifty-three binary places, or fewer below the normal numbers; a carry out of the last place is kept by
the sum of exponent and fraction fields. -/
def ofQuotient (negative : Bool) (num den : Nat) : Binary64 :=
  if num = 0 then ofParts negative 0 0
  else
    let guess : Int := (num.log2 : Int) - den.log2
    let atLeast (e : Int) : Bool := match e with
      | .ofNat k => den * twoTo k ≤ num
      | .negSucc k => den ≤ num * twoTo (k + 1)
    let top : Int := if atLeast guess then guess else guess - 1
    let place : Int := max (top - 52) (-1074)
    let rounded := match place with
      | .ofNat k => roundDiv num (den * twoTo k)
      | .negSucc k => roundDiv (num * twoTo (k + 1)) den
    let field : Nat := (place + 1074).toNat * twoTo 52 + rounded
    if field ≥ 2047 * twoTo 52 then infinity negative
    else ⟨UInt64.ofNat ((if negative then twoTo 63 else 0) + field)⟩

/-- The number nearest to `m · 10^e`. Powers far outside the range of the format are not computed. -/
def ofDecimal (negative : Bool) (m : Nat) (e : Int) : Binary64 :=
  let size : Int := (m.log2 * 3 / 10 : Nat) + e
  if m = 0 then ofParts negative 0 0
  else if size > 400 then infinity negative
  else if size < -800 - (m.log2 : Int) then ofParts negative 0 0
  else match e with
    | .ofNat k => ofQuotient negative (m * tenTo k) 1
    | .negSucc k => ofQuotient negative m (tenTo (k + 1))

end Binary64

end BearerRole
