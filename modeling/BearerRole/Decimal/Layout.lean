import BearerRole.Decimal.Shortest

/-!
How a number is written. Decimal exponents from -4 to 15 are written by place, with a fraction of at least one
digit; all others with a mark, a sign and at least two digits of exponent.
-/

namespace BearerRole.Decimal

set_option autoImplicit false

/-- The decisions of a written form: the decimal exponents that are written by place, and how few digits the
exponent of the others may have. -/
structure Layout where
  lowest : Int
  highest : Int
  exponentDigits : Nat
  deriving Repr, DecidableEq

def layout : Layout := ⟨-4, 15, 2⟩

def significant (digits : Text) : Text :=
  match (digits.reverse.dropWhile (· == 48)).reverse with
  | [] => [48]
  | kept => kept

def Layout.place (digits : Text) (point : Int) : Text :=
  if point ≤ 0 then text "0." ++ List.replicate (-point).toNat 48 ++ digits
  else
    let whole := digits.take point.toNat
    let rest := digits.drop point.toNat
    whole ++ List.replicate (point.toNat - digits.length) 48 ++ [46] ++
      (if rest.isEmpty then [48] else rest)

def Layout.scientific (l : Layout) (digits : Text) (exponent : Int) : Text :=
  let size := Text.ofNat exponent.natAbs
  let mark := match digits with
    | [] => []
    | [d] => [d]
    | d :: rest => d :: 46 :: rest
  mark ++ [101, if exponent < 0 then 45 else 43] ++
    List.replicate (l.exponentDigits - size.length) 48 ++ size

def Layout.write (l : Layout) (s : Scaled) : Text :=
  let all := Text.ofNat s.digits
  let point : Int := all.length + s.place
  let digits := significant all
  if l.lowest ≤ point - 1 ∧ point - 1 ≤ l.highest then Layout.place digits point
  else l.scientific digits (point - 1)

structure NonFinite where
  nan : Text
  infinity : Text

def write (words : NonFinite) (x : Binary64) : Text :=
  if x.isNaN then words.nan
  else
    (if x.isNegative then [45] else []) ++
      (if x.isInfinite then words.infinity
       else if x.isZero then text "0.0"
       else layout.write (shortest x))

end BearerRole.Decimal
