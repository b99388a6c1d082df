import LoxForms.Binary64.Basic

/-! # Decimal numbers -/

namespace LoxForms

/-- The number `digits * 10 ^ exponent` with a sign, which zero has too. -/
structure Decimal where
  negative : Bool
  digits : Nat
  exponent : Int
deriving DecidableEq, Repr

namespace Decimal

/-- The rank of the float closest to `digits * 10 ^ exponent`.

No power of ten is computed where its size already settles the answer: `10 ^ 309` exceeds every
finite float, and what lies below `2 ^ (-1075)`, half the smallest one, rounds to zero. -/
def nearestRank (digits : Nat) (exponent : Int) : Nat :=
  if 0 ≤ exponent then
    if digits = 0 then 0
    else if 309 ≤ exponent then Binary64.infinityRank
    else Binary64.nearest (digits * Nat.pow 10 exponent.toNat) 1
  else
    let places := (-exponent).toNat
    if digits.log2 + Binary64.places + 2 ≤ 3 * places then 0
    else Binary64.nearest digits (Nat.pow 10 places)

/-- The float closest to the decimal number. -/
def toFloat (d : Decimal) : Float :=
  Binary64.ofRank d.negative (nearestRank d.digits d.exponent)

end Decimal

end LoxForms
