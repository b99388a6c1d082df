import LoxForms.Decimal.Basic

/-! # Layouts of decimal numbers

A decimal number is written out in full, with a point inside its digits or zeros around them, or
with an exponent after its first digit.  A `Layout` says which of the two, and what closes a whole
number that is written out in full.
-/

namespace LoxForms.Decimal

structure Layout where
  /-- Whether a number whose first digit stands at this power of ten is written out in full. -/
  isFull : Int → Bool
  wholeTail : List Char

/-- All places of `digits * 10 ^ exponent`, with at least one digit before the point. -/
def full (wholeTail digits : List Char) (exponent : Int) : List Char :=
  if 0 ≤ exponent then
    digits ++ List.replicate exponent.toNat '0' ++ wholeTail
  else
    let places := (-exponent).toNat
    let padded := List.replicate (places + 1 - digits.length) '0' ++ digits
    let (whole, fraction) := padded.splitAt (padded.length - places)
    whole ++ '.' :: fraction

/-- The digits with a point after the first one, and the power of ten of that one. -/
def scientific (digits : List Char) (power : Int) : List Char :=
  let mantissa :=
    match digits with
    | first :: second :: others => first :: '.' :: second :: others
    | _ => digits
  mantissa ++ 'e' :: (toString power).toList

namespace Layout

def write (layout : Layout) (d : Decimal) : List Char :=
  let digits := Nat.toDigits 10 d.digits
  let power := d.exponent + digits.length - 1
  let body :=
    if layout.isFull power then full layout.wholeTail digits d.exponent
    else scientific digits power
  if d.negative then '-' :: body else body

end Layout

end LoxForms.Decimal
