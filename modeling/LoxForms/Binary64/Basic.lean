/-! # Finite floats by rank

The non-negative floats in increasing order are numbered from zero: zero itself, then the
subnormal numbers, then one binade of `2 ^ 52` numbers after the other, with infinity last.  The
number of a float in that order, its *rank*, is also its bit pattern without the sign.

Measured in units of the smallest positive float, which has 1074 binary places, every finite float
is a whole number (`units`).  `nearest` rounds a quotient to the rank of the closest float, a tie
to the even rank, and anything past the last finite float to infinity.
-/

namespace LoxForms.Binary64

-- Powers are written with `Nat.pow`: what `^` means depends on the instances that are in scope.

/-! ## Ranks -/

/-- The rank of infinity. -/
def infinityRank : Nat := 2047 * Nat.pow 2 52

def isNegative (x : Float) : Bool := decide (Nat.pow 2 63 ≤ x.toBits.toNat)

def rank (x : Float) : Nat := x.toBits.toNat % Nat.pow 2 63

def ofRank (negative : Bool) (rank : Nat) : Float :=
  Float.ofBits (UInt64.ofNat (if negative then Nat.pow 2 63 + rank else rank))

def isFinite (x : Float) : Bool := decide (rank x < infinityRank)

/-! ## Size of a rank

The two lowest binades, the subnormal numbers and the first normal ones, share a spacing of one
unit; from then on each binade doubles it. -/

/-- The number of binary places of the smallest positive float. -/
def places : Nat := 1074

/-- How often the spacing has doubled at this rank. -/
def doublings (rank : Nat) : Nat := rank / Nat.pow 2 52 - 1

/-- The multiple of the spacing that the rank stands for. -/
def significand (rank : Nat) : Nat := rank - doublings rank * Nat.pow 2 52

/-- The float of this rank, in units of the smallest positive float. -/
def units (rank : Nat) : Nat := significand rank * Nat.pow 2 (doublings rank)

/-! ## Rounding -/

/-- The quotient rounded to the nearest whole number, a tie to the even one. -/
def roundQuotient (numerator denominator : Nat) : Nat :=
  let quotient := numerator / denominator
  let doubled := 2 * (numerator % denominator)
  if doubled < denominator then quotient
  else if denominator < doubled then quotient + 1
  else quotient + quotient % 2

/-- The rank of the float closest to `numerator / denominator`. -/
def nearest (numerator denominator : Nat) : Nat :=
  let scaled := numerator * Nat.pow 2 places
  let doublings := (scaled / denominator).log2 - 52
  min infinityRank
    (doublings * Nat.pow 2 52 + roundQuotient scaled (denominator * Nat.pow 2 doublings))

end LoxForms.Binary64
