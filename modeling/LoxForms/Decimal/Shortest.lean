import LoxForms.Decimal.Basic

/-! # Shortest decimals

The decimal number with the fewest digits among those whose closest float is the given one, and,
of several with as few digits, the one closest to that float; an exact tie goes to the larger.

The grids of multiples of `10 ^ exponent` are tried from coarse to fine.  On each of them only the
two neighbours of the float can be closest to it, and reading them back tells whether the float is
the closest one to them.
-/

namespace LoxForms.Decimal

/-- The multiple of `10 ^ exponent` that is closest to the float of this rank and reads back as
it, if there is one. -/
def onGrid? (rank : Nat) (exponent : Int) : Option Nat :=
  let numerator := Binary64.units rank * Nat.pow 10 (-exponent).toNat
  let denominator := Nat.pow 2 Binary64.places * Nat.pow 10 exponent.toNat
  let below := numerator / denominator
  let belowIsCloser := 2 * (numerator % denominator) < denominator
  let belowReadsBack := nearestRank below exponent = rank
  let aboveReadsBack := nearestRank (below + 1) exponent = rank
  if belowReadsBack ∧ (belowIsCloser ∨ ¬ aboveReadsBack) then some below
  else if aboveReadsBack then some (below + 1)
  else none

/-- A power of ten above the first digit.  A binary place is about `30103 / 100000` of a decimal
one, and the sum leaves room for the error of that. -/
def coarsestExponent (rank : Nat) : Int :=
  ((Binary64.units rank).log2 + 1 - Binary64.places) * 30103 / 100000 + 2

/-- The digits and the exponent on the first of the given number of grids with a hit.  The exact
value closes the search; a grid of at most seventeen digits has a hit before that. -/
def search (rank : Nat) : Nat → Int → Nat × Int
  | 0, _ => (Binary64.units rank * Nat.pow 5 Binary64.places, -Binary64.places)
  | grids + 1, exponent =>
    match onGrid? rank exponent with
    | some digits => (digits, exponent)
    | none => search rank grids (exponent - 1)

/-- The digits and the exponent of the shortest decimal that reads back as this finite rank. -/
def shortestOfRank (rank : Nat) : Nat × Int :=
  if rank = 0 then (0, 0) else search rank 20 (coarsestExponent rank)

/-- The shortest decimal that reads back as the given finite float. -/
def shortest (x : Float) : Decimal :=
  let magnitude := shortestOfRank (Binary64.rank x)
  ⟨Binary64.isNegative x, magnitude.1, magnitude.2⟩

end LoxForms.Decimal
