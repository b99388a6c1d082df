import LoxForms.Binary64.Bits
import LoxForms.Binary64.Exact
import LoxForms.Decimal.Shortest

/-! # Shortest decimals read back

Main statement: `(shortest x).toFloat = x` for every finite `x`.
-/

namespace LoxForms.Decimal

theorem two_pow_le_five_pow (n : Nat) : 2 ^ (2 * n) ≤ 5 ^ n := by
  rw [Nat.pow_mul]
  exact Nat.pow_le_pow_left (by omega) n

/-- The exact decimal value of a float is read back as that float. -/
theorem nearestRank_exact {rank : Nat} (finite : rank < Binary64.infinityRank)
    (nonzero : rank ≠ 0) :
    nearestRank (Binary64.units rank * 5 ^ Binary64.places) (-Binary64.places) = rank := by
  have enough : 2 ≤ Binary64.places := by decide
  generalize placesEq : Binary64.places = places at *
  have units : 0 < Binary64.units rank := by
    refine Nat.mul_pos ?_ (Nat.two_pow_pos _)
    simp only [Binary64.significand_eq, Binary64.doublings_eq]
    omega
  have large : 2 ^ (2 * places) ≤ Binary64.units rank * 5 ^ places :=
    Nat.le_trans (two_pow_le_five_pow places) (Nat.le_mul_of_pos_left _ units)
  have positive : Binary64.units rank * 5 ^ places ≠ 0 :=
    Nat.ne_of_gt (Nat.lt_of_lt_of_le (Nat.two_pow_pos _) large)
  have digits : 2 * places ≤ (Binary64.units rank * 5 ^ places).log2 :=
    (Nat.le_log2 positive).2 large
  have scaled : Binary64.units rank * 5 ^ places * 2 ^ places =
      Binary64.units rank * 10 ^ places := by
    rw [Nat.mul_assoc, ← Nat.mul_pow]
  have toNat : (- -(places : Int)).toNat = places := by omega
  unfold nearestRank
  simp only [toNat, placesEq]
  rw [if_neg (by omega), if_neg (by omega)]
  refine Binary64.nearest_eq_of_mul_eq finite (Nat.pow_pos (by omega)) ?_
  rw [placesEq]
  exact scaled

theorem nearestRank_of_onGrid? {rank digits : Nat} {exponent : Int}
    (hit : onGrid? rank exponent = some digits) : nearestRank digits exponent = rank := by
  unfold onGrid? at hit
  simp only at hit
  split at hit
  next closest =>
    simp only [Option.some.injEq] at hit
    exact hit ▸ closest.1
  next =>
    split at hit
    next above =>
      simp only [Option.some.injEq] at hit
      exact hit ▸ above
    next => simp at hit

theorem search_zero (rank : Nat) (exponent : Int) :
    search rank 0 exponent =
      (Binary64.units rank * 5 ^ Binary64.places, -(Binary64.places : Int)) := by
  simp only [search, Nat.pow_eq]

theorem nearestRank_search {rank : Nat} (finite : rank < Binary64.infinityRank)
    (nonzero : rank ≠ 0) (grids : Nat) (exponent : Int) :
    nearestRank (search rank grids exponent).1 (search rank grids exponent).2 = rank := by
  induction grids generalizing exponent with
  | zero =>
    rw [search_zero]
    exact nearestRank_exact finite nonzero
  | succ grids ih =>
    unfold search
    cases found : onGrid? rank exponent with
    | some digits => exact nearestRank_of_onGrid? found
    | none => exact ih (exponent - 1)

theorem nearestRank_shortestOfRank {rank : Nat} (finite : rank < Binary64.infinityRank) :
    nearestRank (shortestOfRank rank).1 (shortestOfRank rank).2 = rank := by
  by_cases zero : rank = 0
  · simp [shortestOfRank, zero, nearestRank]
  · rw [shortestOfRank, if_neg zero]
    exact nearestRank_search finite zero 20 (coarsestExponent rank)

theorem toFloat_shortest {x : Float} (finite : Binary64.isFinite x = true) :
    (shortest x).toFloat = x := by
  have bound : Binary64.rank x < Binary64.infinityRank := by
    simpa [Binary64.isFinite] using finite
  simp only [toFloat, shortest]
  rw [nearestRank_shortestOfRank bound, Binary64.ofRank_rank]

end LoxForms.Decimal
