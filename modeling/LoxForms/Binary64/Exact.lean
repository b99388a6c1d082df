import Mathlib.Algebra.Group.Nat.Defs
import LoxForms.Binary64.Basic

/-! # Rounding leaves floats alone

A quotient that is the float of some finite rank is rounded to that very rank.
-/

namespace LoxForms.Binary64

/-! ## The definitions with powers in the usual form -/

theorem doublings_eq (rank : Nat) : doublings rank = rank / 2 ^ 52 - 1 := rfl

theorem significand_eq (rank : Nat) : significand rank = rank - doublings rank * 2 ^ 52 := rfl

theorem units_eq (rank : Nat) : units rank = significand rank * 2 ^ doublings rank := rfl

theorem nearest_eq (numerator denominator : Nat) :
    nearest numerator denominator =
      min infinityRank ((((numerator * 2 ^ places) / denominator).log2 - 52) * 2 ^ 52 +
        roundQuotient (numerator * 2 ^ places)
          (denominator * 2 ^ (((numerator * 2 ^ places) / denominator).log2 - 52))) := by
  simp only [nearest, Nat.pow_eq]

/-! ## Rounding a float -/

theorem roundQuotient_mul {quotient denominator : Nat} (positive : 0 < denominator) :
    roundQuotient (quotient * denominator) denominator = quotient := by
  simp [roundQuotient, Nat.mul_div_cancel _ positive, positive]

theorem doublings_mul_add_significand (rank : Nat) :
    doublings rank * 2 ^ 52 + significand rank = rank := by
  simp only [significand_eq, doublings_eq]
  omega

theorem log2_units (rank : Nat) : (units rank).log2 - 52 = doublings rank := by
  by_cases low : rank < 2 ^ 53
  · have noDoubling : doublings rank = 0 := by
      simp only [doublings_eq]
      omega
    by_cases zero : rank = 0
    · subst zero
      decide
    · have small : rank.log2 < 53 := (Nat.log2_lt zero).2 low
      simp only [units_eq, significand_eq, noDoubling]
      simp
      omega
  · have large : 2 ^ 52 ≤ significand rank ∧ significand rank < 2 ^ 53 := by
      simp only [significand_eq, doublings_eq]
      omega
    have bounds : 2 ^ (52 + doublings rank) ≤ units rank ∧
        units rank < 2 ^ (52 + doublings rank + 1) := by
      constructor
      · rw [Nat.pow_add, units_eq]
        exact Nat.mul_le_mul_right _ large.1
      · rw [show 52 + doublings rank + 1 = 53 + doublings rank by omega, Nat.pow_add, units_eq]
        exact Nat.mul_lt_mul_of_pos_right large.2 (Nat.two_pow_pos _)
    have positive : units rank ≠ 0 := by
      have := Nat.two_pow_pos (52 + doublings rank)
      omega
    rw [(Nat.log2_eq_iff positive).2 bounds]
    omega

/-- The hypothesis `same` says that the quotient is the float of the rank. -/
theorem nearest_eq_of_mul_eq {rank numerator denominator : Nat} (finite : rank < infinityRank)
    (positive : 0 < denominator)
    (same : numerator * 2 ^ places = units rank * denominator) :
    nearest numerator denominator = rank := by
  have whole : units rank * denominator / denominator = units rank :=
    Nat.mul_div_cancel _ positive
  have multiple : units rank * denominator =
      significand rank * (denominator * 2 ^ doublings rank) := by
    rw [units_eq]
    ac_rfl
  have spacing : 0 < denominator * 2 ^ doublings rank :=
    Nat.mul_pos positive (Nat.two_pow_pos _)
  rw [nearest_eq, same, whole, log2_units, multiple, roundQuotient_mul spacing,
    doublings_mul_add_significand]
  omega

end LoxForms.Binary64
