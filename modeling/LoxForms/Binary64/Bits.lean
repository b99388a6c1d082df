import Mathlib
import LoxForms.Binary64.Basic

/-! # Floats and their bit patterns

A float has one bit pattern and is determined by it, and so by the sign and the rank that the pattern
consists of: `ofRank (isNegative x) (rank x) = x`.
-/

namespace LoxForms.Binary64

theorem infinityRank_eq : infinityRank = 2047 * 2 ^ 52 := rfl

theorem isNegative_eq (x : Float) : isNegative x = decide (2 ^ 63 ≤ x.toBits.toNat) := rfl

theorem rank_eq (x : Float) : rank x = x.toBits.toNat % 2 ^ 63 := rfl

theorem ofRank_eq (negative : Bool) (rank : Nat) :
    ofRank negative rank =
      Float.ofBits (UInt64.ofNat (if negative then 2 ^ 63 + rank else rank)) := rfl

theorem ofRank_rank (x : Float) : ofRank (isNegative x) (rank x) = x := by
  have range : x.toBits.toNat < 2 ^ 64 := x.toBits.toNat_lt
  have bits : (if isNegative x then 2 ^ 63 + rank x else rank x) = x.toBits.toNat := by
    by_cases negative : 2 ^ 63 ≤ x.toBits.toNat
    · simp only [isNegative_eq, rank_eq, negative, decide_true, if_true]
      omega
    · simp only [isNegative_eq, rank_eq, negative, decide_false, Bool.false_eq_true, if_false]
      omega
  rw [ofRank_eq, bits, UInt64.ofNat_toNat, Float.ofBits_toBits]

end LoxForms.Binary64
