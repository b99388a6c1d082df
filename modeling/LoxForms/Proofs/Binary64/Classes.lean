import LoxForms.Binary64.Bits
import LoxForms.Decimal.Basic

/-! # Finite numbers, infinities, and what is no number

The three classes by rank: finite below `infinityRank`, infinite at it, no number above.  A float
made from a rank up to that of infinity has that rank, so what is read from a numeral is always a
number.
-/

namespace LoxForms.Binary64

open Float.Model (Format)
open Float.Model.UnpackedFloat

abbrev exponentField (b : BitVec 64) : BitVec 11 := @unpackExponent Format.binary64 b

abbrev mantissaField (b : BitVec 64) : BitVec 52 := @unpackMantissa Format.binary64 b

theorem toNat_exponentField (b : BitVec 64) :
    (exponentField b).toNat = b.toNat / 2 ^ 52 % 2 ^ 11 := by
  rw [← Nat.shiftRight_eq_div_pow]
  exact BitVec.extractLsb_toNat 62 52 b

theorem toNat_mantissaField (b : BitVec 64) : (mantissaField b).toNat = b.toNat % 2 ^ 52 := by
  rw [← Nat.shiftRight_zero (n := b.toNat)]
  exact BitVec.extractLsb_toNat 51 0 b

theorem exponentField_eq_top_iff (b : BitVec 64) :
    exponentField b = -1#_ ↔ infinityRank ≤ b.toNat % 2 ^ 63 := by
  have range := b.isLt
  rw [← BitVec.toNat_inj, toNat_exponentField]
  simp only [infinityRank_eq]
  constructor
  · intro top
    have : b.toNat / 2 ^ 52 % 2 ^ 11 = 2047 := top
    omega
  · intro top
    change b.toNat / 2 ^ 52 % 2 ^ 11 = 2047
    omega

theorem mantissaField_eq_zero_iff {b : BitVec 64} (top : infinityRank ≤ b.toNat % 2 ^ 63) :
    mantissaField b = 0#_ ↔ b.toNat % 2 ^ 63 = infinityRank := by
  rw [← BitVec.toNat_inj, toNat_mantissaField]
  simp only [infinityRank_eq] at *
  constructor
  · intro zero
    have : b.toNat % 2 ^ 52 = 0 := zero
    omega
  · intro infinite
    change b.toNat % 2 ^ 52 = 0
    omega

/-- What the bits stand for, by the rank that they are without the sign. -/
theorem unpack_class (b : BitVec 64) :
    (b.toNat % 2 ^ 63 < infinityRank ∧ (unpack Format.binary64 b).isFinite = true) ∨
      (b.toNat % 2 ^ 63 = infinityRank ∧ (unpack Format.binary64 b).isInf = true) ∨
      (infinityRank < b.toNat % 2 ^ 63 ∧ (unpack Format.binary64 b).isNaN = true) := by
  -- From the rank of infinity on the exponent field is all ones, and there the mantissa field is
  -- zero only at infinity itself.
  by_cases top : exponentField b = -1#_
  · have high := (exponentField_eq_top_iff b).1 top
    by_cases zero : mantissaField b = 0#_
    · exact .inr (.inl ⟨(mantissaField_eq_zero_iff high).1 zero, by simp [unpack, top, zero, isInf]⟩)
    · have notInfinite := mt (mantissaField_eq_zero_iff high).2 zero
      exact .inr (.inr ⟨by omega, by simp [unpack, top, zero, isNaN]⟩)
  · refine .inl ⟨Nat.lt_of_not_le (mt (exponentField_eq_top_iff b).2 top), ?_⟩
    unfold unpack
    dsimp only
    rw [if_neg top]
    split
    · split <;> rfl
    · rfl

theorem float_class (x : Float) :
    (isFinite x = true ∧ x.isInf = false ∧ x.isNaN = false) ∨
      (rank x = infinityRank ∧ x.isInf = true ∧ x.isNaN = false) ∨
      (infinityRank < rank x ∧ x.isInf = false ∧ x.isNaN = true) := by
  have inf : x.isInf = (unpack Format.binary64 x.toBits.toBitVec).isInf := rfl
  have nan : x.isNaN = (unpack Format.binary64 x.toBits.toBitVec).isNaN := rfl
  have bits : x.toBits.toBitVec.toNat % 2 ^ 63 = rank x := rfl
  have byRank := unpack_class x.toBits.toBitVec
  rw [bits] at byRank
  rw [inf, nan, isFinite]
  generalize unpack Format.binary64 x.toBits.toBitVec = unpacked at byRank
  cases unpacked <;>
    simpa [Float.Model.UnpackedFloat.isFinite, isInf, isNaN] using byRank

theorem isInf_of_finite {x : Float} (finite : isFinite x = true) : x.isInf = false := by
  rcases float_class x with ⟨_, notInf, _⟩ | ⟨top, _, _⟩ | ⟨_, notInf, _⟩
  · exact notInf
  · simp [isFinite, top] at finite
  · exact notInf

theorem isInf_of_not_finite {x : Float} (notFinite : isFinite x = false) (number : x.isNaN = false) :
    x.isInf = true := by
  rcases float_class x with ⟨finite, _⟩ | ⟨_, infinite, _⟩ | ⟨_, _, nan⟩
  · rw [finite] at notFinite
    cases notFinite
  · exact infinite
  · rw [nan] at number
    cases number

theorem not_finite_of_isInf {x : Float} (infinite : x.isInf = true) :
    isFinite x = false ∧ x.isNaN = false := by
  rcases float_class x with ⟨_, notInf, _⟩ | ⟨top, _, number⟩ | ⟨_, notInf, _⟩
  · rw [notInf] at infinite
    cases infinite
  · exact ⟨by simp [isFinite, top], number⟩
  · rw [notInf] at infinite
    cases infinite

/-! ## Floats of a given rank -/

theorem toBits_ofBits {bits : UInt64} (number : bits.toNat % 2 ^ 63 ≤ infinityRank) :
    (Float.ofBits bits).toBits = bits := by
  have valid : Format.binary64.Valid bits.toBitVec := by
    constructor
    intro top nonzero
    have high := (exponentField_eq_top_iff bits.toBitVec).1 top
    have zero := (mantissaField_eq_zero_iff high).2 (Nat.le_antisymm number high)
    exact absurd zero nonzero
  have packed := pack_unpack_of_valid valid
  simp only [Float.ofBits, Float.toBits, Float.Model.ofBits, Float.Model.pack, packed]

theorem rank_ofRank {negative : Bool} {given : Nat} (number : given ≤ infinityRank) :
    rank (ofRank negative given) = given := by
  have bound : infinityRank < 2 ^ 63 := by decide
  have small : (if negative then 2 ^ 63 + given else given) < 2 ^ 64 := by
    split <;> omega
  have bits : (UInt64.ofNat (if negative then 2 ^ 63 + given else given)).toNat % 2 ^ 63 =
      given := by
    rw [UInt64.toNat_ofNat_of_lt' small]
    split <;> omega
  rw [rank_eq, ofRank_eq, toBits_ofBits (by omega), bits]

theorem isNaN_ofRank {negative : Bool} {given : Nat} (number : given ≤ infinityRank) :
    (ofRank negative given).isNaN = false := by
  have same : rank (ofRank negative given) = given := rank_ofRank number
  rcases float_class (ofRank negative given) with ⟨_, _, number⟩ | ⟨_, _, number⟩ | ⟨above, _⟩
  · exact number
  · exact number
  · omega

end LoxForms.Binary64

namespace LoxForms.Decimal

theorem nearestRank_le (digits : Nat) (exponent : Int) :
    nearestRank digits exponent ≤ Binary64.infinityRank := by
  unfold nearestRank Binary64.nearest
  split
  · split
    · exact Nat.zero_le _
    · split
      · exact Nat.le_refl _
      · exact Nat.min_le_left _ _
  · dsimp only
    split
    · exact Nat.zero_le _
    · exact Nat.min_le_left _ _

/-- A decimal number is never rounded to something that is no number. -/
theorem isNaN_toFloat (d : Decimal) : d.toFloat.isNaN = false :=
  Binary64.isNaN_ofRank (nearestRank_le d.digits d.exponent)

end LoxForms.Decimal
