import LoxForms.Proofs.Binary64.Classes

/-! # Equality of floats

Two floats are equal in the sense of IEEE 754 if they are the same and a number, or if both are zeros
(`beq_iff_isEqual`).  So equality is symmetric and transitive, it is not reflexive at what is no
number, and the only different floats that are equal are the two zeros.
-/

namespace LoxForms.Binary64

open Float.Model (Format)
open Float.Model.UnpackedFloat

/-- The float is one of the two zeros. -/
def IsZero (x : Float) : Prop := rank x = 0

/-- Equality in the sense of IEEE 754. -/
def IsEqual (x y : Float) : Prop := x.isNaN = false ∧ (x = y ∨ IsZero x ∧ IsZero y)

/-! ## What floats stand for -/

/-- The float in its parts. -/
abbrev unpacked (x : Float) : Float.Model.UnpackedFloat := x.toModel.unpack

theorem unpacked_inj {x y : Float} : unpacked x = unpacked y ↔ x = y := by
  refine ⟨fun same => ?_, fun same => by rw [same]⟩
  have packed : ∀ z : Float, pack Format.binary64 (unpacked z) = z.toBits.toBitVec := fun z =>
    pack_unpack_of_valid z.toModel.valid
  have bits : x.toBits = y.toBits := by
    rw [← UInt64.toBitVec_inj, ← packed, ← packed, same]
  rw [← Float.ofBits_toBits x, bits, Float.ofBits_toBits]

theorem exponentField_eq_zero_iff {b : BitVec 64} :
    exponentField b = 0#_ ∧ mantissaField b = 0#_ ↔ b.toNat % 2 ^ 63 = 0 := by
  rw [← BitVec.toNat_inj, ← BitVec.toNat_inj, toNat_exponentField, toNat_mantissaField]
  change b.toNat / 2 ^ 52 % 2 ^ 11 = 0 ∧ b.toNat % 2 ^ 52 = 0 ↔ _
  omega

theorem isZero_iff {x : Float} : IsZero x ↔ ∃ sign, unpacked x = .zero sign := by
  have fields := exponentField_eq_zero_iff (b := x.toBits.toBitVec)
  change _ ↔ ∃ sign, unpack Format.binary64 x.toBits.toBitVec = .zero sign
  rw [IsZero, rank_eq, ← UInt64.toNat_toBitVec, ← fields]
  unfold unpack
  dsimp only
  split
  next top =>
    split <;> simp [top]
  next =>
    split
    next zero =>
      split
      next none => simp [zero, none]
      next some => simp [some]
    next nonzero => simp [nonzero]

/-! ## Comparison -/

theorem compare_infinity_eq_iff {sign other : Sign} :
    (infinity sign).compare (infinity other) = some .eq ↔ sign = other := by
  cases sign <;> cases other <;> simp [Float.Model.UnpackedFloat.compare] <;> decide

theorem compare_finite_eq_iff {sign other : Sign} {mantissa otherMantissa : Nat}
    {exponent otherExponent : Int} (positive : 0 < mantissa) (otherPositive : 0 < otherMantissa) :
    (finite sign mantissa exponent positive).compare
        (finite other otherMantissa otherExponent otherPositive) = some .eq ↔
      sign = other ∧ mantissa = otherMantissa ∧ exponent = otherExponent := by
  cases sign <;> cases other <;>
    simp [Float.Model.UnpackedFloat.compare, and_comm]

theorem compare_eq_some_eq_iff {first second : Float.Model.UnpackedFloat} :
    first.compare second = some .eq ↔
      first.isNaN = false ∧
        (first = second ∨ (∃ sign, first = .zero sign) ∧ ∃ sign, second = .zero sign) := by
  cases first with
  | notANumber => simp [Float.Model.UnpackedFloat.compare, isNaN]
  | infinity sign =>
    cases second with
    | infinity other =>
      rw [compare_infinity_eq_iff]
      simp [isNaN]
    | notANumber | zero _ | finite _ _ _ _ =>
      cases sign <;> simp [Float.Model.UnpackedFloat.compare]
  | zero sign =>
    cases second with
    | zero other => simp [Float.Model.UnpackedFloat.compare, isNaN]
    | notANumber => simp [Float.Model.UnpackedFloat.compare]
    | infinity other | finite other _ _ _ =>
      cases other <;> simp [Float.Model.UnpackedFloat.compare]
  | finite sign mantissa exponent positive =>
    cases second with
    | finite other otherMantissa otherExponent otherPositive =>
      rw [compare_finite_eq_iff]
      simp [isNaN]
    | notANumber => simp [Float.Model.UnpackedFloat.compare]
    | zero _ => cases sign <;> simp [Float.Model.UnpackedFloat.compare]
    | infinity other => cases other <;> simp [Float.Model.UnpackedFloat.compare]

theorem beq_iff_isEqual {x y : Float} : (x == y) = true ↔ IsEqual x y := by
  have parts : (x == y) = ((unpacked x).compare (unpacked y) == some .eq) := rfl
  have number : x.isNaN = (unpacked x).isNaN := rfl
  rw [parts, beq_iff_eq, compare_eq_some_eq_iff, IsEqual, isZero_iff, isZero_iff, unpacked_inj, number]

/-! ## Equal floats -/

theorem isNaN_of_isZero {x : Float} (zero : IsZero x) : x.isNaN = false := by
  rcases float_class x with ⟨_, _, number⟩ | ⟨_, _, number⟩ | ⟨above, _⟩
  · exact number
  · exact number
  · exact absurd zero (Nat.ne_of_gt (Nat.zero_lt_of_lt above))

theorem isEqual_self_iff {x : Float} : IsEqual x x ↔ x.isNaN = false := by
  simp [IsEqual]

theorem IsEqual.symm {x y : Float} (equal : IsEqual x y) : IsEqual y x := by
  obtain ⟨number, rfl | ⟨zero, otherZero⟩⟩ := equal
  · exact ⟨number, .inl rfl⟩
  · exact ⟨isNaN_of_isZero otherZero, .inr ⟨otherZero, zero⟩⟩

theorem IsEqual.trans {x y z : Float} (first : IsEqual x y) (second : IsEqual y z) :
    IsEqual x z := by
  obtain ⟨number, rfl | ⟨zero, middleZero⟩⟩ := first
  · exact second
  · obtain ⟨_, rfl | ⟨_, lastZero⟩⟩ := second
    · exact ⟨number, .inr ⟨zero, middleZero⟩⟩
    · exact ⟨number, .inr ⟨zero, lastZero⟩⟩

/-- Zero in the place of negative zero. -/
def unsignedZero (x : Float) : Float :=
  if isNegative x ∧ rank x = 0 then ofRank false 0 else x

theorem unsignedZero_of_isZero {x : Float} (zero : IsZero x) : unsignedZero x = ofRank false 0 := by
  have rankZero : rank x = 0 := zero
  unfold unsignedZero
  split
  · rfl
  next positive =>
    have sign : isNegative x = false := by simpa [rankZero] using positive
    rw [← ofRank_rank x, sign, rankZero]

theorem IsEqual.unsignedZero_eq {x y : Float} (equal : IsEqual x y) :
    unsignedZero x = unsignedZero y := by
  obtain ⟨_, rfl | ⟨zero, otherZero⟩⟩ := equal
  · rfl
  · rw [unsignedZero_of_isZero zero, unsignedZero_of_isZero otherZero]

end LoxForms.Binary64
