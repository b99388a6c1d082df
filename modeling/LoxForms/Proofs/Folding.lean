import LoxForms.Fold
import LoxForms.Operator

/-! # Outcomes of folding

What an operation rejects, said by the kinds and values alone, and how the outcome of a node comes
from those of its operands.  Later arguments about folding go through these equivalences.
-/

namespace LoxForms

/-- The failure that a computation ends in, if it ends in one. -/
def FoldError.of? {α : Type} : Except FoldError α → Option FoldError
  | .error failure => some failure
  | .ok _ => none

@[simp] theorem FoldError.of?_eq_some_iff {α : Type} {outcome : Except FoldError α}
    {failure : FoldError} : FoldError.of? outcome = some failure ↔ outcome = .error failure := by
  cases outcome <;> simp [FoldError.of?]

@[simp] theorem FoldError.of?_eq_none_iff {α : Type} {outcome : Except FoldError α} :
    FoldError.of? outcome = none ↔ ∃ result, outcome = .ok result := by
  cases outcome <;> simp [FoldError.of?]

/-! ## Operations -/

namespace Operation

theorem isUnary_iff {kind : TokenKind} :
    isUnary kind = true ↔ kind ∈ Operator.unaryTable.map Prod.snd := by
  cases kind <;> decide

theorem isBinary_iff {kind : TokenKind} :
    isBinary kind = true ↔ kind ∈ Operator.binaryTable.map Prod.snd := by
  cases kind <;> decide

/-- The negation is defined on numbers, the other operation on one value on all of them. -/
theorem unary?_eq_none_iff {kind : TokenKind} (known : isUnary kind = true) {value : Value} :
    unary? kind value = none ↔ kind = .minus ∧ ∀ x, value ≠ .number x := by
  have entry := isUnary_iff.1 known
  simp only [Operator.unaryTable, List.map_cons, List.map_nil, List.mem_cons, List.not_mem_nil,
    or_false] at entry
  rcases entry with rfl | rfl <;> cases value <;> simp [unary?]

/-- Equality is defined on all values, addition on two numbers or two strings, the others on two
numbers. -/
theorem binary?_eq_none_iff {kind : TokenKind} (known : isBinary kind = true)
    {left right : Value} :
    binary? kind left right = none ↔
      (kind ≠ .equalEqual ∧ kind ≠ .bangEqual) ∧
        (∀ x y, ¬ (left = .number x ∧ right = .number y)) ∧
        (kind = .plus → ∀ s t, ¬ (left = .string s ∧ right = .string t)) := by
  have entry := isBinary_iff.1 known
  simp only [Operator.binaryTable, List.map_cons, List.map_nil, List.mem_cons, List.not_mem_nil,
    or_false] at entry
  rcases entry with rfl | rfl | rfl | rfl | rfl | rfl | rfl | rfl | rfl | rfl <;>
    cases left <;> cases right <;> simp [binary?, numeric?]

theorem unary?_of_unknown {kind : TokenKind} (unknown : isUnary kind = false) (value : Value) :
    unary? kind value = none := by
  cases kind <;> first | rfl | cases unknown

theorem numeric?_of_unknown {kind : TokenKind} (unknown : isBinary kind = false)
    (left right : Float) : numeric? kind left right = none := by
  cases kind <;> first | rfl | cases unknown

theorem binary?_of_unknown {kind : TokenKind} (unknown : isBinary kind = false)
    (left right : Value) : binary? kind left right = none := by
  unfold binary?
  split
  · cases unknown
  · cases unknown
  · cases unknown
  · exact numeric?_of_unknown unknown _ _
  · rfl

end Operation

namespace Token

theorem applyUnary_eq_ok_iff {operator : Token} {value result : Value} :
    operator.applyUnary value = .ok result ↔
      Operation.unary? operator.kind value = some result := by
  unfold applyUnary
  split
  next found => simp [found]
  next missing => split <;> simp [missing]

theorem applyBinary_eq_ok_iff {operator : Token} {left right result : Value} :
    operator.applyBinary left right = .ok result ↔
      Operation.binary? operator.kind left right = some result := by
  unfold applyBinary
  split
  next found => simp [found]
  next missing => split <;> simp [missing]

/-- An operator rejects a value if it stands for no operation on one value, and a negation rejects
what is no number. -/
theorem applyUnary_eq_error_iff {operator : Token} {value : Value} {failure : FoldError} :
    operator.applyUnary value = .error failure ↔
      (operator.kind ∉ Operator.unaryTable.map Prod.snd ∧ failure = .invalidOperator operator) ∨
        ((operator.kind = .minus ∧ ∀ x, value ≠ .number x) ∧
          failure = .invalidOperand operator value) := by
  rw [applyUnary, ← Operation.isUnary_iff]
  cases known : Operation.isUnary operator.kind with
  | false =>
    have noMinus : operator.kind ≠ .minus := by
      intro minus
      simp [minus, Operation.isUnary] at known
    simp [Operation.unary?_of_unknown known, noMinus, eq_comm]
  | true =>
    rw [← Operation.unary?_eq_none_iff known]
    cases Operation.unary? operator.kind value <;> simp [eq_comm]

theorem applyBinary_eq_error_iff {operator : Token} {left right : Value} {failure : FoldError} :
    operator.applyBinary left right = .error failure ↔
      (operator.kind ∉ Operator.binaryTable.map Prod.snd ∧ failure = .invalidOperator operator) ∨
        (operator.kind ∈ Operator.binaryTable.map Prod.snd ∧
          ((operator.kind ≠ .equalEqual ∧ operator.kind ≠ .bangEqual) ∧
            (∀ x y, ¬ (left = .number x ∧ right = .number y)) ∧
            (operator.kind = .plus → ∀ s t, ¬ (left = .string s ∧ right = .string t))) ∧
          failure = .invalidOperands operator left right) := by
  rw [applyBinary, ← Operation.isBinary_iff]
  cases known : Operation.isBinary operator.kind with
  | false => simp [Operation.binary?_of_unknown known, eq_comm]
  | true =>
    rw [← Operation.binary?_eq_none_iff known]
    cases Operation.binary? operator.kind left right <;> simp [eq_comm]

end Token

namespace Expr

/-! ## Nodes -/

@[simp] theorem map_some_eq_error_iff {outcome : Except FoldError Value} {failure : FoldError} :
    outcome.map some = .error failure ↔ outcome = .error failure := by
  cases outcome <;> simp [Except.map]

@[simp] theorem map_some_ne_none (outcome : Except FoldError Value) :
    outcome.map some ≠ .ok none := by
  cases outcome <;> simp [Except.map]

@[simp] theorem map_some_eq_some_iff {outcome : Except FoldError Value} {value : Value} :
    outcome.map some = .ok (some value) ↔ outcome = .ok value := by
  cases outcome <;> simp [Except.map]

theorem fold_unary (operator : Token) (operand : Expr) :
    (Expr.unary operator operand).fold =
      match operand.fold with
      | .error failure => .error failure
      | .ok none => .ok none
      | .ok (some value) => (operator.applyUnary value).map some := by
  rw [fold]
  rcases operand.fold with _ | _ | value <;> rfl

theorem fold_binary (left : Expr) (operator : Token) (right : Expr) :
    (Expr.binary left operator right).fold =
      match left.fold, right.fold with
      | .error failure, _ => .error failure
      | .ok none, _ => .ok none
      | .ok (some _), .error failure => .error failure
      | .ok (some _), .ok none => .ok none
      | .ok (some leftValue), .ok (some rightValue) =>
        (operator.applyBinary leftValue rightValue).map some := by
  rw [fold]
  rcases left.fold with _ | _ | leftValue
  · rfl
  · rfl
  · rcases right.fold with _ | _ | rightValue <;> rfl

section Unary

variable {operator : Token} {operand : Expr}

theorem fold_unary_of_not_constant (varies : ∀ value, operand.fold ≠ .ok (some value)) :
    (Expr.unary operator operand).fold = operand.fold := by
  rw [fold_unary]
  rcases folded : operand.fold with _ | _ | value
  · rfl
  · rfl
  · exact absurd folded (varies value)

theorem fold_unary_eq_error_iff {failure : FoldError} :
    (Expr.unary operator operand).fold = .error failure ↔
      operand.fold = .error failure ∨
        ∃ value, operand.fold = .ok (some value) ∧ operator.applyUnary value = .error failure := by
  rw [fold_unary]
  rcases operand.fold with _ | _ | value <;> simp

theorem fold_unary_eq_none_iff :
    (Expr.unary operator operand).fold = .ok none ↔ operand.fold = .ok none := by
  rw [fold_unary]
  rcases operand.fold with _ | _ | value <;> simp

theorem fold_unary_eq_some_iff {result : Value} :
    (Expr.unary operator operand).fold = .ok (some result) ↔
      ∃ value, operand.fold = .ok (some value) ∧ operator.applyUnary value = .ok result := by
  rw [fold_unary]
  rcases operand.fold with _ | _ | value <;> simp

end Unary

section Binary

variable {left right : Expr} {operator : Token}

theorem fold_binary_of_left_not_constant (varies : ∀ value, left.fold ≠ .ok (some value)) :
    (Expr.binary left operator right).fold = left.fold := by
  rw [fold_binary]
  rcases folded : left.fold with _ | _ | value
  · rfl
  · rfl
  · exact absurd folded (varies value)

theorem fold_binary_of_right_not_constant {leftValue : Value}
    (constant : left.fold = .ok (some leftValue)) (varies : ∀ value, right.fold ≠ .ok (some value)) :
    (Expr.binary left operator right).fold = right.fold := by
  rw [fold_binary, constant]
  rcases folded : right.fold with _ | _ | value
  · rfl
  · rfl
  · exact absurd folded (varies value)

/-- The right operand is looked at only if the left one has a value. -/
theorem fold_binary_eq_error_iff {failure : FoldError} :
    (Expr.binary left operator right).fold = .error failure ↔
      left.fold = .error failure ∨
        ∃ leftValue, left.fold = .ok (some leftValue) ∧
          (right.fold = .error failure ∨
            ∃ rightValue, right.fold = .ok (some rightValue) ∧
              operator.applyBinary leftValue rightValue = .error failure) := by
  rw [fold_binary]
  rcases left.fold with _ | _ | leftValue
  · simp
  · simp
  · rcases right.fold with _ | _ | rightValue <;> simp

theorem fold_binary_eq_none_iff :
    (Expr.binary left operator right).fold = .ok none ↔
      left.fold = .ok none ∨
        ∃ leftValue, left.fold = .ok (some leftValue) ∧ right.fold = .ok none := by
  rw [fold_binary]
  rcases left.fold with _ | _ | leftValue
  · simp
  · simp
  · rcases right.fold with _ | _ | rightValue <;> simp

theorem fold_binary_eq_some_iff {result : Value} :
    (Expr.binary left operator right).fold = .ok (some result) ↔
      ∃ leftValue rightValue, left.fold = .ok (some leftValue) ∧
        right.fold = .ok (some rightValue) ∧
        operator.applyBinary leftValue rightValue = .ok result := by
  rw [fold_binary]
  rcases left.fold with _ | _ | leftValue
  · simp
  · simp
  · rcases right.fold with _ | _ | rightValue <;> simp

end Binary

end Expr

end LoxForms
