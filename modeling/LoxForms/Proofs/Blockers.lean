import LoxForms.Proofs.Failures

/-! # What settles the outcome of folding

Folding goes through a tree from the leaves upwards and from left to right, and leaves out the values
of assignments (`evaluated`).  It stops at the first node that has no value although it gets one from
every operand: a node that depends on a binding, or an operator that rejects its operands.  What comes
after such a blocker plays no part, and without one there is a value.
-/

namespace LoxForms

namespace Expr

/-! ## Blockers -/

/-- The subexpressions that folding looks at, each after its own ones. -/
def evaluated : Expr → List Expr
  | .assign name value => [.assign name value]
  | .binary left operator right =>
    left.evaluated ++ right.evaluated ++ [.binary left operator right]
  | .grouping inner => inner.evaluated ++ [.grouping inner]
  | .literal value => [.literal value]
  | .unary operator operand => operand.evaluated ++ [.unary operator operand]
  | .reference name => [.reference name]

/-- The node reads or writes a variable. -/
inductive IsBinding : Expr → Prop where
  | assign (name : Token) (value : Expr) : IsBinding (.assign name value)
  | reference (name : Token) : IsBinding (.reference name)

/-- The node has no value, and not because of its operands. -/
def IsBlocker (e : Expr) : Prop := e.IsBinding ∨ ∃ failure, e.Rejects failure

/-- The node is the first blocker in the list. -/
def BlocksFirst (nodes : List Expr) (node : Expr) : Prop :=
  ∃ before after, nodes = before ++ node :: after ∧
    (∀ earlier ∈ before, ¬ earlier.IsBlocker) ∧ node.IsBlocker

theorem mem_nodes_of_mem_evaluated {e node : Expr} (member : node ∈ e.evaluated) :
    node ∈ e.nodes := by
  induction e with
  | assign name value =>
    rw [evaluated, List.mem_singleton] at member
    exact member ▸ self_mem_nodes _
  | binary left operator right leftHypothesis rightHypothesis =>
    simp only [evaluated, List.mem_append, List.mem_singleton] at member
    rcases member with (inLeft | inRight) | rfl
    · exact mem_nodes_iff.2 (.inr ⟨left, by simp [children], leftHypothesis inLeft⟩)
    · exact mem_nodes_iff.2 (.inr ⟨right, by simp [children], rightHypothesis inRight⟩)
    · exact self_mem_nodes _
  | grouping inner ih | unary operator inner ih =>
    simp only [evaluated, List.mem_append, List.mem_singleton] at member
    rcases member with below | rfl
    · exact mem_nodes_iff.2 (.inr ⟨inner, by simp [children], ih below⟩)
    · exact self_mem_nodes _
  | literal value | reference name => simpa [evaluated, nodes] using member

/-! ## What a blocker folds to -/

theorem IsBinding.fold_eq {e : Expr} (binding : e.IsBinding) : e.fold = .ok none := by
  cases binding <;> rfl

theorem Rejects.fold_eq {e : Expr} {failure : FoldError} (rejects : e.Rejects failure) :
    e.fold = .error failure := by
  cases rejects with
  | unknownUnary folded unknown =>
    exact fold_unary_eq_error_iff.2 (.inr ⟨_, folded,
      Token.applyUnary_eq_error_iff.2 (.inl ⟨unknown, rfl⟩)⟩)
  | negation folded minus noNumber =>
    exact fold_unary_eq_error_iff.2 (.inr ⟨_, folded,
      Token.applyUnary_eq_error_iff.2 (.inr ⟨⟨minus, noNumber⟩, rfl⟩)⟩)
  | unknownBinary leftFolded rightFolded unknown =>
    exact fold_binary_eq_error_iff.2 (.inr ⟨_, leftFolded, .inr ⟨_, rightFolded,
      Token.applyBinary_eq_error_iff.2 (.inl ⟨unknown, rfl⟩)⟩⟩)
  | unsuited leftFolded rightFolded known noEquality noNumbers noStrings =>
    exact fold_binary_eq_error_iff.2 (.inr ⟨_, leftFolded, .inr ⟨_, rightFolded,
      Token.applyBinary_eq_error_iff.2
        (.inr ⟨known, ⟨noEquality, noNumbers, noStrings⟩, rfl⟩)⟩⟩)

theorem rejects_iff {e : Expr} {failure : FoldError} :
    e.Rejects failure ↔
      e.fold = .error failure ∧ ∀ child ∈ e.children, ∃ value, child.fold = .ok (some value) := by
  constructor
  · intro rejects
    refine ⟨rejects.fold_eq, ?_⟩
    cases rejects with
    | unknownUnary folded _ | negation folded _ _ => simpa [children] using ⟨_, folded⟩
    | unknownBinary leftFolded rightFolded _ | unsuited leftFolded rightFolded _ _ _ _ =>
      simpa [children] using ⟨⟨_, leftFolded⟩, ⟨_, rightFolded⟩⟩
  · rintro ⟨failed, operands⟩
    apply rejects_of_fold_eq_error failed
    intro child member
    obtain ⟨value, constant⟩ := operands child member
    exact ⟨some value, constant⟩

namespace IsBlocker

variable {e : Expr}

theorem fold_eq_none_iff (blocker : e.IsBlocker) : e.fold = .ok none ↔ e.IsBinding := by
  refine ⟨fun varies => ?_, IsBinding.fold_eq⟩
  rcases blocker with binding | ⟨failure, rejects⟩
  · exact binding
  · rw [rejects.fold_eq] at varies
    cases varies

theorem fold_eq_error_iff (blocker : e.IsBlocker) {failure : FoldError} :
    e.fold = .error failure ↔ e.Rejects failure := by
  refine ⟨fun failed => ?_, Rejects.fold_eq⟩
  rcases blocker with binding | ⟨other, rejects⟩
  · rw [binding.fold_eq] at failed
    cases failed
  · rw [rejects.fold_eq] at failed
    cases failed
    exact rejects

theorem not_constant (blocker : e.IsBlocker) (value : Value) : e.fold ≠ .ok (some value) := by
  intro constant
  rcases blocker with binding | ⟨failure, rejects⟩
  · rw [binding.fold_eq] at constant
    cases constant
  · rw [rejects.fold_eq] at constant
    cases constant

end IsBlocker

theorem not_isBlocker_of_constant {e : Expr} {value : Value}
    (constant : e.fold = .ok (some value)) : ∀ node ∈ e.evaluated, ¬ node.IsBlocker := by
  intro node member blocker
  obtain ⟨part, folded⟩ := constant_of_mem_nodes constant (mem_nodes_of_mem_evaluated member)
  exact blocker.not_constant part folded

/-! ## The first blocker -/

namespace BlocksFirst

variable {nodes others : List Expr} {node other : Expr}

theorem singleton (blocker : node.IsBlocker) : BlocksFirst [node] node :=
  ⟨[], [], rfl, by simp, blocker⟩

theorem append_right (first : BlocksFirst nodes node) : BlocksFirst (nodes ++ others) node := by
  obtain ⟨before, after, rfl, none, blocker⟩ := first
  exact ⟨before, after ++ others, by simp, none, blocker⟩

theorem append_left (none : ∀ earlier ∈ others, ¬ earlier.IsBlocker)
    (first : BlocksFirst nodes node) : BlocksFirst (others ++ nodes) node := by
  obtain ⟨before, after, rfl, noneBefore, blocker⟩ := first
  refine ⟨others ++ before, after, by simp, fun earlier member => ?_, blocker⟩
  exact (List.mem_append.1 member).elim (none earlier) (noneBefore earlier)

theorem mem (first : BlocksFirst nodes node) : node ∈ nodes := by
  obtain ⟨before, after, rfl, -, -⟩ := first
  simp

theorem isBlocker (first : BlocksFirst nodes node) : node.IsBlocker := by
  obtain ⟨_, _, _, _, blocker⟩ := first
  exact blocker

/-- A list has one first blocker. -/
theorem unique (first : BlocksFirst nodes node) (second : BlocksFirst nodes other) :
    node = other := by
  obtain ⟨before, after, rfl, none, blocker⟩ := first
  obtain ⟨before', after', same, none', blocker'⟩ := second
  -- Where the two splits differ, one of the nodes is among those in front of the other.
  rcases List.append_eq_append_iff.1 same with ⟨between, rfl, rest⟩ | ⟨between, rfl, rest⟩
  · cases between with
    | nil => exact (List.cons.inj rest).1
    | cons found _ =>
      obtain rfl := (List.cons.inj rest).1
      exact absurd blocker (none' node (by simp))
  · cases between with
    | nil => exact (List.cons.inj rest).1.symm
    | cons found _ =>
      obtain rfl := (List.cons.inj rest).1
      exact absurd blocker' (none other (by simp))

end BlocksFirst

/-- Where all operands have values and the node has none, the node itself is to blame. -/
theorem isBlocker_of_operands {e : Expr} (varies : ∀ value, e.fold ≠ .ok (some value))
    (operands : ∀ child ∈ e.children, ∃ value, child.fold = .ok (some value)) : e.IsBlocker := by
  rcases folded : e.fold with failure | _ | value
  · exact .inr ⟨failure, rejects_iff.2 ⟨folded, operands⟩⟩
  · left
    cases e with
    | assign name value => exact .assign name value
    | reference name => exact .reference name
    | literal value => cases folded
    | grouping inner =>
      obtain ⟨value, constant⟩ := operands inner (by simp [children])
      exact absurd constant (varies value)
    | unary operator operand =>
      obtain ⟨value, constant⟩ := operands operand (by simp [children])
      rw [fold_unary_eq_none_iff, constant] at folded
      cases folded
    | binary left operator right =>
      obtain ⟨leftValue, leftConstant⟩ := operands left (by simp [children])
      obtain ⟨rightValue, rightConstant⟩ := operands right (by simp [children])
      rcases fold_binary_eq_none_iff.1 folded with leftVaries | ⟨_, _, rightVaries⟩
      · rw [leftConstant] at leftVaries
        cases leftVaries
      · rw [rightConstant] at rightVaries
        cases rightVaries
  · exact absurd folded (varies value)

/-- Where there is no value, the first blocker folds to what the whole folds to. -/
theorem exists_blocksFirst {e : Expr} (varies : ∀ value, e.fold ≠ .ok (some value)) :
    ∃ node, BlocksFirst e.evaluated node ∧ node.fold = e.fold := by
  induction e with
  | assign name value => exact ⟨_, .singleton (.inl (.assign name value)), rfl⟩
  | reference name => exact ⟨_, .singleton (.inl (.reference name)), rfl⟩
  | literal value => exact absurd rfl (varies value)
  | grouping inner ih =>
    obtain ⟨node, first, same⟩ := ih varies
    exact ⟨node, first.append_right, same⟩
  | unary operator operand ih =>
    by_cases constant : ∃ value, operand.fold = .ok (some value)
    · have blocker := isBlocker_of_operands varies (by simpa [children] using constant)
      obtain ⟨value, folded⟩ := constant
      exact ⟨_, .append_left (not_isBlocker_of_constant folded) (.singleton blocker), rfl⟩
    · have operandVaries := not_exists.1 constant
      obtain ⟨node, first, same⟩ := ih operandVaries
      exact ⟨node, first.append_right, same.trans (fold_unary_of_not_constant operandVaries).symm⟩
  | binary left operator right leftHypothesis rightHypothesis =>
    by_cases leftConstant : ∃ value, left.fold = .ok (some value)
    · by_cases rightConstant : ∃ value, right.fold = .ok (some value)
      · have blocker := isBlocker_of_operands varies
          (by simpa [children] using ⟨leftConstant, rightConstant⟩)
        obtain ⟨leftValue, leftFolded⟩ := leftConstant
        obtain ⟨rightValue, rightFolded⟩ := rightConstant
        refine ⟨_, .append_left (fun earlier member => ?_) (.singleton blocker), rfl⟩
        exact (List.mem_append.1 member).elim (not_isBlocker_of_constant leftFolded earlier)
          (not_isBlocker_of_constant rightFolded earlier)
      · have rightVaries := not_exists.1 rightConstant
        obtain ⟨leftValue, leftFolded⟩ := leftConstant
        obtain ⟨node, first, same⟩ := rightHypothesis rightVaries
        exact ⟨node, (first.append_left (not_isBlocker_of_constant leftFolded)).append_right,
          same.trans (fold_binary_of_right_not_constant leftFolded rightVaries).symm⟩
    · have leftVaries := not_exists.1 leftConstant
      obtain ⟨node, first, same⟩ := leftHypothesis leftVaries
      exact ⟨node, first.append_right.append_right,
        same.trans (fold_binary_of_left_not_constant leftVaries).symm⟩

/-- What blocks first is what the whole folds to. -/
theorem BlocksFirst.fold_eq {e node : Expr} (first : BlocksFirst e.evaluated node) :
    e.fold = node.fold := by
  have varies : ∀ value, e.fold ≠ .ok (some value) := fun value constant =>
    not_isBlocker_of_constant constant node first.mem first.isBlocker
  obtain ⟨other, firstToo, same⟩ := exists_blocksFirst varies
  rw [← same, first.unique firstToo]

theorem exists_fold_eq_some_iff {e : Expr} :
    (∃ value, e.fold = .ok (some value)) ↔ ∀ node ∈ e.evaluated, ¬ node.IsBlocker := by
  constructor
  · rintro ⟨value, constant⟩
    exact not_isBlocker_of_constant constant
  · intro none
    by_contra varies
    obtain ⟨node, first, _⟩ := exists_blocksFirst (not_exists.1 varies)
    exact none node first.mem first.isBlocker

theorem fold_eq_none_iff_blocksFirst {e : Expr} :
    e.fold = .ok none ↔ ∃ node, BlocksFirst e.evaluated node ∧ node.IsBinding := by
  constructor
  · intro folded
    obtain ⟨node, first, same⟩ := exists_blocksFirst (e := e) (by simp [folded])
    exact ⟨node, first, first.isBlocker.fold_eq_none_iff.1 (same.trans folded)⟩
  · rintro ⟨node, first, binding⟩
    rw [first.fold_eq, binding.fold_eq]

theorem fold_eq_error_iff_blocksFirst {e : Expr} {failure : FoldError} :
    e.fold = .error failure ↔ ∃ node, BlocksFirst e.evaluated node ∧ node.Rejects failure := by
  constructor
  · intro failed
    obtain ⟨node, first, same⟩ := exists_blocksFirst (e := e) (by simp [failed])
    exact ⟨node, first, first.isBlocker.fold_eq_error_iff.1 (same.trans failed)⟩
  · rintro ⟨node, first, rejects⟩
    rw [first.fold_eq, rejects.fold_eq]

/-! ## Groupings -/

/-- The expression without its groupings. -/
def ungrouped : Expr → Expr
  | .assign name value => .assign name value.ungrouped
  | .binary left operator right => .binary left.ungrouped operator right.ungrouped
  | .grouping inner => inner.ungrouped
  | .literal value => .literal value
  | .unary operator operand => .unary operator operand.ungrouped
  | .reference name => .reference name

theorem fold_ungrouped (e : Expr) : e.ungrouped.fold = e.fold := by
  induction e with
  | assign name value => rfl
  | binary left operator right leftHypothesis rightHypothesis =>
    rw [ungrouped, fold_binary, fold_binary, leftHypothesis, rightHypothesis]
  | grouping inner ih => exact ih
  | literal value => rfl
  | unary operator operand ih => rw [ungrouped, fold_unary, fold_unary, ih]
  | reference name => rfl

end Expr

/-- The first blocker in the order of evaluation settles the outcome of folding: without one there is
a value, a binding leaves the expression without one, and an operator that rejects its operands makes
it fail with its own failure.  So nothing in an expression with a value is a binding, something in
one that varies is, and groupings make no difference. -/
theorem fold_settled_by_first_blocker (e : Expr) :
    ((∃ value, e.fold = .ok (some value)) ↔ ∀ node ∈ e.evaluated, ¬ node.IsBlocker) ∧
      (e.fold = .ok none ↔ ∃ node, Expr.BlocksFirst e.evaluated node ∧ node.IsBinding) ∧
      (∀ failure, e.fold = .error failure ↔
        ∃ node, Expr.BlocksFirst e.evaluated node ∧ node.Rejects failure) ∧
      ((∃ value, e.fold = .ok (some value)) → ∀ node ∈ e.nodes, ¬ node.IsBinding) ∧
      (e.fold = .ok none → ∃ node ∈ e.nodes, node.IsBinding) ∧
      e.ungrouped.fold = e.fold := by
  refine ⟨Expr.exists_fold_eq_some_iff, Expr.fold_eq_none_iff_blocksFirst,
    fun failure => Expr.fold_eq_error_iff_blocksFirst, ?_, ?_, e.fold_ungrouped⟩
  · rintro ⟨value, constant⟩ node member binding
    obtain ⟨part, folded⟩ := Expr.constant_of_mem_nodes constant member
    rw [binding.fold_eq] at folded
    cases folded
  · intro varies
    obtain ⟨node, first, binding⟩ := Expr.fold_eq_none_iff_blocksFirst.1 varies
    exact ⟨node, Expr.mem_nodes_of_mem_evaluated first.mem, binding⟩

/-- A word is negated on one side of a sum and a variable is read on the other: the left one of the two
settles the outcome.  The negation of a keyword has a value. -/
theorem fold_sums_of_variable_and_word :
    (∃ node ∈ (Expr.binary (.reference ⟨.identifier, "x", none, 1⟩) ⟨.plus, "+", none, 1⟩
        (.unary ⟨.minus, "-", none, 1⟩ (.literal (.string "word")))).nodes, node.IsBinding) ∧
      (∃ node, Expr.BlocksFirst
          (Expr.binary (.unary ⟨.minus, "-", none, 1⟩ (.literal (.string "word")))
            ⟨.plus, "+", none, 1⟩ (.reference ⟨.identifier, "x", none, 1⟩)).evaluated node ∧
        node.Rejects (.invalidOperand ⟨.minus, "-", none, 1⟩ (.string "word"))) ∧
      ∀ node ∈ (Expr.unary ⟨.bang, "!", none, 1⟩ (.literal .nil)).nodes, ¬ node.IsBinding := by
  refine ⟨?_, ?_, ?_⟩
  · obtain ⟨-, -, -, -, binding, -⟩ := fold_settled_by_first_blocker
      (.binary (.reference ⟨.identifier, "x", none, 1⟩) ⟨.plus, "+", none, 1⟩
        (.unary ⟨.minus, "-", none, 1⟩ (.literal (.string "word"))))
    exact binding rfl
  · obtain ⟨-, -, rejection, -⟩ := fold_settled_by_first_blocker
      (.binary (.unary ⟨.minus, "-", none, 1⟩ (.literal (.string "word")))
        ⟨.plus, "+", none, 1⟩ (.reference ⟨.identifier, "x", none, 1⟩))
    exact (rejection _).1 rfl
  · obtain ⟨-, -, -, free, -⟩ := fold_settled_by_first_blocker
      (.unary ⟨.bang, "!", none, 1⟩ (.literal .nil))
    exact free ⟨_, rfl⟩

end LoxForms
