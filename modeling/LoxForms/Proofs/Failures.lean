import LoxForms.Proofs.Folding
import LoxForms.Proofs.Simplified

/-! # The first failure

A printer that folds asks the nodes for their values from the root downwards, and an operand that
varies hides the operands after it from the nodes above.  What is reported is still the failure that
comes first from the leaves upwards: operands before their operator, left before right, the values of
assignments included.  It is an operator's rejection of the values of its own operands.
-/

namespace LoxForms

namespace Expr

/-! ## The order of evaluation -/

/-- Every subexpression, each after its own subexpressions. -/
def postorder : Expr → List Expr
  | .assign name value => value.postorder ++ [.assign name value]
  | .binary left operator right =>
    left.postorder ++ right.postorder ++ [.binary left operator right]
  | .grouping inner => inner.postorder ++ [.grouping inner]
  | .literal value => [.literal value]
  | .unary operator operand => operand.postorder ++ [.unary operator operand]
  | .reference name => [.reference name]

theorem postorder_eq (e : Expr) : e.postorder = e.children.flatMap postorder ++ [e] := by
  cases e <;> simp [postorder, children]

theorem mem_postorder_iff {e node : Expr} : node ∈ e.postorder ↔ node ∈ e.nodes := by
  induction e using children_induction with
  | node e ih =>
    rw [postorder_eq, mem_nodes_iff, List.mem_append, List.mem_flatMap, List.mem_singleton, or_comm]
    exact or_congr_right (exists_congr fun child => and_congr_right fun member => ih child member)

/-! ## Rejections -/

/-- The operands of the node have values, and its operator rejects them with the failure. -/
inductive Rejects : Expr → FoldError → Prop where
  | unknownUnary {operator : Token} {operand : Expr} {value : Value}
      (folded : operand.fold = .ok (some value))
      (unknown : operator.kind ∉ Operator.unaryTable.map Prod.snd) :
      Rejects (.unary operator operand) (.invalidOperator operator)
  | negation {operator : Token} {operand : Expr} {value : Value}
      (folded : operand.fold = .ok (some value)) (minus : operator.kind = .minus)
      (noNumber : ∀ x, value ≠ .number x) :
      Rejects (.unary operator operand) (.invalidOperand operator value)
  | unknownBinary {left right : Expr} {operator : Token} {leftValue rightValue : Value}
      (leftFolded : left.fold = .ok (some leftValue))
      (rightFolded : right.fold = .ok (some rightValue))
      (unknown : operator.kind ∉ Operator.binaryTable.map Prod.snd) :
      Rejects (.binary left operator right) (.invalidOperator operator)
  | unsuited {left right : Expr} {operator : Token} {leftValue rightValue : Value}
      (leftFolded : left.fold = .ok (some leftValue))
      (rightFolded : right.fold = .ok (some rightValue))
      (known : operator.kind ∈ Operator.binaryTable.map Prod.snd)
      (noEquality : operator.kind ≠ .equalEqual ∧ operator.kind ≠ .bangEqual)
      (noNumbers : ∀ x y, ¬ (leftValue = .number x ∧ rightValue = .number y))
      (noStrings : operator.kind = .plus →
        ∀ s t, ¬ (leftValue = .string s ∧ rightValue = .string t)) :
      Rejects (.binary left operator right) (.invalidOperands operator leftValue rightValue)

/-- Only an operator whose operands have values fails where nothing below it does. -/
theorem rejects_of_fold_eq_error {e : Expr} {failure : FoldError}
    (failed : e.fold = .error failure)
    (operands : ∀ child ∈ e.children, ∃ constant, child.fold = .ok constant) :
    e.Rejects failure := by
  cases e with
  | assign name value => cases failed
  | literal value => cases failed
  | reference name => cases failed
  | grouping inner =>
    obtain ⟨constant, folded⟩ := operands inner (by simp [children])
    rw [fold, folded] at failed
    cases failed
  | unary operator operand =>
    obtain ⟨constant, folds⟩ := operands operand (by simp [children])
    rcases fold_unary_eq_error_iff.1 failed with below | ⟨value, folded, rejected⟩
    · rw [folds] at below
      cases below
    · rcases Token.applyUnary_eq_error_iff.1 rejected with ⟨unknown, rfl⟩ |
        ⟨⟨minus, noNumber⟩, rfl⟩
      · exact .unknownUnary folded unknown
      · exact .negation folded minus noNumber
  | binary left operator right =>
    obtain ⟨leftConstant, leftFolds⟩ := operands left (by simp [children])
    obtain ⟨rightConstant, rightFolds⟩ := operands right (by simp [children])
    rcases fold_binary_eq_error_iff.1 failed with
      below | ⟨leftValue, leftFolded, below | ⟨rightValue, rightFolded, rejected⟩⟩
    · rw [leftFolds] at below
      cases below
    · rw [rightFolds] at below
      cases below
    · rcases Token.applyBinary_eq_error_iff.1 rejected with ⟨unknown, rfl⟩ |
        ⟨known, ⟨noEquality, noNumbers, noStrings⟩, rfl⟩
      · exact .unknownBinary leftFolded rightFolded unknown
      · exact .unsuited leftFolded rightFolded known noEquality noNumbers noStrings

/-! ## The first failing node -/

/-- The node with its failure, if it fails to fold. -/
def failing? (e : Expr) : Option (Expr × FoldError) := (FoldError.of? e.fold).map (e, ·)

/-- The first subexpression that fails to fold, each looked at after its own subexpressions. -/
def firstFailing? (e : Expr) : Option (Expr × FoldError) := e.postorder.findSome? failing?

/-- What fails below a node comes before the node itself. -/
theorem firstFailing?_eq (e : Expr) :
    e.firstFailing? = (e.children.findSome? firstFailing?).or e.failing? := by
  have below : (e.children.flatMap postorder).findSome? failing? =
      e.children.findSome? firstFailing? := by
    unfold firstFailing?
    simp only [← List.head?_filterMap, List.filterMap_flatMap, List.head?_flatMap]
  rw [firstFailing?, postorder_eq, List.findSome?_append, List.findSome?_singleton, below]

theorem firstFailing?_eq_none_iff {e : Expr} : e.firstFailing? = none ↔ e.FoldsThroughout := by
  simp [firstFailing?, failing?, List.findSome?_eq_none_iff, mem_postorder_iff, FoldsThroughout]

theorem rejects_of_firstFailing? {e node : Expr} {failure : FoldError}
    (first : e.firstFailing? = some (node, failure)) : node.Rejects failure := by
  induction e using children_induction with
  | node e ih =>
    rw [firstFailing?_eq, Option.or_eq_some_iff] at first
    rcases first with below | ⟨nothingBelow, here⟩
    · obtain ⟨child, member, found⟩ := List.exists_of_findSome?_eq_some below
      exact ih child member found
    · simp only [failing?, Option.map_eq_some_iff, FoldError.of?_eq_some_iff, Prod.mk.injEq] at here
      obtain ⟨_, failed, rfl, rfl⟩ := here
      apply rejects_of_fold_eq_error failed
      intro child member
      have folds := List.findSome?_eq_none_iff.1 nothingBelow child member
      exact (firstFailing?_eq_none_iff.1 folds).root

/-! ## Failures of folding -/

/-- What has a value consists of parts that have values. -/
theorem constant_child {e child : Expr} {value : Value} (constant : e.fold = .ok (some value))
    (member : child ∈ e.children) : ∃ part, child.fold = .ok (some part) := by
  cases e with
  | assign name value => cases constant
  | literal value => simp [children] at member
  | reference name => cases constant
  | grouping inner =>
    obtain rfl : child = inner := by simpa [children] using member
    exact ⟨value, constant⟩
  | unary operator operand =>
    obtain rfl : child = operand := by simpa [children] using member
    obtain ⟨part, folded, _⟩ := fold_unary_eq_some_iff.1 constant
    exact ⟨part, folded⟩
  | binary left operator right =>
    obtain ⟨leftPart, rightPart, leftFolded, rightFolded, _⟩ := fold_binary_eq_some_iff.1 constant
    have which : child = left ∨ child = right := by simpa [children] using member
    rcases which with rfl | rfl
    · exact ⟨leftPart, leftFolded⟩
    · exact ⟨rightPart, rightFolded⟩

theorem constant_of_mem_nodes {e node : Expr} {value : Value}
    (constant : e.fold = .ok (some value)) (member : node ∈ e.nodes) :
    ∃ part, node.fold = .ok (some part) := by
  induction e using children_induction generalizing value with
  | node e ih =>
    rcases mem_nodes_iff.1 member with rfl | ⟨child, isChild, below⟩
    · exact ⟨value, constant⟩
    · obtain ⟨part, folded⟩ := constant_child constant isChild
      exact ih child isChild folded below

theorem foldsThroughout_of_constant {e : Expr} {value : Value}
    (constant : e.fold = .ok (some value)) : e.FoldsThroughout := by
  intro node member
  obtain ⟨part, folded⟩ := constant_of_mem_nodes constant member
  exact ⟨some part, folded⟩

theorem firstFailing?_of_constant {e : Expr} {value : Value}
    (constant : e.fold = .ok (some value)) : e.firstFailing? = none :=
  firstFailing?_eq_none_iff.2 (foldsThroughout_of_constant constant)

/-- A node fails with the first failure in it: the operands before that failure have values. -/
theorem firstFailing?_of_fold_eq_error {e : Expr} {failure : FoldError}
    (failed : e.fold = .error failure) : ∃ node, e.firstFailing? = some (node, failure) := by
  induction e with
  | assign name value => cases failed
  | literal value => cases failed
  | reference name => cases failed
  | grouping inner ih =>
    obtain ⟨node, first⟩ := ih failed
    refine ⟨node, ?_⟩
    rw [firstFailing?_eq]
    simp [children, first]
  | unary operator operand ih =>
    rcases fold_unary_eq_error_iff.1 failed with below | ⟨value, folded, _⟩
    · obtain ⟨node, first⟩ := ih below
      refine ⟨node, ?_⟩
      rw [firstFailing?_eq]
      simp [children, first]
    · refine ⟨.unary operator operand, ?_⟩
      rw [firstFailing?_eq]
      simp [children, firstFailing?_of_constant folded, failing?, failed]
  | binary left operator right leftHypothesis rightHypothesis =>
    rcases fold_binary_eq_error_iff.1 failed with
      below | ⟨leftValue, leftFolded, below | ⟨rightValue, rightFolded, _⟩⟩
    · obtain ⟨node, first⟩ := leftHypothesis below
      refine ⟨node, ?_⟩
      rw [firstFailing?_eq]
      simp [children, first]
    · obtain ⟨node, first⟩ := rightHypothesis below
      refine ⟨node, ?_⟩
      rw [firstFailing?_eq]
      simp [children, first, firstFailing?_of_constant leftFolded]
    · refine ⟨.binary left operator right, ?_⟩
      rw [firstFailing?_eq]
      simp [children, firstFailing?_of_constant leftFolded,
        firstFailing?_of_constant rightFolded, failing?, failed]

/-! ## Failures of rendering -/

/-- Without a constant value, a node fails to be shown where the first of its children does. -/
theorem of?_foldedText_of_not_constant {e : Expr} (varies : e.fold = .ok none) :
    FoldError.of? e.foldedText =
      (e.children.filterMap fun child => FoldError.of? child.foldedText).head? := by
  cases e with
  | literal _ => cases varies
  | reference _ => rfl
  | assign _ operand | grouping operand | unary _ operand =>
    cases shown : operand.render true <;>
      simp [foldedText, render, varies, children, shown, bind, Except.bind, pure, Except.pure,
        FoldError.of?]
  | binary left _ right =>
    cases leftShown : left.render true <;> cases rightShown : right.render true <;>
      simp [foldedText, render, varies, children, leftShown, rightShown, bind, Except.bind, pure,
        Except.pure, FoldError.of?]

theorem foldedText_of_fold_eq_error {e : Expr} {failure : FoldError}
    (failed : e.fold = .error failure) : e.foldedText = .error failure := by
  cases e with
  | binary _ _ _ | grouping _ | unary _ _ =>
    rw [foldedText, render, replacement?_folding, failed]
    rfl
  | assign _ _ | literal _ | reference _ => cases failed

/-- What is reported of an expression is its first failure. -/
theorem of?_foldedText (e : Expr) :
    FoldError.of? e.foldedText = e.firstFailing?.map Prod.snd := by
  induction e using children_induction with
  | node e ih =>
    rcases folded : e.fold with failure | _ | value
    · obtain ⟨node, first⟩ := firstFailing?_of_fold_eq_error folded
      rw [foldedText_of_fold_eq_error folded, first]
      rfl
    · have children : e.children.filterMap (fun child => FoldError.of? child.foldedText) =
          e.children.filterMap fun child => child.firstFailing?.map Prod.snd :=
        List.filterMap_congr ih
      rw [of?_foldedText_of_not_constant folded, children, firstFailing?_eq, List.head?_filterMap,
        failing?, folded]
      simp [FoldError.of?, List.map_findSome?, Function.comp_def]
    · rw [foldedText_of_constant folded, firstFailing?_of_constant folded]
      rfl

theorem of?_foldedText_eq_findSome? (e : Expr) :
    FoldError.of? e.foldedText = e.postorder.findSome? fun node => FoldError.of? node.fold := by
  rw [of?_foldedText, firstFailing?, List.map_findSome?]
  congr 1
  funext node
  simp [failing?, Function.comp_def]

theorem foldedText_eq_error_iff {e : Expr} {failure : FoldError} :
    e.foldedText = .error failure ↔ ∃ node, e.firstFailing? = some (node, failure) := by
  rw [← FoldError.of?_eq_some_iff, of?_foldedText]
  simp

theorem exists_foldedText_eq_ok_iff {e : Expr} :
    (∃ text, e.foldedText = .ok text) ↔ e.FoldsThroughout := by
  rw [← FoldError.of?_eq_none_iff, of?_foldedText, Option.map_eq_none_iff,
    firstFailing?_eq_none_iff]

/-! ## The place of the first failure -/

/-- The node is the first one in the list that fails to fold, and this is its failure. -/
def FailsFirst (nodes : List Expr) (node : Expr) (failure : FoldError) : Prop :=
  ∃ before after, nodes = before ++ node :: after ∧
    (∀ earlier ∈ before, ∃ constant, earlier.fold = .ok constant) ∧ node.fold = .error failure

theorem FailsFirst.mem_nodes {e node : Expr} {failure : FoldError}
    (first : FailsFirst e.postorder node failure) : node ∈ e.nodes := by
  obtain ⟨before, after, parts, -, -⟩ := first
  exact mem_postorder_iff.1 (by simp [parts])

theorem firstFailing?_eq_some_iff {e node : Expr} {failure : FoldError} :
    e.firstFailing? = some (node, failure) ↔ FailsFirst e.postorder node failure := by
  rw [firstFailing?, List.findSome?_eq_some_iff]
  constructor
  · rintro ⟨before, found, after, parts, failing, folds⟩
    simp only [failing?, Option.map_eq_some_iff, FoldError.of?_eq_some_iff, Prod.mk.injEq] at failing
    obtain ⟨_, failed, rfl, rfl⟩ := failing
    refine ⟨before, after, parts, fun earlier member => ?_, failed⟩
    simpa [failing?] using folds earlier member
  · rintro ⟨before, after, parts, folds, failed⟩
    refine ⟨before, node, after, parts, by simp [failing?, failed], fun earlier member => ?_⟩
    simpa [failing?] using folds earlier member

/-- Nothing that fails to fold is left unnoticed, wherever it stands. -/
theorem exists_foldedText_eq_error_iff {e : Expr} :
    (∃ failure, e.foldedText = .error failure) ↔
      ∃ node ∈ e.nodes, ∃ failure, node.fold = .error failure := by
  constructor
  · rintro ⟨failure, failed⟩
    obtain ⟨node, first⟩ := foldedText_eq_error_iff.1 failed
    obtain ⟨before, after, parts, _, failedNode⟩ := firstFailing?_eq_some_iff.1 first
    exact ⟨node, mem_postorder_iff.1 (by simp [parts]), failure, failedNode⟩
  · rintro ⟨node, member, failure, failed⟩
    cases first : e.firstFailing? with
    | none =>
      obtain ⟨constant, folded⟩ := firstFailing?_eq_none_iff.1 first node member
      rw [folded] at failed
      cases failed
    | some found => exact ⟨found.2, foldedText_eq_error_iff.2 ⟨found.1, first⟩⟩

theorem foldedText_eq_error_iff_failsFirst {e : Expr} {failure : FoldError} :
    e.foldedText = .error failure ↔
      ∃ node, FailsFirst e.postorder node failure ∧ node.Rejects failure := by
  rw [foldedText_eq_error_iff]
  refine exists_congr fun node => ?_
  rw [← firstFailing?_eq_some_iff]
  exact ⟨fun first => ⟨first, rejects_of_firstFailing? first⟩, And.left⟩

end Expr

/-- A statement fails as its expression does. -/
theorem Stmt.of?_foldedText (s : Stmt) :
    FoldError.of? s.foldedText = FoldError.of? s.body.foldedText := by
  cases s with
  | expression e | print e | declaration _ e =>
    cases shown : e.render true <;>
      simp [foldedText, Expr.foldedText, render, body, shown, bind, Except.bind, pure, Except.pure,
        FoldError.of?]

theorem Stmt.foldedText_eq_error_iff {s : Stmt} {failure : FoldError} :
    s.foldedText = .error failure ↔ s.body.foldedText = .error failure := by
  rw [← FoldError.of?_eq_some_iff, of?_foldedText, FoldError.of?_eq_some_iff]

theorem Stmt.exists_foldedText_eq_ok_iff {s : Stmt} :
    (∃ text, s.foldedText = .ok text) ↔ s.body.FoldsThroughout := by
  rw [← FoldError.of?_eq_none_iff, of?_foldedText, FoldError.of?_eq_none_iff,
    Expr.exists_foldedText_eq_ok_iff]

/-- Rendering with folding fails exactly if some subexpression fails to fold.  The failure is that of
the first such subexpression, each looked at after its own subexpressions, and there it is the
rejection of values by an operator. -/
theorem render_folding_eq_error_iff :
    (∀ e : Expr,
      ((∃ failure, e.render true = .error failure) ↔
        ∃ node ∈ e.nodes, ∃ failure, node.fold = .error failure) ∧
      ∀ failure, e.render true = .error failure ↔
        ∃ node, Expr.FailsFirst e.postorder node failure ∧ node.Rejects failure) ∧
    (∀ s : Stmt,
      ((∃ failure, s.render true = .error failure) ↔
        ∃ node ∈ s.body.nodes, ∃ failure, node.fold = .error failure) ∧
      ∀ failure, s.render true = .error failure ↔
        ∃ node, Expr.FailsFirst s.body.postorder node failure ∧ node.Rejects failure) := by
  refine ⟨fun e => ⟨?_, fun failure => ?_⟩, fun s => ⟨?_, fun failure => ?_⟩⟩
  · exact Expr.exists_foldedText_eq_error_iff
  · exact Expr.foldedText_eq_error_iff_failsFirst
  · exact (exists_congr fun _ => Stmt.foldedText_eq_error_iff).trans
      Expr.exists_foldedText_eq_error_iff
  · exact Stmt.foldedText_eq_error_iff.trans Expr.foldedText_eq_error_iff_failsFirst

/-- The root has no value because of the variable; the rejections of a word by the minus and of a
word by the plus are both behind it, and the one inside the assignment comes first. -/
example :
    (Stmt.print (.binary (.reference ⟨.identifier, "x", none, 1⟩) ⟨.star, "*", none, 1⟩
      (.binary
        (.assign ⟨.identifier, "y", none, 2⟩
          (.unary ⟨.minus, "-", none, 3⟩ (.literal (.string "word"))))
        ⟨.slash, "/", none, 4⟩
        (.binary (.literal (.boolean true)) ⟨.plus, "+", none, 5⟩
          (.literal (.string "word")))))).render true =
      .error (.invalidOperand ⟨.minus, "-", none, 3⟩ (.string "word")) := rfl

end LoxForms
