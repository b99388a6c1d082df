import Mathlib.Data.List.Forall2
import LoxForms.Syntax

/-! # Trees of one shape

A `Likeness` says what the two tokens, or the two values, in the same place of two trees have to share,
and it can ask for less of a name than of an operator.  Two trees match if they have the same shape
and are alike in every place.
-/

namespace LoxForms

structure Likeness where
  operator : Token → Token → Prop
  /-- For the names of assignments and declarations. -/
  name : Token → Token → Prop
  reference : Token → Token → Prop
  /-- For literals. -/
  value : Value → Value → Prop

variable {likeness : Likeness}

inductive Expr.Matches (likeness : Likeness) : Expr → Expr → Prop where
  | assign {name otherName : Token} {value otherValue : Expr}
      (names : likeness.name name otherName) (values : Matches likeness value otherValue) :
      Matches likeness (.assign name value) (.assign otherName otherValue)
  | binary {left otherLeft right otherRight : Expr} {operator otherOperator : Token}
      (lefts : Matches likeness left otherLeft)
      (operators : likeness.operator operator otherOperator)
      (rights : Matches likeness right otherRight) :
      Matches likeness (.binary left operator right) (.binary otherLeft otherOperator otherRight)
  | grouping {inner otherInner : Expr} (inners : Matches likeness inner otherInner) :
      Matches likeness (.grouping inner) (.grouping otherInner)
  | literal {value otherValue : Value} (values : likeness.value value otherValue) :
      Matches likeness (.literal value) (.literal otherValue)
  | unary {operator otherOperator : Token} {operand otherOperand : Expr}
      (operators : likeness.operator operator otherOperator)
      (operands : Matches likeness operand otherOperand) :
      Matches likeness (.unary operator operand) (.unary otherOperator otherOperand)
  | reference {name otherName : Token} (names : likeness.reference name otherName) :
      Matches likeness (.reference name) (.reference otherName)

inductive Stmt.Matches (likeness : Likeness) : Stmt → Stmt → Prop where
  | expression {e other : Expr} (bodies : e.Matches likeness other) :
      Matches likeness (.expression e) (.expression other)
  | print {e other : Expr} (bodies : e.Matches likeness other) :
      Matches likeness (.print e) (.print other)
  | declaration {name otherName : Token} {e other : Expr} (names : likeness.name name otherName)
      (bodies : e.Matches likeness other) :
      Matches likeness (.declaration name e) (.declaration otherName other)

/-- The statements match one by one. -/
def Program.Matches (likeness : Likeness) : Program → Program → Prop :=
  List.Forall₂ (Stmt.Matches likeness)

/-! ## Nodes that match -/

namespace Expr

@[simp] theorem assign_matches_assign_iff {name otherName : Token} {value otherValue : Expr} :
    (assign name value).Matches likeness (assign otherName otherValue) ↔
      likeness.name name otherName ∧ value.Matches likeness otherValue := by
  refine ⟨fun matching => ?_, fun parts => .assign parts.1 parts.2⟩
  cases matching with
  | assign names values => exact ⟨names, values⟩

@[simp] theorem binary_matches_binary_iff {left otherLeft right otherRight : Expr}
    {operator otherOperator : Token} :
    (binary left operator right).Matches likeness (binary otherLeft otherOperator otherRight) ↔
      left.Matches likeness otherLeft ∧ likeness.operator operator otherOperator ∧
        right.Matches likeness otherRight := by
  refine ⟨fun matching => ?_, fun parts => .binary parts.1 parts.2.1 parts.2.2⟩
  cases matching with
  | binary lefts operators rights => exact ⟨lefts, operators, rights⟩

@[simp] theorem grouping_matches_grouping_iff {inner otherInner : Expr} :
    (grouping inner).Matches likeness (grouping otherInner) ↔
      inner.Matches likeness otherInner := by
  refine ⟨fun matching => ?_, .grouping⟩
  cases matching with
  | grouping inners => exact inners

@[simp] theorem literal_matches_literal_iff {value otherValue : Value} :
    (literal value).Matches likeness (literal otherValue) ↔
      likeness.value value otherValue := by
  refine ⟨fun matching => ?_, .literal⟩
  cases matching with
  | literal values => exact values

@[simp] theorem unary_matches_unary_iff {operator otherOperator : Token}
    {operand otherOperand : Expr} :
    (unary operator operand).Matches likeness (unary otherOperator otherOperand) ↔
      likeness.operator operator otherOperator ∧ operand.Matches likeness otherOperand := by
  refine ⟨fun matching => ?_, fun parts => .unary parts.1 parts.2⟩
  cases matching with
  | unary operators operands => exact ⟨operators, operands⟩

@[simp] theorem reference_matches_reference_iff {name otherName : Token} :
    (reference name).Matches likeness (reference otherName) ↔
      likeness.reference name otherName := by
  refine ⟨fun matching => ?_, .reference⟩
  cases matching with
  | reference names => exact names

end Expr

namespace Stmt

@[simp] theorem expression_matches_expression_iff {e other : Expr} :
    (expression e).Matches likeness (expression other) ↔ e.Matches likeness other := by
  refine ⟨fun matching => ?_, .expression⟩
  cases matching with
  | expression bodies => exact bodies

@[simp] theorem print_matches_print_iff {e other : Expr} :
    (print e).Matches likeness (print other) ↔ e.Matches likeness other := by
  refine ⟨fun matching => ?_, .print⟩
  cases matching with
  | print bodies => exact bodies

@[simp] theorem declaration_matches_declaration_iff {name otherName : Token} {e other : Expr} :
    (declaration name e).Matches likeness (declaration otherName other) ↔
      likeness.name name otherName ∧ e.Matches likeness other := by
  refine ⟨fun matching => ?_, fun parts => .declaration parts.1 parts.2⟩
  cases matching with
  | declaration names bodies => exact ⟨names, bodies⟩

end Stmt

/-! ## Likenesses that compare all tokens alike -/

/-- All tokens are compared in one way, whatever they are for. -/
def Likeness.uniform (tokens : Token → Token → Prop) (values : Value → Value → Prop) :
    Likeness where
  operator := tokens
  name := tokens
  reference := tokens
  value := values

section

variable {tokens : Token → Token → Prop} {values : Value → Value → Prop}

@[simp] theorem Likeness.uniform_operator : (uniform tokens values).operator = tokens := rfl

@[simp] theorem Likeness.uniform_name : (uniform tokens values).name = tokens := rfl

@[simp] theorem Likeness.uniform_reference : (uniform tokens values).reference = tokens := rfl

@[simp] theorem Likeness.uniform_value : (uniform tokens values).value = values := rfl

section

variable (tokenSymm : ∀ token other, tokens token other → tokens other token)
  (valueSymm : ∀ value other, values value other → values other value)

include tokenSymm valueSymm

theorem Expr.Matches.symm {e other : Expr} (matching : e.Matches (.uniform tokens values) other) :
    other.Matches (.uniform tokens values) e := by
  induction matching with
  | assign names _ ih => exact .assign (tokenSymm _ _ names) ih
  | binary _ operators _ leftHypothesis rightHypothesis =>
    exact .binary leftHypothesis (tokenSymm _ _ operators) rightHypothesis
  | grouping _ ih => exact .grouping ih
  | literal values => exact .literal (valueSymm _ _ values)
  | unary operators _ ih => exact .unary (tokenSymm _ _ operators) ih
  | reference names => exact .reference (tokenSymm _ _ names)

theorem Stmt.Matches.symm {s other : Stmt} (matching : s.Matches (.uniform tokens values) other) :
    other.Matches (.uniform tokens values) s := by
  cases matching with
  | expression bodies => exact .expression (bodies.symm tokenSymm valueSymm)
  | print bodies => exact .print (bodies.symm tokenSymm valueSymm)
  | declaration names bodies =>
    exact .declaration (tokenSymm _ _ names) (bodies.symm tokenSymm valueSymm)

theorem Program.Matches.symm {program other : Program}
    (matching : program.Matches (.uniform tokens values) other) :
    other.Matches (.uniform tokens values) program :=
  (List.Forall₂.imp (fun _ _ statements => statements.symm tokenSymm valueSymm) matching).flip

end

section

variable
  (tokenTrans : ∀ first second third, tokens first second → tokens second third →
    tokens first third)
  (valueTrans : ∀ first second third, values first second → values second third →
    values first third)

include tokenTrans valueTrans

theorem Expr.Matches.trans {first second third : Expr}
    (matching : first.Matches (.uniform tokens values) second)
    (further : second.Matches (.uniform tokens values) third) :
    first.Matches (.uniform tokens values) third := by
  induction matching generalizing third with
  | assign names _ ih =>
    cases further with
    | assign otherNames others => exact .assign (tokenTrans _ _ _ names otherNames) (ih others)
  | binary _ operators _ leftHypothesis rightHypothesis =>
    cases further with
    | binary lefts otherOperators rights =>
      exact .binary (leftHypothesis lefts) (tokenTrans _ _ _ operators otherOperators)
        (rightHypothesis rights)
  | grouping _ ih =>
    cases further with
    | grouping inners => exact .grouping (ih inners)
  | literal values =>
    cases further with
    | literal others => exact .literal (valueTrans _ _ _ values others)
  | unary operators _ ih =>
    cases further with
    | unary otherOperators operands =>
      exact .unary (tokenTrans _ _ _ operators otherOperators) (ih operands)
  | reference names =>
    cases further with
    | reference otherNames => exact .reference (tokenTrans _ _ _ names otherNames)

theorem Stmt.Matches.trans {first second third : Stmt}
    (matching : first.Matches (.uniform tokens values) second)
    (further : second.Matches (.uniform tokens values) third) :
    first.Matches (.uniform tokens values) third := by
  cases matching with
  | expression bodies =>
    cases further with
    | expression others => exact .expression (bodies.trans tokenTrans valueTrans others)
  | print bodies =>
    cases further with
    | print others => exact .print (bodies.trans tokenTrans valueTrans others)
  | declaration names bodies =>
    cases further with
    | declaration otherNames others =>
      exact .declaration (tokenTrans _ _ _ names otherNames)
        (bodies.trans tokenTrans valueTrans others)

theorem Program.Matches.trans {first second third : Program}
    (matching : first.Matches (.uniform tokens values) second)
    (further : second.Matches (.uniform tokens values) third) :
    first.Matches (.uniform tokens values) third := by
  unfold Matches at matching further ⊢
  induction matching generalizing third with
  | nil => exact further
  | cons statement _ ih =>
    cases further with
    | cons other others => exact .cons (statement.trans tokenTrans valueTrans other) (ih others)

end

end

end LoxForms
