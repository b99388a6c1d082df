import LoxForms.Proofs.Lines
import LoxForms.Proofs.Nodes
import LoxForms.Proofs.RoundTrip

/-! # References that are written and read back

A reference leaves nothing in the text, so the form around it has an operand less.  Only a
subtraction can spare one of two operands, and then it is read as a negation (`Expr.negated`);
everywhere else a missing operand is an error.  So a program with references is read back exactly
if each of them is one operand of a subtraction whose other operand is none
(`read_printed_references`).
-/

namespace LoxForms

open Reading

/-! ## References among the operands -/

namespace Expr

def isReference : Expr → Bool
  | .reference _ => true
  | _ => false

theorem isReference_iff {e : Expr} : e.isReference = true ↔ ∃ name, e = .reference name := by
  cases e <;> simp [isReference]

/-- The expression is a subtraction, and of its operands one is the reference and the other is
none. -/
inductive SubtractsReference (name : Token) : Expr → Prop where
  | left {operator : Token} {other : Expr} (minus : operator.lexeme = "-")
      (noReference : other.isReference = false) :
      SubtractsReference name (.binary (.reference name) operator other)
  | right {operator : Token} {other : Expr} (minus : operator.lexeme = "-")
      (noReference : other.isReference = false) :
      SubtractsReference name (.binary other operator (.reference name))

/-- Every reference below the root is an operand of such a subtraction. -/
def ReferencesSubtracted (e : Expr) : Prop :=
  ∀ node ∈ e.nodes, ∀ name, .reference name ∈ node.children → node.SubtractsReference name

theorem referencesSubtracted_iff {e : Expr} :
    e.ReferencesSubtracted ↔
      (∀ name, .reference name ∈ e.children → e.SubtractsReference name) ∧
        ∀ child ∈ e.children, child.ReferencesSubtracted := by
  constructor
  · intro subtracted
    exact ⟨subtracted e e.self_mem_nodes, fun child isChild node below =>
      subtracted node (mem_nodes_iff.2 (.inr ⟨child, isChild, below⟩))⟩
  · rintro ⟨here, below⟩ node member
    rcases mem_nodes_iff.1 member with rfl | ⟨child, isChild, inChild⟩
    · exact here
    · exact below child isChild node inChild

theorem referencesSubtracted_of_leaf {e : Expr} (leaf : e.children = []) :
    e.ReferencesSubtracted :=
  referencesSubtracted_iff.2 (by simp [leaf])

/-- A node on one operand that is no reference. -/
theorem referencesSubtracted_of_child {e child : Expr} (only : e.children = [child]) :
    e.ReferencesSubtracted ↔ child.isReference = false ∧ child.ReferencesSubtracted := by
  have noSubtraction : ∀ name, ¬ e.SubtractsReference name := by
    rintro name (_ | _) <;> cases only
  rw [referencesSubtracted_iff, only]
  simp only [List.mem_singleton, forall_eq, noSubtraction, imp_false]
  refine and_congr_left fun _ => ?_
  rw [← Bool.not_eq_true, isReference_iff, not_exists]
  exact forall_congr' fun name => not_congr eq_comm

/-- Of two operands one may be a reference if the node is a subtraction. -/
theorem referencesSubtracted_binary {left right : Expr} {operator : Token} :
    (Expr.binary left operator right).ReferencesSubtracted ↔
      (left.isReference = true → operator.lexeme = "-" ∧ right.isReference = false) ∧
        (right.isReference = true → operator.lexeme = "-" ∧ left.isReference = false) ∧
        left.ReferencesSubtracted ∧ right.ReferencesSubtracted := by
  have local_iff : (∀ name, .reference name ∈ [left, right] →
        (Expr.binary left operator right).SubtractsReference name) ↔
      (left.isReference = true → operator.lexeme = "-" ∧ right.isReference = false) ∧
        (right.isReference = true → operator.lexeme = "-" ∧ left.isReference = false) := by
    constructor
    · intro spares
      refine ⟨fun isLeft => ?_, fun isRight => ?_⟩
      · obtain ⟨name, rfl⟩ := isReference_iff.1 isLeft
        cases spares name (by simp) with
        | left minus noReference => exact ⟨minus, noReference⟩
        | right minus noReference => cases noReference
      · obtain ⟨name, rfl⟩ := isReference_iff.1 isRight
        cases spares name (by simp) with
        | left minus noReference => cases noReference
        | right minus noReference => exact ⟨minus, noReference⟩
    · rintro ⟨ofLeft, ofRight⟩ name member
      simp only [List.mem_cons, List.not_mem_nil, or_false] at member
      rcases member with rfl | rfl
      · exact .left (ofLeft rfl).1 (ofLeft rfl).2
      · exact .right (ofRight rfl).1 (ofRight rfl).2
  rw [referencesSubtracted_iff, children, local_iff]
  simp [and_assoc]

/-! ## Negations in the place of subtractions -/

/-- The expression in which an operation with a reference for an operand is one on the other operand
alone. -/
def negated : Expr → Expr
  | .assign name value => .assign name value.negated
  | .binary left operator right =>
    if left.isReference then .unary operator right.negated
    else if right.isReference then .unary operator left.negated
    else .binary left.negated operator right.negated
  | .grouping inner => .grouping inner.negated
  | .literal value => .literal value
  | .unary operator operand => .unary operator operand.negated
  | .reference name => .reference name

theorem pieces_of_isReference {e : Expr} (reference : e.isReference = true) (line : UInt32) :
    e.pieces line = [] := by
  obtain ⟨name, rfl⟩ := isReference_iff.1 reference
  rfl

/-- A reference has no pieces, so they do not tell both expressions apart. -/
theorem pieces_negated (e : Expr) (line : UInt32) : e.negated.pieces line = e.pieces line := by
  induction e with
  | assign name value ih => rw [negated, pieces, pieces, ih]
  | binary left operator right leftHypothesis rightHypothesis =>
    rw [negated]
    split
    next isLeft =>
      rw [pieces, pieces, rightHypothesis, pieces_of_isReference isLeft, List.nil_append]
    next =>
      split
      next isRight =>
        rw [pieces, pieces, leftHypothesis, pieces_of_isReference isRight, List.append_nil]
      next => rw [pieces, pieces, leftHypothesis, rightHypothesis]
  | grouping inner ih => rw [negated, pieces, pieces, ih]
  | literal value => rfl
  | unary operator operand ih => rw [negated, pieces, pieces, ih]
  | reference name => rfl

end Expr

/-- The minus is an operator on two operands and on one. -/
theorem Token.IsBinary.isUnary_of_minus {operator : Token} (binary : operator.IsBinary)
    (minus : operator.lexeme = "-") : operator.IsUnary := by
  obtain ⟨kind, lexeme, literal, line⟩ := operator
  obtain rfl : lexeme = "-" := minus
  obtain ⟨known, noLiteral⟩ := binary
  obtain rfl : TokenKind.minus = kind := Option.some.inj (binary?_eq_some_iff.2 known)
  exact ⟨.minus, noLiteral⟩

namespace Expr

theorem Conforms.of_mem_children {literals : Value → Prop} {references : Prop} {e child : Expr}
    (conforms : e.Conforms literals references) (isChild : child ∈ e.children) :
    child.Conforms literals references := by
  cases e with
  | literal value => cases isChild
  | reference name => cases isChild
  | grouping inner =>
    obtain rfl := List.mem_singleton.1 isChild
    exact conforms
  | assign name value =>
    obtain rfl := List.mem_singleton.1 isChild
    exact conforms.2
  | unary operator operand =>
    obtain rfl := List.mem_singleton.1 isChild
    exact conforms.2
  | binary left operator right =>
    rcases List.mem_pair.1 isChild with rfl | rfl
    · exact conforms.1
    · exact conforms.2.2

theorem Conforms.of_mem_nodes {literals : Value → Prop} {references : Prop} {e node : Expr}
    (conforms : e.Conforms literals references) (member : node ∈ e.nodes) :
    node.Conforms literals references := by
  induction e using children_induction with
  | node e ih =>
    rcases mem_nodes_iff.1 member with rfl | ⟨child, isChild, below⟩
    · exact conforms
    · exact ih child isChild (conforms.of_mem_children isChild) below

theorem Conforms.negated {literals : Value → Prop} {e : Expr}
    (conforms : e.Conforms literals True) (noReference : e.isReference = false)
    (subtracted : e.ReferencesSubtracted) : e.negated.Conforms literals False := by
  induction e with
  | assign name value ih =>
    obtain ⟨valueNone, below⟩ := (referencesSubtracted_of_child rfl).1 subtracted
    exact ⟨conforms.1, ih conforms.2 valueNone below⟩
  | binary left operator right leftHypothesis rightHypothesis =>
    obtain ⟨leftConforms, binary, rightConforms⟩ := conforms
    obtain ⟨ofLeft, ofRight, inLeft, inRight⟩ := referencesSubtracted_binary.1 subtracted
    rw [Expr.negated]
    split
    next isLeft =>
      obtain ⟨minus, rightNone⟩ := ofLeft isLeft
      exact ⟨binary.isUnary_of_minus minus, rightHypothesis rightConforms rightNone inRight⟩
    next leftNone =>
      rw [Bool.not_eq_true] at leftNone
      split
      next isRight =>
        exact ⟨binary.isUnary_of_minus (ofRight isRight).1,
          leftHypothesis leftConforms leftNone inLeft⟩
      next rightNone =>
        rw [Bool.not_eq_true] at rightNone
        exact ⟨leftHypothesis leftConforms leftNone inLeft, binary,
          rightHypothesis rightConforms rightNone inRight⟩
  | grouping inner ih =>
    obtain ⟨innerNone, below⟩ := (referencesSubtracted_of_child rfl).1 subtracted
    exact ih conforms innerNone below
  | literal value => exact conforms
  | unary operator operand ih =>
    obtain ⟨operandNone, below⟩ := (referencesSubtracted_of_child rfl).1 subtracted
    exact ⟨conforms.1, ih conforms.2 operandNone below⟩
  | reference name => cases noReference

/-- An expression whose references are subtracted is written as its negations are. -/
theorem derives_pieces_negated {e : Expr} (conforms : e.Conforms Value.IsAtom True)
    (noReference : e.isReference = false) (subtracted : e.ReferencesSubtracted) (line : UInt32) :
    DerivesExpr (e.pieces line) (e.negated.map (Token.atLine line) Value.asRead) := by
  rw [← pieces_negated]
  exact derives_pieces (conforms.negated noReference subtracted) line

end Expr

/-! ## Missing operands -/

namespace Reading

theorem formExpr_nil (head : String) (line : UInt32) (form : Expr) :
    formExpr head line [] ≠ .ok form := by
  intro formed
  rcases formExpr_eq_ok formed with ⟨_, none, _⟩ | ⟨_, _, none, _⟩ | ⟨_, _, _, none, _⟩ <;>
    cases none

/-- Of the operators on two operands only the minus takes one. -/
theorem BinaryOperator.eq_minus_of_formExpr {head : String} {kind : TokenKind}
    (operator : BinaryOperator head kind) {line : UInt32} {operand form : Expr}
    (formed : formExpr head line [operand] = .ok form) : head = "-" := by
  rcases formExpr_eq_ok formed with ⟨_, _, group, _⟩ | ⟨_, _, _, known, _⟩ | ⟨_, _, _, both, _⟩
  · subst group
    cases binary?_eq_some_iff.2 operator
  · cases known with
    | minus => rfl
    | bang => cases binary?_eq_some_iff.2 operator
  · cases both

end Reading

namespace Expr

/-- What is read of the operands of a form: those that are no references, with their negations. -/
def readOperands (line : UInt32) (operands : List Expr) : List Expr :=
  (operands.filter fun operand => !operand.isReference).map fun operand =>
    operand.negated.map (Token.atLine line) Value.asRead

/-- The pieces of the expression are read only if the references below it are subtracted. -/
def ReadsSubtracted (line : UInt32) (e : Expr) : Prop :=
  ∀ frames rest outcome,
    consume ExprState.step (.expression frames) (e.pieces line ++ rest) = .ok outcome →
      e.ReferencesSubtracted

/-- If the operands of a form are read, so is the form of those that are no references. -/
theorem exists_formExpr_of_consume (operands : List Expr) {head : String}
    {line headLine closes : UInt32} {reversed : List Expr} {frames : List Frame}
    {rest : List LocatedPiece} {outcome : Expr × List LocatedPiece}
    (conforms : ∀ operand ∈ operands, operand.Conforms Value.IsAtom True)
    (each : ∀ operand ∈ operands, operand.ReadsSubtracted line)
    (consumed : consume ExprState.step (.expression (.operands head headLine reversed :: frames))
      (operands.flatMap (pieces line) ++ ⟨.closing, closes⟩ :: rest) = .ok outcome) :
    (∀ operand ∈ operands, operand.ReferencesSubtracted) ∧
      ∃ form, formExpr head headLine (reversed.reverse ++ readOperands line operands) =
        .ok form := by
  induction operands generalizing reversed with
  | nil =>
    refine ⟨by simp, ?_⟩
    cases formed : formExpr head headLine reversed.reverse with
    | error failure =>
      have failed : ExprState.step (.expression (.operands head headLine reversed :: frames))
          ⟨.closing, closes⟩ = .error failure := by
        simp [ExprState.step, formed, bind, Except.bind]
      rw [List.flatMap_nil, List.nil_append, consume_cons_error failed] at consumed
      cases consumed
    | ok form => exact ⟨form, by simpa [readOperands] using formed⟩
  | cons operand others ih =>
    rw [List.forall_mem_cons] at conforms each
    rw [List.flatMap_cons, List.append_assoc] at consumed
    have first := each.1 _ _ _ consumed
    rw [List.forall_mem_cons]
    cases isReference : operand.isReference with
    | true =>
      rw [pieces_of_isReference isReference, List.nil_append] at consumed
      obtain ⟨subtracted, form⟩ := ih conforms.2 each.2 consumed
      exact ⟨⟨first, subtracted⟩, by simpa [readOperands, isReference] using form⟩
    | false =>
      have derived := derives_pieces_negated conforms.1 isReference first line
      rw [derived.consume_append] at consumed
      obtain ⟨subtracted, form⟩ := ih conforms.2 each.2 consumed
      exact ⟨⟨first, subtracted⟩, by simpa [readOperands, isReference] using form⟩

/-- A form on one operand is not read if the operand is a reference. -/
theorem referencesSubtracted_of_operand {e operand : Expr} {head : String} {line : UInt32}
    {frames : List Frame} {rest : List LocatedPiece} {outcome : Expr × List LocatedPiece}
    (only : e.children = [operand]) (conforms : operand.Conforms Value.IsAtom True)
    (operandReads : operand.ReadsSubtracted line)
    (consumed : consume ExprState.step (.expression (.operands head line [] :: frames))
      (operand.pieces line ++ ⟨.closing, line⟩ :: rest) = .ok outcome) :
    e.ReferencesSubtracted := by
  obtain ⟨subtracted, form, formed⟩ := exists_formExpr_of_consume [operand]
    (by simpa using conforms) (by simpa using operandReads) (by simpa using consumed)
  refine (referencesSubtracted_of_child only).2 ⟨?_, subtracted operand List.mem_cons_self⟩
  cases isReference : operand.isReference with
  | true =>
    have none : formExpr head line [] = .ok form := by
      simpa [readOperands, isReference] using formed
    exact absurd none (formExpr_nil head line form)
  | false => rfl

/-- A form on two operands is not read if both are references, and with one only if it is a
subtraction. -/
theorem minus_of_formExpr_readOperands {head : String} {kind : TokenKind}
    (operator : BinaryOperator head kind) {line headLine : UInt32} {left right form : Expr}
    (formed : formExpr head headLine (readOperands line [left, right]) = .ok form) :
    (left.isReference = true → head = "-" ∧ right.isReference = false) ∧
      (right.isReference = true → head = "-" ∧ left.isReference = false) := by
  simp only [readOperands] at formed
  cases isLeft : left.isReference with
  | true =>
    cases isRight : right.isReference with
    | true =>
      have none := by simpa [isLeft, isRight] using formed
      exact absurd none (formExpr_nil head headLine form)
    | false =>
      have one := by simpa [isLeft, isRight] using formed
      exact ⟨fun _ => ⟨operator.eq_minus_of_formExpr one, rfl⟩, nofun⟩
  | false =>
    cases isRight : right.isReference with
    | true =>
      have one := by simpa [isLeft, isRight] using formed
      exact ⟨nofun, fun _ => ⟨operator.eq_minus_of_formExpr one, rfl⟩⟩
    | false => exact ⟨nofun, nofun⟩

theorem readsSubtracted {e : Expr} (conforms : e.Conforms Value.IsAtom True) (line : UInt32) :
    e.ReadsSubtracted line := by
  induction e with
  | assign name value ih =>
    intro frames rest outcome consumed
    rw [pieces, formPieces_append, List.cons_append, consume_target conforms.1.2.2] at consumed
    refine (referencesSubtracted_of_child rfl).2 ⟨?_, ih conforms.2 _ _ _ consumed⟩
    cases isReference : value.isReference with
    | true =>
      rw [pieces_of_isReference isReference] at consumed
      cases consumed
    | false => rfl
  | binary left operator right leftHypothesis rightHypothesis =>
    intro frames rest outcome consumed
    obtain ⟨leftConforms, binary, rightConforms⟩ := conforms
    rw [pieces, formPieces_append, consume_opening binary.1.ne_equal] at consumed
    have each : ∀ operand ∈ [left, right], operand.ReadsSubtracted line := by
      simpa using ⟨leftHypothesis leftConforms, rightHypothesis rightConforms⟩
    obtain ⟨subtracted, form, formed⟩ := exists_formExpr_of_consume [left, right]
      (by simp [leftConforms, rightConforms]) each (by simpa using consumed)
    obtain ⟨ofLeft, ofRight⟩ := minus_of_formExpr_readOperands binary.1 formed
    exact referencesSubtracted_binary.2
      ⟨ofLeft, ofRight, subtracted left (by simp), subtracted right (by simp)⟩
  | grouping inner ih =>
    intro frames rest outcome consumed
    rw [pieces, formPieces_append, consume_opening (by decide)] at consumed
    exact referencesSubtracted_of_operand rfl conforms (ih conforms) consumed
  | literal value => exact fun _ _ _ _ => referencesSubtracted_of_leaf rfl
  | unary operator operand ih =>
    intro frames rest outcome consumed
    rw [pieces, formPieces_append, consume_opening conforms.1.1.ne_equal.1] at consumed
    exact referencesSubtracted_of_operand rfl conforms.2 (ih conforms.2) consumed
  | reference name => exact fun _ _ _ _ => referencesSubtracted_of_leaf rfl

end Expr

/-! ## Statements and programs -/

namespace Stmt

/-- Every reference in the statement is an operand of a subtraction whose other operand is none. -/
def ReferencesSubtracted (s : Stmt) : Prop :=
  s.body.isReference = false ∧ s.body.ReferencesSubtracted

/-- The statement with negations in the place of subtractions. -/
def negated (s : Stmt) : Stmt := s.mapBody Expr.negated

theorem pieces_negated (s : Stmt) (line : UInt32) : s.negated.pieces line = s.pieces line := by
  cases s <;> simp [negated, mapBody, pieces, Expr.pieces_negated]

theorem Conforms.body {literals : Value → Prop} {references : Prop} {s : Stmt}
    (conforms : s.Conforms literals references) : s.body.Conforms literals references := by
  cases s with
  | expression e => exact conforms
  | print e => exact conforms
  | declaration name e => exact conforms.2

theorem Conforms.negated {literals : Value → Prop} {s : Stmt}
    (conforms : s.Conforms literals True) (subtracted : s.ReferencesSubtracted) :
    s.negated.Conforms literals False := by
  have body := conforms.body.negated subtracted.1 subtracted.2
  cases s with
  | expression e => exact body
  | print e => exact body
  | declaration name e => exact ⟨conforms.1, body⟩

theorem derives_pieces_negated {s : Stmt} (conforms : s.Conforms Value.IsAtom True)
    (subtracted : s.ReferencesSubtracted) (line : UInt32) :
    DerivesStmt (s.pieces line) (s.negated.map (Token.atLine line) Value.asRead) := by
  rw [← pieces_negated]
  exact derives_pieces (conforms.negated subtracted) line

/-- A statement is read from its pieces only if its body is. -/
theorem exists_consume_of_statement {s : Stmt} {line : UInt32} {rest : List LocatedPiece}
    {outcome : Stmt × List LocatedPiece}
    (conforms : s.Conforms Value.IsAtom True)
    (read : statement (s.pieces line ++ rest) = .ok outcome) :
    ∃ front, consume ExprState.step .start
      (s.body.pieces line ++ ⟨.closing, line⟩ :: rest) = .ok front := by
  cases found : consume ExprState.step .start
      (s.body.pieces line ++ ⟨.closing, line⟩ :: rest) with
  | ok front => exact ⟨front, rfl⟩
  | error failure =>
    have failed : statement (s.pieces line ++ rest) = .error failure := by
      cases s with
      | expression e =>
        rw [pieces, formPieces_append]
        exact consume_body_of_error found .expression line
      | print e =>
        rw [pieces, formPieces_append]
        exact consume_body_of_error found .print line
      | declaration name e =>
        rw [pieces, formPieces_append, List.cons_append]
        change consume StmtState.step (.target line) _ = _
        rw [(StmtStep.target line line conforms.1.2.2).consume_cons]
        exact consume_body_of_error found _ line
    rw [failed] at read
    cases read

theorem referencesSubtracted_of_statement {s : Stmt} {line : UInt32} {rest : List LocatedPiece}
    {outcome : Stmt × List LocatedPiece} (conforms : s.Conforms Value.IsAtom True)
    (read : statement (s.pieces line ++ rest) = .ok outcome) : s.ReferencesSubtracted := by
  obtain ⟨front, consumed⟩ := exists_consume_of_statement conforms read
  refine ⟨?_, Expr.readsSubtracted conforms.body line _ _ _ consumed⟩
  cases isReference : s.body.isReference with
  | true =>
    rw [Expr.pieces_of_isReference isReference] at consumed
    cases consumed
  | false => rfl

theorem pieces_ne_nil (s : Stmt) (line : UInt32) : s.pieces line ≠ [] := by
  cases s <;> simp [pieces, formPieces]

end Stmt

namespace Program

variable {program : Program}

theorem pieces_negated (line : UInt32) (program : Program) :
    pieces line (program.map Stmt.negated) = pieces line program := by
  induction program generalizing line with
  | nil => rfl
  | cons s others ih => rw [List.map_cons, pieces, pieces, Stmt.pieces_negated, ih]

theorem referencesSubtracted_of_program {line : UInt32} {result : Program}
    (conforms : ∀ s ∈ program, s.Conforms Value.IsAtom True)
    (read : Reading.program (pieces line program) = .ok result) :
    ∀ s ∈ program, s.ReferencesSubtracted := by
  induction program generalizing line result with
  | nil => simp
  | cons s others ih =>
    rw [List.forall_mem_cons] at conforms ⊢
    rw [pieces] at read
    cases found : statement (s.pieces line ++ pieces (line + 1) others) with
    | error failure =>
      rw [program_of_failure (by simp [Stmt.pieces_ne_nil]) found] at read
      cases read
    | ok front =>
      have first := Stmt.referencesSubtracted_of_statement conforms.1 found
      have derived := Stmt.derives_pieces_negated conforms.1 first line
      rw [program_of_statement (derived.statement_append _)] at read
      cases rest : Reading.program (pieces (line + 1) others) with
      | error failure =>
        rw [rest] at read
        cases read
      | ok remaining => exact ⟨first, ih conforms.2 rest⟩

theorem isAtom_of_isRepresentable {references : Prop}
    (representable : ∀ s ∈ program, s.Conforms Value.IsRepresentable references) :
    ∀ s ∈ program, s.Conforms Value.IsAtom references := fun s member =>
  (representable s member).mono
    (fun _ value => (Value.isReadable_of_isRepresentable value).isAtom) id

theorem referencesSubtracted_of_read {result : Program}
    (representable : ∀ s ∈ program, s.Conforms Value.IsRepresentable True)
    (accepted : Program.read (text program) = .ok result) :
    ∀ s ∈ program, s.ReferencesSubtracted := by
  have atoms := isAtom_of_isRepresentable representable
  rw [read_text_eq_program atoms] at accepted
  exact referencesSubtracted_of_program atoms accepted

/-- A program whose references are subtracted is read with negations in the place of subtractions.
-/
theorem read_text_of_referencesSubtracted
    (representable : ∀ s ∈ program, s.Conforms Value.IsRepresentable True)
    (subtracted : ∀ s ∈ program, s.ReferencesSubtracted) :
    Program.read (text program) = .ok (numbered id (program.map Stmt.negated)) := by
  have conforms : IsRepresentable (program.map Stmt.negated) := by
    intro s member
    obtain ⟨original, inProgram, rfl⟩ := List.mem_map.1 member
    exact (representable original inProgram).negated (subtracted original inProgram)
  calc Program.read (text program)
    _ = Reading.program (pieces 1 program) :=
      read_text_eq_program (isAtom_of_isRepresentable representable)
    _ = Reading.program (pieces 1 (program.map Stmt.negated)) := by rw [pieces_negated]
    _ = Program.read (text (program.map Stmt.negated)) :=
      (read_text_eq_program (isAtom_of_isRepresentable conforms)).symm
    _ = .ok (numbered id (program.map Stmt.negated)) := read_text_of_isRepresentable conforms

/-- What is read has no references, on whatever lines. -/
theorem relined_ne_of_read {source : String} {result : Program}
    (accepted : Program.read source = .ok result)
    (reference : ∃ s ∈ program, ∃ name, .reference name ∈ s.body.nodes) (line : UInt32) :
    (result.relined fun _ => line) ≠ program.relined fun _ => line := by
  rintro same
  obtain ⟨s, member, name, inBody⟩ := reference
  have relined : s.map (Token.atLine line) id ∈ result.map (Stmt.map (Token.atLine line) id) := by
    change _ ∈ result.relined fun _ => line
    rw [same]
    exact List.mem_map_of_mem member
  obtain ⟨original, inResult, sameStmt⟩ := List.mem_map.1 relined
  have conforms := (Stmt.conforms_map_atLine line original).2 (conforms_of_read accepted _ inResult)
  rw [sameStmt, Stmt.conforms_map_atLine] at conforms
  exact conforms.body.of_mem_nodes inBody

end Program

/-! ## Programs with references -/

/-- What is printed of a program with references, one that is representable otherwise, is read
exactly if each of them is an operand of a subtraction whose other operand is none.  Then every
such subtraction has become the negation of that operand, and the lines are new ones.  The program
itself is never read, on whatever lines. -/
theorem read_printed_references {program : Program}
    (representable : ∀ s ∈ program, s.Conforms Value.IsRepresentable True) :
    Printer.print {} program =
        (.ok (), { sink := { stored := (Program.text program).toUTF8.data, flushes := 1 } }) ∧
      ((∃ result, Program.read (Program.text program) = .ok result) ↔
        ∀ s ∈ program, s.ReferencesSubtracted) ∧
      (∀ result, Program.read (Program.text program) = .ok result →
        result = Program.numbered id (program.map Stmt.negated)) ∧
      ((∃ s ∈ program, ∃ name, .reference name ∈ s.body.nodes) →
        ∀ result, Program.read (Program.text program) = .ok result →
          ∀ line, (result.relined fun _ => line) ≠ program.relined fun _ => line) := by
  refine ⟨Printer.print_plain program, ⟨?_, fun subtracted => ?_⟩, fun result accepted => ?_,
    fun reference result accepted => Program.relined_ne_of_read accepted reference⟩
  · rintro ⟨result, accepted⟩
    exact Program.referencesSubtracted_of_read representable accepted
  · exact ⟨_, Program.read_text_of_referencesSubtracted representable subtracted⟩
  · have subtracted := Program.referencesSubtracted_of_read representable accepted
    rw [Program.read_text_of_referencesSubtracted representable subtracted] at accepted
    exact (Except.ok.inj accepted).symm

/-- From a word the difference of a name and a word is subtracted. -/
def Program.nestedDifference : Program :=
  [.print (.binary (.literal (.string "a")) ⟨.minus, "-", none, 7⟩
    (.binary (.reference ⟨.identifier, "x", none, 7⟩) ⟨.minus, "-", none, 7⟩
      (.literal (.string "b"))))]

/-- A name is added to a word. -/
def Program.sumWithName : Program :=
  [.print (.binary (.literal (.string "a")) ⟨.plus, "+", none, 1⟩
    (.reference ⟨.identifier, "x", none, 1⟩))]

/-- A name that is subtracted from goes unnoticed, and a name that is added to does not. -/
theorem read_printed_nestedDifference :
    Program.read (Program.text .nestedDifference) =
        .ok [.print (.binary (.literal (.string "a")) ⟨.minus, "-", none, 1⟩
          (.unary ⟨.minus, "-", none, 1⟩ (.literal (.string "b"))))] ∧
      ∀ result, Program.read (Program.text .sumWithName) ≠ .ok result := by
  have word : ∀ text ∈ ["a", "b"], (Value.string text).IsRepresentable := by
    simp only [List.forall_mem_cons]
    exact ⟨⟨by decide, by decide, by decide, by decide, rfl⟩,
      ⟨by decide, by decide, by decide, by decide, rfl⟩, List.forall_mem_nil _⟩
  have difference : ∀ s ∈ Program.nestedDifference, s.Conforms Value.IsRepresentable True := by
    simp only [Program.nestedDifference, List.forall_mem_cons]
    exact ⟨⟨word "a" (by decide), ⟨.minus, rfl⟩, trivial, ⟨.minus, rfl⟩, word "b" (by decide)⟩,
      List.forall_mem_nil _⟩
  have sum : ∀ s ∈ Program.sumWithName, s.Conforms Value.IsRepresentable True := by
    simp only [Program.sumWithName, List.forall_mem_cons]
    exact ⟨⟨word "a" (by decide), ⟨.plus, rfl⟩, trivial⟩, List.forall_mem_nil _⟩
  have subtracted : ∀ s ∈ Program.nestedDifference, s.ReferencesSubtracted := by
    simp [Program.nestedDifference, Stmt.ReferencesSubtracted, Stmt.body,
      Expr.referencesSubtracted_binary, Expr.isReference,
      Expr.referencesSubtracted_of_leaf (rfl : Expr.children (.literal _) = []),
      Expr.referencesSubtracted_of_leaf (rfl : Expr.children (.reference _) = [])]
  have added : ¬ ∀ s ∈ Program.sumWithName, s.ReferencesSubtracted := by
    simp [Program.sumWithName, Stmt.ReferencesSubtracted, Stmt.body,
      Expr.referencesSubtracted_binary, Expr.isReference]
  obtain ⟨_, reads, becomes, _⟩ := read_printed_references difference
  obtain ⟨result, accepted⟩ := reads.2 subtracted
  obtain ⟨_, readsSum, _, _⟩ := read_printed_references sum
  refine ⟨?_, fun other acceptedSum => added (readsSum.1 ⟨other, acceptedSum⟩)⟩
  rw [accepted, becomes result accepted]
  rfl

end LoxForms
