import LoxForms.Proofs.Reading.Grammar
import LoxForms.Proofs.Reading.Steps

/-! # Whatever the grammar derives is read

A derivation is consumed exactly, whatever frames are open around it and whatever pieces come after
it; the expression is then handed to the innermost frame.  Since reading is a function, the pieces
have at most one tree.
-/

namespace LoxForms.Reading

variable {σ α : Type}

/-- How reading goes on after a step, with the pieces that are left. -/
def resume (step : σ → LocatedPiece → Except ReadError (Progress σ α))
    (progress : Progress σ α) (rest : List LocatedPiece) :
    Except ReadError (α × List LocatedPiece) :=
  match progress with
  | .pending state => consume step state rest
  | .complete result => .ok (result, rest)

theorem consume_cons {step : σ → LocatedPiece → Except ReadError (Progress σ α)} {state : σ}
    {located : LocatedPiece} {progress : Progress σ α}
    (stepped : step state located = .ok progress) (rest : List LocatedPiece) :
    consume step state (located :: rest) = resume step progress rest := by
  rw [consume, stepped]
  cases progress <;> rfl

theorem consume_cons_error {step : σ → LocatedPiece → Except ReadError (Progress σ α)}
    {state : σ} {located : LocatedPiece} {failure : ReadError}
    (failed : step state located = .error failure) (rest : List LocatedPiece) :
    consume step state (located :: rest) = .error failure := by
  rw [consume, failed]

/-! ## Expressions -/

theorem UnaryOperator.ne_equal {head : String} {kind : TokenKind}
    (operator : UnaryOperator head kind) : head ≠ "=" ∧ head ≠ "group" := by
  cases operator <;> decide

theorem BinaryOperator.ne_equal {head : String} {kind : TokenKind}
    (operator : BinaryOperator head kind) : head ≠ "=" := by
  cases operator <;> decide

theorem formExpr_group (line : UInt32) (operand : Expr) :
    formExpr "group" line [operand] = .ok (.grouping operand) := rfl

theorem UnaryOperator.formExpr_eq {head : String} {kind : TokenKind}
    (operator : UnaryOperator head kind) (line : UInt32) (operand : Expr) :
    formExpr head line [operand] = .ok (.unary ⟨kind, head, none, line⟩ operand) := by
  simp [formExpr, formExpr?, operator.ne_equal.2, unary?_eq_some_iff.2 operator, Token.operator]

theorem BinaryOperator.formExpr_eq {head : String} {kind : TokenKind}
    (operator : BinaryOperator head kind) (line : UInt32) (left right : Expr) :
    formExpr head line [left, right] = .ok (.binary left ⟨kind, head, none, line⟩ right) := by
  simp [formExpr, formExpr?, binary?_eq_some_iff.2 operator, Token.operator]

theorem ExprStep.consume_cons {state : ExprState} {located : LocatedPiece}
    {progress : Progress ExprState Expr} (steps : ExprStep state located progress)
    (rest : List LocatedPiece) :
    consume ExprState.step state (located :: rest) = resume ExprState.step progress rest :=
  Reading.consume_cons steps.step_eq rest

theorem consume_opening {frames : List Frame} {head : String} (notAssign : head ≠ "=")
    (opens line : UInt32) (rest : List LocatedPiece) :
    consume ExprState.step (.expression frames) (⟨.opening, opens⟩ :: ⟨.atom head, line⟩ :: rest) =
      consume ExprState.step (.expression (.operands head line [] :: frames)) rest := by
  rw [(ExprStep.opening opens frames).consume_cons]
  exact (ExprStep.head line frames notAssign).consume_cons rest

theorem consume_closing {frames : List Frame} {head : String} {line : UInt32}
    {reversed : List Expr} {form : Expr} (formed : formExpr head line reversed.reverse = .ok form)
    (closes : UInt32) (rest : List LocatedPiece) :
    consume ExprState.step (.expression (.operands head line reversed :: frames))
        (⟨.closing, closes⟩ :: rest) =
      resume ExprState.step (ExprState.deliver form frames) rest :=
  (ExprStep.closing closes frames formed).consume_cons rest

theorem consume_target {frames : List Frame} {name : String}
    (named : Atom.isIdentifier name = true) (opens line nameLine : UInt32)
    (rest : List LocatedPiece) :
    consume ExprState.step (.expression frames)
        (⟨.opening, opens⟩ :: ⟨.atom "=", line⟩ :: ⟨.atom name, nameLine⟩ :: rest) =
      consume ExprState.step
        (.expression (.value ⟨.identifier, name, none, nameLine⟩ line :: frames)) rest := by
  rw [(ExprStep.opening opens frames).consume_cons, resume,
    (ExprStep.assign line frames).consume_cons]
  exact (ExprStep.target nameLine line frames named).consume_cons rest

/-- The pieces of an expression are consumed exactly, and the expression goes to the frames. -/
theorem DerivesExpr.consume_append {pieces : List LocatedPiece} {e : Expr}
    (derived : DerivesExpr pieces e) (frames : List Frame) (rest : List LocatedPiece) :
    consume ExprState.step (.expression frames) (pieces ++ rest) =
      resume ExprState.step (ExprState.deliver e frames) rest := by
  induction derived generalizing frames rest with
  | literal text line => exact consume_cons rfl rest
  | grouping opens line closes _ ih =>
    rw [formPieces_append, consume_opening (by decide), ih]
    exact consume_closing (formExpr_group line _) closes rest
  | assign opens line nameLine closes named _ ih =>
    rw [formPieces_append, List.cons_append, consume_target named, ih]
    exact consume_cons rfl rest
  | unary opens line closes operator _ ih =>
    rw [formPieces_append, consume_opening operator.ne_equal.1, ih]
    exact consume_closing (operator.formExpr_eq line _) closes rest
  | binary opens line closes operator _ _ leftHypothesis rightHypothesis =>
    rw [formPieces_append, List.append_assoc, consume_opening operator.ne_equal, leftHypothesis]
    simp only [ExprState.deliver, resume]
    rw [rightHypothesis]
    exact consume_closing (operator.formExpr_eq line _ _) closes rest

theorem DerivesExpr.expression_append {pieces : List LocatedPiece} {e : Expr}
    (derived : DerivesExpr pieces e) (rest : List LocatedPiece) :
    expression (pieces ++ rest) = .ok (e, rest) :=
  derived.consume_append [] rest

/-! ## Statements and programs -/

theorem StmtStep.consume_cons {state : StmtState} {located : LocatedPiece}
    {progress : Progress StmtState Stmt} (steps : StmtStep state located progress)
    (rest : List LocatedPiece) :
    consume StmtState.step state (located :: rest) = resume StmtState.step progress rest :=
  Reading.consume_cons steps.step_eq rest

/-- A statement reads its body as the body is read by itself. -/
theorem consume_body {inner : ExprState} {pieces rest : List LocatedPiece} {e : Expr}
    (consumed : consume ExprState.step inner pieces = .ok (e, rest)) (shape : Shape)
    (line : UInt32) :
    consume StmtState.step (.body shape line inner) pieces =
      consume StmtState.step (.close shape line (shape.withBody e)) rest := by
  induction pieces generalizing inner with
  | nil => simp [consume] at consumed
  | cons located others ih =>
    cases stepped : inner.step located with
    | error failure => simp [consume, stepped] at consumed
    | ok progress =>
      rw [consume_cons stepped] at consumed
      cases progress with
      | pending next =>
        rw [(StmtStep.inside shape line (exprStep_of_step stepped)).consume_cons]
        exact ih consumed
      | complete result =>
        simp only [resume, Except.ok.injEq, Prod.mk.injEq] at consumed
        obtain ⟨rfl, rfl⟩ := consumed
        exact (StmtStep.bodyEnd shape line (exprStep_of_step stepped)).consume_cons others

theorem consume_body_of_error {inner : ExprState} {pieces : List LocatedPiece}
    {failure : ReadError} (failed : consume ExprState.step inner pieces = .error failure)
    (shape : Shape) (line : UInt32) :
    consume StmtState.step (.body shape line inner) pieces = .error failure := by
  induction pieces generalizing inner with
  | nil => simpa [consume] using failed
  | cons located others ih =>
    cases stepped : inner.step located with
    | error early =>
      have same : early = failure := by simpa [consume, stepped] using failed
      rw [← same]
      exact consume_cons_error (by simp [StmtState.step, stepped, bind, Except.bind]) others
    | ok progress =>
      rw [consume_cons stepped] at failed
      cases progress with
      | pending next =>
        rw [(StmtStep.inside shape line (exprStep_of_step stepped)).consume_cons]
        exact ih failed
      | complete result => cases failed

theorem DerivesExpr.consume_body {pieces : List LocatedPiece} {e : Expr}
    (derived : DerivesExpr pieces e) (shape : Shape) (line closes : UInt32)
    (rest : List LocatedPiece) :
    consume StmtState.step (.body shape line .start) (pieces ++ ⟨.closing, closes⟩ :: rest) =
      .ok (shape.withBody e, rest) := by
  rw [Reading.consume_body (derived.expression_append _)]
  rfl

theorem DerivesStmt.statement_append {pieces : List LocatedPiece} {s : Stmt}
    (derived : DerivesStmt pieces s) (rest : List LocatedPiece) :
    statement (pieces ++ rest) = .ok (s, rest) := by
  cases derived with
  | expression opens line closes body =>
    rw [formPieces_append]
    exact body.consume_body .expression line closes rest
  | print opens line closes body =>
    rw [formPieces_append]
    exact body.consume_body .print line closes rest
  | @declaration opens line nameLine closes name operands body named derived =>
    rw [formPieces_append, List.cons_append]
    change consume StmtState.step (.target line) _ = _
    rw [(StmtStep.target nameLine line named).consume_cons]
    exact derived.consume_body _ line closes rest

theorem program_of_statement {pieces rest : List LocatedPiece} {first : Stmt}
    (read : statement pieces = .ok (first, rest)) :
    program pieces = (program rest).map (first :: ·) := by
  rw [program]
  split
  next empty =>
    rw [List.isEmpty_iff.1 empty] at read
    simp [statement, consume] at read
  next =>
    split
    next failed => simp [read] at failed
    next found =>
      simp only [read, Except.ok.injEq, Prod.mk.injEq] at found
      rw [found.1, found.2]

theorem program_of_failure {pieces : List LocatedPiece} {failure : ReadError}
    (nonempty : pieces ≠ []) (failed : statement pieces = .error failure) :
    program pieces = .error failure := by
  rw [program, if_neg (by simpa using nonempty)]
  split
  next failedAgain => simpa [failed] using failedAgain.symm
  next found => simp [failed] at found

theorem DerivesProgram.program_eq {pieces : List LocatedPiece} {statements : Program}
    (derived : DerivesProgram pieces statements) : program pieces = .ok statements := by
  induction derived with
  | nil => simp [program]
  | cons first _ ih =>
    rw [program_of_statement (first.statement_append _), ih]
    rfl

/-! ## The grammar is unambiguous -/

theorem DerivesExpr.unique {pieces : List LocatedPiece} {first second : Expr}
    (derived : DerivesExpr pieces first) (again : DerivesExpr pieces second) : first = second := by
  have same := (derived.expression_append []).symm.trans (again.expression_append [])
  simpa using same

theorem DerivesProgram.unique {pieces : List LocatedPiece} {first second : Program}
    (derived : DerivesProgram pieces first) (again : DerivesProgram pieces second) :
    first = second := by
  have same := derived.program_eq.symm.trans again.program_eq
  simpa using same

end LoxForms.Reading
