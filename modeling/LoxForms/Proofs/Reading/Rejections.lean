import LoxForms.Proofs.Reading.Truncated

/-! # How a step of the reader fails

`ExprRejection` and `StmtRejection` have a rule for each step that fails, as `ExprStep` and `StmtStep`
have one for each step that does not.  A reader that fails has taken some pieces without an error, and
then either there are no more of them or the next one is rejected (`consume_eq_error`); and a program
that fails has complete statements before the one that does (`program_eq_error`).
-/

namespace LoxForms.Reading

/-! ## Expressions -/

/-- The steps that a reader of expressions refuses. -/
inductive ExprRejection : ExprState → LocatedPiece → ReadError → Prop where
  | noExpression (line : UInt32) :
      ExprRejection .start ⟨.closing, line⟩ (.unexpectedClose line)
  | noValue (name : Token) (line headLine : UInt32) (frames : List Frame) :
      ExprRejection (.expression (.value name headLine :: frames)) ⟨.closing, line⟩
        (.unexpectedClose line)
  | form {head : String} {headLine : UInt32} {reversed : List Expr} {failure : ReadError}
      (line : UInt32) (frames : List Frame)
      (refused : formExpr head headLine reversed.reverse = .error failure) :
      ExprRejection (.expression (.operands head headLine reversed :: frames)) ⟨.closing, line⟩
        failure
  | head {located : LocatedPiece} (frames : List Frame)
      (noAtom : ∀ text, located.piece ≠ .atom text) :
      ExprRejection (.formHead frames) located (.missingHead located.line)
  | target {located : LocatedPiece} {failure : ReadError} (headLine : UInt32)
      (frames : List Frame) (refused : identifier located = .error failure) :
      ExprRejection (.target headLine frames) located failure
  | tooLong {located : LocatedPiece} (name : Token) (value : Expr) (headLine : UInt32)
      (frames : List Frame) (further : located.piece ≠ .closing) :
      ExprRejection (.close name value headLine frames) located (.wrongArity "=" 3 headLine)

theorem exprRejection_of_step {state : ExprState} {located : LocatedPiece} {failure : ReadError}
    (failed : state.step located = .error failure) : ExprRejection state located failure := by
  obtain ⟨piece, line⟩ := located
  cases state with
  | expression frames =>
    cases piece with
    | atom text => cases failed
    | opening => cases failed
    | closing =>
      cases frames with
      | nil =>
        cases failed
        exact .noExpression line
      | cons frame frames =>
        cases frame with
        | value name headLine =>
          cases failed
          exact .noValue name line headLine frames
        | operands head headLine reversed =>
          simp only [ExprState.step] at failed
          cases formed : formExpr head headLine reversed.reverse with
          | error early =>
            rw [formed] at failed
            cases failed
            exact .form line frames formed
          | ok form =>
            rw [formed] at failed
            cases failed
  | formHead frames =>
    cases piece with
    | atom text =>
      simp only [ExprState.step] at failed
      split at failed <;> cases failed
    | opening | closing =>
      cases failed
      exact .head frames (by simp)
  | target headLine frames =>
    simp only [ExprState.step] at failed
    cases read : identifier ⟨piece, line⟩ with
    | error early =>
      rw [read] at failed
      cases failed
      exact .target headLine frames read
    | ok name =>
      rw [read] at failed
      cases failed
  | close name value headLine frames =>
    cases piece with
    | closing => cases failed
    | atom | opening =>
      cases failed
      exact .tooLong name value headLine frames (by simp)

/-! ## Statements -/

/-- The steps that a reader of statements refuses. -/
inductive StmtRejection : StmtState → LocatedPiece → ReadError → Prop where
  | noForm (line : UInt32) : StmtRejection .opening ⟨.closing, line⟩ (.unexpectedClose line)
  | atom (text : String) (line : UInt32) :
      StmtRejection .opening ⟨.atom text, line⟩ (.expectedForm text line)
  | unknown {text : String} (line : UInt32) (unknown : text ∉ heads) :
      StmtRejection .formHead ⟨.atom text, line⟩ (.unknownForm text line)
  | head {located : LocatedPiece} (noAtom : ∀ text, located.piece ≠ .atom text) :
      StmtRejection .formHead located (.missingHead located.line)
  | target {located : LocatedPiece} {failure : ReadError} (headLine : UInt32)
      (refused : identifier located = .error failure) :
      StmtRejection (.target headLine) located failure
  | inside {inner : ExprState} {located : LocatedPiece} {failure : ReadError} (shape : Shape)
      (headLine : UInt32) (rejects : ExprRejection inner located failure) :
      StmtRejection (.body shape headLine inner) located failure
  | tooLong {located : LocatedPiece} (shape : Shape) (headLine : UInt32) (s : Stmt)
      (further : located.piece ≠ .closing) :
      StmtRejection (.close shape headLine s) located
        (.wrongArity shape.head (shape.arity + 1) headLine)

theorem stmtRejection_of_step {state : StmtState} {located : LocatedPiece} {failure : ReadError}
    (failed : state.step located = .error failure) : StmtRejection state located failure := by
  obtain ⟨piece, line⟩ := located
  cases state with
  | opening =>
    cases piece with
    | opening => cases failed
    | closing =>
      cases failed
      exact .noForm line
    | atom text =>
      cases failed
      exact .atom text line
  | formHead =>
    cases piece with
    | atom text =>
      by_cases known : text ∈ heads
      · obtain rfl | rfl | rfl : text = "expr" ∨ text = "print" ∨ text = "var" := by
          simpa [heads] using known
        all_goals cases failed
      · rw [step_formHead_of_not_mem known] at failed
        cases failed
        exact .unknown line known
    | opening | closing =>
      cases failed
      exact .head (by simp)
  | target headLine =>
    simp only [StmtState.step] at failed
    cases read : identifier ⟨piece, line⟩ with
    | error early =>
      rw [read] at failed
      cases failed
      exact .target headLine read
    | ok name =>
      rw [read] at failed
      cases failed
  | body shape headLine inner =>
    simp only [StmtState.step] at failed
    cases read : inner.step ⟨piece, line⟩ with
    | error early =>
      rw [read] at failed
      cases failed
      exact .inside shape headLine (exprRejection_of_step read)
    | ok outcome =>
      rw [read] at failed
      cases outcome <;> cases failed
  | close shape headLine s =>
    cases piece with
    | closing => cases failed
    | atom | opening =>
      cases failed
      exact .tooLong shape headLine s (by simp)

/-! ## Runs that fail -/

/-- A run that fails keeps an invariant up to the piece that is rejected, or up to the end. -/
theorem consume_eq_error {σ α : Type}
    {step : σ → LocatedPiece → Except ReadError (Progress σ α)}
    (inv : List LocatedPiece → σ → Prop)
    (preserved : ∀ {taken state located next}, inv taken state →
      step state located = .ok (.pending next) → inv (taken ++ [located]) next)
    {taken pieces : List LocatedPiece} {state : σ} {failure : ReadError} (holds : inv taken state)
    (failed : consume step state pieces = .error failure) :
    (failure = .prematureTermination ∧ ∃ final, inv (taken ++ pieces) final) ∨
      ∃ read located rest final, pieces = read ++ located :: rest ∧ inv (taken ++ read) final ∧
        step final located = .error failure := by
  induction pieces generalizing taken state with
  | nil =>
    cases failed
    exact .inl ⟨rfl, state, by simpa using holds⟩
  | cons located others ih =>
    cases stepped : step state located with
    | error early =>
      rw [consume_cons_error stepped] at failed
      cases failed
      exact .inr ⟨[], located, others, state, rfl, by simpa using holds, stepped⟩
    | ok progress =>
      rw [consume_cons stepped] at failed
      cases progress with
      | complete result => cases failed
      | pending next =>
        rcases ih (preserved holds stepped) failed with
          ⟨early, final, atEnd⟩ | ⟨read, rejected, rest, final, rfl, before, refused⟩
        · exact .inl ⟨early, final, by simpa using atEnd⟩
        · exact .inr ⟨located :: read, rejected, rest, final, rfl, by simpa using before, refused⟩

/-- A program that fails begins with the statements before the one that does. -/
theorem program_eq_error {pieces : List LocatedPiece} {failure : ReadError}
    (failed : program pieces = .error failure) :
    ∃ earlier done rest, pieces = earlier ++ rest ∧ DerivesProgram earlier done ∧ rest ≠ [] ∧
      statement rest = .error failure := by
  fun_induction program pieces with
  | case1 => cases failed
  | case2 pieces nonempty early found =>
    cases failed
    exact ⟨[], [], pieces, rfl, .nil, fun empty => nonempty (List.isEmpty_iff.2 empty), found⟩
  | case3 pieces _ first rest found ih =>
    cases others : program rest with
    | ok remaining =>
      rw [others] at failed
      cases failed
    | error early =>
      rw [others] at failed
      cases failed
      obtain ⟨earlier, done, behind, rfl, derived, nonempty, last⟩ := ih others
      obtain ⟨taken, rfl, firstDerived⟩ := derives_of_statement found
      exact ⟨taken ++ earlier, first :: done, behind, by simp, .cons firstDerived derived,
        nonempty, last⟩

end LoxForms.Reading
