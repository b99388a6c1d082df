import LoxForms.Reading.Source

/-! # What a step of the reader does

The step functions also say how a step fails.  `ExprStep` and `StmtStep` have a rule for each step
that does not, and say with which state, piece and outcome.
-/

namespace LoxForms.Reading

theorem identifier_atom {name : String} (named : Atom.isIdentifier name = true) (line : UInt32) :
    identifier ⟨.atom name, line⟩ = .ok ⟨.identifier, name, none, line⟩ := by
  simp [identifier, named, Token.identifier]

theorem identifier_eq_ok {located : LocatedPiece} {name : Token}
    (read : identifier located = .ok name) :
    ∃ text, located.piece = .atom text ∧ Atom.isIdentifier text = true ∧
      name = ⟨.identifier, text, none, located.line⟩ := by
  unfold identifier at read
  split at read
  next text isAtomText =>
    split at read
    next named =>
      cases read
      exact ⟨text, isAtomText, named, rfl⟩
    next => cases read
  next => cases read
  next => cases read

/-! ## Expressions -/

/-- The steps of a reader of expressions. -/
inductive ExprStep : ExprState → LocatedPiece → Progress ExprState Expr → Prop where
  | literal (text : String) (line : UInt32) (frames : List Frame) :
      ExprStep (.expression frames) ⟨.atom text, line⟩
        (ExprState.deliver (.literal (Atom.value text)) frames)
  | opening (line : UInt32) (frames : List Frame) :
      ExprStep (.expression frames) ⟨.opening, line⟩ (.pending (.formHead frames))
  | closing {head : String} {headLine : UInt32} {reversed : List Expr} {form : Expr}
      (line : UInt32) (frames : List Frame)
      (formed : formExpr head headLine reversed.reverse = .ok form) :
      ExprStep (.expression (.operands head headLine reversed :: frames)) ⟨.closing, line⟩
        (ExprState.deliver form frames)
  | assign (line : UInt32) (frames : List Frame) :
      ExprStep (.formHead frames) ⟨.atom "=", line⟩ (.pending (.target line frames))
  | head {text : String} (line : UInt32) (frames : List Frame) (notAssign : text ≠ "=") :
      ExprStep (.formHead frames) ⟨.atom text, line⟩
        (.pending (.expression (.operands text line [] :: frames)))
  | target {name : String} (line headLine : UInt32) (frames : List Frame)
      (named : Atom.isIdentifier name = true) :
      ExprStep (.target headLine frames) ⟨.atom name, line⟩
        (.pending (.expression (.value ⟨.identifier, name, none, line⟩ headLine :: frames)))
  | close (name : Token) (value : Expr) (line headLine : UInt32) (frames : List Frame) :
      ExprStep (.close name value headLine frames) ⟨.closing, line⟩
        (ExprState.deliver (.assign name value) frames)

theorem ExprStep.step_eq {state : ExprState} {located : LocatedPiece}
    {progress : Progress ExprState Expr} (steps : ExprStep state located progress) :
    state.step located = .ok progress := by
  cases steps with
  | closing line frames formed =>
    simp only [ExprState.step, formed]
    rfl
  | head line frames notAssign => simp [ExprState.step, notAssign]
  | target line headLine frames named =>
    simp only [ExprState.step, identifier_atom named]
    rfl
  | literal | opening | assign | close => rfl

theorem exprStep_of_step {state : ExprState} {located : LocatedPiece}
    {progress : Progress ExprState Expr} (stepped : state.step located = .ok progress) :
    ExprStep state located progress := by
  obtain ⟨piece, line⟩ := located
  cases state with
  | expression frames =>
    cases piece with
    | atom text =>
      cases stepped
      exact .literal text line frames
    | opening =>
      cases stepped
      exact .opening line frames
    | closing =>
      cases frames with
      | nil => cases stepped
      | cons frame frames =>
        cases frame with
        | value name nameLine => cases stepped
        | operands head headLine reversed =>
          simp only [ExprState.step] at stepped
          cases formed : formExpr head headLine reversed.reverse with
          | error failure =>
            rw [formed] at stepped
            cases stepped
          | ok form =>
            rw [formed] at stepped
            cases stepped
            exact .closing line frames formed
  | formHead frames =>
    cases piece with
    | atom text =>
      simp only [ExprState.step] at stepped
      split at stepped
      next assigns =>
        cases stepped
        subst assigns
        exact .assign line frames
      next notAssign =>
        cases stepped
        exact .head line frames notAssign
    | opening => cases stepped
    | closing => cases stepped
  | target headLine frames =>
    simp only [ExprState.step] at stepped
    cases read : identifier ⟨piece, line⟩ with
    | error failure =>
      rw [read] at stepped
      cases stepped
    | ok name =>
      rw [read] at stepped
      cases stepped
      obtain ⟨text, rfl, named, rfl⟩ := identifier_eq_ok read
      exact .target line headLine frames named
  | close name value headLine frames =>
    cases piece with
    | closing =>
      cases stepped
      exact .close name value line headLine frames
    | atom text => cases stepped
    | opening => cases stepped

/-! ## Statements -/

/-- The steps of a reader of statements. -/
inductive StmtStep : StmtState → LocatedPiece → Progress StmtState Stmt → Prop where
  | opening (line : UInt32) : StmtStep .opening ⟨.opening, line⟩ (.pending .formHead)
  | expression (line : UInt32) :
      StmtStep .formHead ⟨.atom "expr", line⟩ (.pending (.body .expression line .start))
  | print (line : UInt32) :
      StmtStep .formHead ⟨.atom "print", line⟩ (.pending (.body .print line .start))
  | declaration (line : UInt32) :
      StmtStep .formHead ⟨.atom "var", line⟩ (.pending (.target line))
  | target {name : String} (line headLine : UInt32) (named : Atom.isIdentifier name = true) :
      StmtStep (.target headLine) ⟨.atom name, line⟩
        (.pending (.body (.declaration ⟨.identifier, name, none, line⟩) headLine .start))
  | inside {inner next : ExprState} {located : LocatedPiece} (shape : Shape) (headLine : UInt32)
      (steps : ExprStep inner located (.pending next)) :
      StmtStep (.body shape headLine inner) located (.pending (.body shape headLine next))
  | bodyEnd {inner : ExprState} {located : LocatedPiece} {e : Expr} (shape : Shape)
      (headLine : UInt32) (steps : ExprStep inner located (.complete e)) :
      StmtStep (.body shape headLine inner) located
        (.pending (.close shape headLine (shape.withBody e)))
  | close (shape : Shape) (line headLine : UInt32) (s : Stmt) :
      StmtStep (.close shape headLine s) ⟨.closing, line⟩ (.complete s)

theorem StmtStep.step_eq {state : StmtState} {located : LocatedPiece}
    {progress : Progress StmtState Stmt} (steps : StmtStep state located progress) :
    state.step located = .ok progress := by
  cases steps with
  | target line headLine named =>
    simp only [StmtState.step, identifier_atom named]
    rfl
  | inside shape headLine steps =>
    simp only [StmtState.step, steps.step_eq]
    rfl
  | bodyEnd shape headLine steps =>
    simp only [StmtState.step, steps.step_eq]
    rfl
  | opening | expression | print | declaration | close => rfl

/-- The head of a statement is one of three words. -/
theorem step_formHead (text : String) (line : UInt32) :
    StmtState.step .formHead ⟨.atom text, line⟩ =
      if text = "expr" then .ok (.pending (.body .expression line .start))
      else if text = "print" then .ok (.pending (.body .print line .start))
      else if text = "var" then .ok (.pending (.target line))
      else .error (.unknownForm text line) := by
  by_cases isExpr : text = "expr"
  · subst isExpr; rfl
  · by_cases isPrint : text = "print"
    · subst isPrint; rfl
    · by_cases isVar : text = "var"
      · subst isVar; rfl
      · simp [StmtState.step, isExpr, isPrint, isVar]

theorem stmtStep_of_step {state : StmtState} {located : LocatedPiece}
    {progress : Progress StmtState Stmt} (stepped : state.step located = .ok progress) :
    StmtStep state located progress := by
  obtain ⟨piece, line⟩ := located
  cases state with
  | opening =>
    cases piece with
    | opening =>
      cases stepped
      exact .opening line
    | closing => cases stepped
    | atom text => cases stepped
  | formHead =>
    cases piece with
    | atom text =>
      rw [step_formHead] at stepped
      split at stepped
      next isExpr =>
        cases stepped
        subst isExpr
        exact .expression line
      next =>
        split at stepped
        next isPrint =>
          cases stepped
          subst isPrint
          exact .print line
        next =>
          split at stepped
          next isVar =>
            cases stepped
            subst isVar
            exact .declaration line
          next => cases stepped
    | opening => cases stepped
    | closing => cases stepped
  | target headLine =>
    simp only [StmtState.step] at stepped
    cases read : identifier ⟨piece, line⟩ with
    | error failure =>
      rw [read] at stepped
      cases stepped
    | ok name =>
      rw [read] at stepped
      cases stepped
      obtain ⟨text, rfl, named, rfl⟩ := identifier_eq_ok read
      exact .target line headLine named
  | body shape headLine inner =>
    simp only [StmtState.step] at stepped
    cases read : inner.step ⟨piece, line⟩ with
    | error failure =>
      rw [read] at stepped
      cases stepped
    | ok outcome =>
      rw [read] at stepped
      cases outcome with
      | pending next =>
        cases stepped
        exact .inside shape headLine (exprStep_of_step read)
      | complete e =>
        cases stepped
        exact .bodyEnd shape headLine (exprStep_of_step read)
  | close shape headLine s =>
    cases piece with
    | closing =>
      cases stepped
      exact .close shape line headLine s
    | opening => cases stepped
    | atom text => cases stepped

end LoxForms.Reading
