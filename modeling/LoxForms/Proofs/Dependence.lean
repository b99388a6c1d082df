import LoxForms.Proofs.Kinds
import LoxForms.Proofs.Likeness

/-! # What the output depends on

Every field of a token is looked at by one pass at most: folding asks operators for their kinds,
rendering asks operators and names for their lexemes, and the line only gets into messages.  So two
programs that match in what is asked for are printed alike, whatever else their tokens hold, and what
is reported of them differs in the operators of the failures only.
-/

namespace LoxForms

variable {operators : Token → Token → Prop} {likeness : Likeness} {folding : Bool}

/-! ## Outcomes that differ in operators -/

/-- The failures are of one variant and have the same values; the operators are related. -/
inductive FoldError.Matches (operators : Token → Token → Prop) : FoldError → FoldError → Prop where
  | invalidOperator {operator other : Token} (related : operators operator other) :
      Matches operators (.invalidOperator operator) (.invalidOperator other)
  | invalidOperand {operator other : Token} (related : operators operator other) (value : Value) :
      Matches operators (.invalidOperand operator value) (.invalidOperand other value)
  | invalidOperands {operator other : Token} (related : operators operator other)
      (left right : Value) :
      Matches operators (.invalidOperands operator left right)
        (.invalidOperands other left right)

/-- Both have the same result, or both have failures that match. -/
inductive SameOutcome {α : Type} (operators : Token → Token → Prop) :
    Except FoldError α → Except FoldError α → Prop where
  | ok (result : α) : SameOutcome operators (.ok result) (.ok result)
  | error {failure other : FoldError} (failures : failure.Matches operators other) :
      SameOutcome operators (.error failure) (.error other)

namespace SameOutcome

variable {α β : Type} {first second : Except FoldError α}

theorem bind {next another : α → Except FoldError β} (same : SameOutcome operators first second)
    (continued : ∀ result, SameOutcome operators (next result) (another result)) :
    SameOutcome operators (first >>= next) (second >>= another) := by
  cases same with
  | ok result => exact continued result
  | error failures => exact .error failures

theorem map (f : α → β) (same : SameOutcome operators first second) :
    SameOutcome operators (first.map f) (second.map f) := by
  cases same with
  | ok result => exact .ok (f result)
  | error failures => exact .error failures

theorem failure? (same : SameOutcome operators first second) :
    Option.Rel (FoldError.Matches operators) (FoldError.of? first) (FoldError.of? second) := by
  cases same with
  | ok _ => exact .none
  | error failures => exact .some failures

end SameOutcome

/-! ## Folding -/

/-- What folding depends on is shared: the kinds of operators and the values of literals. -/
structure Likeness.SharesKinds (likeness : Likeness) : Prop where
  operator {first second : Token} (alike : likeness.operator first second) :
    first.kind = second.kind
  value {first second : Value} (alike : likeness.value first second) : first = second

namespace Token

variable {first second : Token}

theorem applyUnary_same (kinds : first.kind = second.kind) (related : operators first second)
    (value : Value) :
    SameOutcome operators (first.applyUnary value) (second.applyUnary value) := by
  unfold applyUnary
  rw [kinds]
  cases Operation.unary? second.kind value with
  | some result => exact .ok result
  | none =>
    dsimp only
    split
    · exact .error (.invalidOperand related value)
    · exact .error (.invalidOperator related)

theorem applyBinary_same (kinds : first.kind = second.kind) (related : operators first second)
    (left right : Value) :
    SameOutcome operators (first.applyBinary left right) (second.applyBinary left right) := by
  unfold applyBinary
  rw [kinds]
  cases Operation.binary? second.kind left right with
  | some result => exact .ok result
  | none =>
    dsimp only
    split
    · exact .error (.invalidOperands related left right)
    · exact .error (.invalidOperator related)

end Token

namespace Expr.Matches

variable {e other : Expr}

theorem fold (shares : likeness.SharesKinds) (matching : e.Matches likeness other) :
    SameOutcome likeness.operator e.fold other.fold := by
  induction matching with
  | assign _ _ _ => exact .ok none
  | reference _ => exact .ok none
  | @literal value _ values =>
    obtain rfl := shares.value values
    exact .ok (some value)
  | grouping _ ih => exact ih
  | @unary operator otherOperator operand otherOperand operators _ ih =>
    rw [fold_unary, fold_unary]
    generalize operand.fold = first, otherOperand.fold = second at ih
    cases ih with
    | error failures => exact .error failures
    | ok result =>
      cases result with
      | none => exact .ok none
      | some value =>
        exact (Token.applyUnary_same (shares.operator operators) operators value).map some
  | @binary left otherLeft right otherRight operator otherOperator _ operators _ leftHypothesis
      rightHypothesis =>
    rw [fold_binary, fold_binary]
    generalize left.fold = first, otherLeft.fold = second at leftHypothesis
    generalize right.fold = third, otherRight.fold = fourth at rightHypothesis
    cases leftHypothesis with
    | error failures => exact .error failures
    | ok leftResult =>
      cases leftResult with
      | none => exact .ok none
      | some leftValue =>
        cases rightHypothesis with
        | error failures => exact .error failures
        | ok rightResult =>
          cases rightResult with
          | none => exact .ok none
          | some rightValue =>
            exact (Token.applyBinary_same (shares.operator operators) operators leftValue
              rightValue).map some

end Expr.Matches

/-! ## Rendering -/

/-- What rendering depends on is shared: the lexemes of operators and of names that are written, and
the values of literals. -/
structure Likeness.SharesLexemes (likeness : Likeness) : Prop where
  operator {first second : Token} (alike : likeness.operator first second) :
    first.lexeme = second.lexeme
  name {first second : Token} (alike : likeness.name first second) : first.lexeme = second.lexeme
  value {first second : Value} (alike : likeness.value first second) : first = second

/-- What printing depends on is shared: lexemes, and with folding also kinds. -/
structure Likeness.SharesShown (likeness : Likeness) (folding : Bool) : Prop where
  lexemes : likeness.SharesLexemes
  kinds (folds : folding = true) : likeness.SharesKinds

theorem Expr.Matches.replacement? (shares : likeness.SharesShown folding) {e other : Expr}
    (matching : e.Matches likeness other) :
    SameOutcome likeness.operator (e.replacement? folding) (other.replacement? folding) := by
  cases folding with
  | false => exact .ok none
  | true => exact matching.fold (shares.kinds rfl)

/-- Both nodes are replaced by one value, or both are shown above what is shown of their children. -/
theorem SameOutcome.shown {first second : Except FoldError (Option Value)}
    {kept another : Except FoldError String} (replacements : SameOutcome operators first second)
    (below : SameOutcome operators kept another) :
    SameOutcome operators
      (first >>= fun | some value => pure value.text | none => kept)
      (second >>= fun | some value => pure value.text | none => another) := by
  refine replacements.bind fun replacement => ?_
  cases replacement with
  | some value => exact .ok value.text
  | none => exact below

theorem Expr.Matches.render (shares : likeness.SharesShown folding) {e other : Expr}
    (matching : e.Matches likeness other) :
    SameOutcome likeness.operator (e.render folding) (other.render folding) := by
  induction matching with
  | assign names _ ih =>
    rw [Expr.render, Expr.render, shares.lexemes.name names]
    exact ih.bind fun _ => .ok _
  | reference _ => exact .ok ""
  | @literal value _ values =>
    obtain rfl := shares.lexemes.value values
    exact .ok value.text
  | grouping inners ih =>
    have replacements := (Matches.grouping inners).replacement? shares
    exact replacements.shown (ih.bind fun _ => .ok _)
  | unary operators operands ih =>
    have replacements := (Matches.unary operators operands).replacement? shares
    rw [Expr.render, Expr.render, shares.lexemes.operator operators]
    exact replacements.shown (ih.bind fun _ => .ok _)
  | binary lefts operators rights leftHypothesis rightHypothesis =>
    have replacements := (Matches.binary lefts operators rights).replacement? shares
    rw [Expr.render, Expr.render, shares.lexemes.operator operators]
    exact replacements.shown
      (leftHypothesis.bind fun _ => rightHypothesis.bind fun _ => .ok _)

theorem Stmt.Matches.render (shares : likeness.SharesShown folding) {s other : Stmt}
    (matching : s.Matches likeness other) :
    SameOutcome likeness.operator (s.render folding) (other.render folding) := by
  cases matching with
  | expression bodies => exact (bodies.render shares).bind fun _ => .ok _
  | print bodies => exact (bodies.render shares).bind fun _ => .ok _
  | declaration names bodies =>
    rw [Stmt.render, Stmt.render, shares.lexemes.name names]
    exact (bodies.render shares).bind fun _ => .ok _

/-! ## Printing -/

/-- Of two programs whose statements are rendered with the same outcomes one by one, equal sinks get
the same, and the reports come from as many statements. -/
theorem Printer.print_same {program other : Program}
    (same : List.Forall₂ (fun s another =>
      SameOutcome operators (s.render folding) (another.render folding)) program other)
    (sink : Sink) (log otherLog : Log) :
    ∃ result after count,
      Printer.print { folding := folding, sink := sink, log := log } program =
        (result, { folding := folding, sink := after,
                   log := log.reporting (Program.failures folding (program.take count)) }) ∧
      Printer.print { folding := folding, sink := sink, log := otherLog } other =
        (result, { folding := folding, sink := after,
                   log := otherLog.reporting (Program.failures folding (other.take count)) }) := by
  induction same generalizing sink log otherLog with
  | nil => exact ⟨sink.flush.1, sink.flush.2, 0, by simp [print], by simp [print]⟩
  | @cons s another statements others first _ ih =>
    generalize shown : s.render folding = outcome, otherShown : another.render folding = otherOutcome
      at first
    cases first with
    | @error failure otherFailure failures =>
      obtain ⟨result, after, count, printed, otherPrinted⟩ :=
        ih sink (log.report failure) (otherLog.report otherFailure)
      refine ⟨result, after, count + 1, ?_, ?_⟩
      · rw [print, shown, List.take_succ_cons, Program.failures_cons,
          Program.failures_of_error shown, List.singleton_append, ← Log.reporting_report]
        exact printed
      · rw [print, otherShown, List.take_succ_cons, Program.failures_cons,
          Program.failures_of_error otherShown, List.singleton_append, ← Log.reporting_report]
        exact otherPrinted
    | ok line =>
      rcases written : sink.writeLine line with ⟨outcome, after⟩
      cases outcome with
      | error refusal =>
        refine ⟨.error refusal, after, 0, ?_, ?_⟩
        · simp [print, shown, written]
        · simp [print, otherShown, written]
      | ok _ =>
        obtain ⟨result, afterAll, count, printed, otherPrinted⟩ := ih after log otherLog
        refine ⟨result, afterAll, count + 1, ?_, ?_⟩
        · rw [print, shown, List.take_succ_cons, Program.failures_cons,
            Program.failures_of_ok shown, List.nil_append]
          simpa only [written] using printed
        · rw [print, otherShown, List.take_succ_cons, Program.failures_cons,
            Program.failures_of_ok otherShown, List.nil_append]
          simpa only [written] using otherPrinted

/-- Two runs into equal sinks end with the same result and leave equal sinks behind, and they report
failures of statements in the same positions, which match. -/
def Program.PrintedAlike (operators : Token → Token → Prop) (folding : Bool)
    (program other : Program) : Prop :=
  ∀ (sink : Sink) (log otherLog : Log), ∃ result after count,
    Printer.print { folding := folding, sink := sink, log := log } program =
      (result, { folding := folding, sink := after,
                 log := log.reporting
                  ((Program.failuresAt folding (program.take count)).map Prod.snd) }) ∧
    Printer.print { folding := folding, sink := sink, log := otherLog } other =
      (result, { folding := folding, sink := after,
                 log := otherLog.reporting
                  ((Program.failuresAt folding (other.take count)).map Prod.snd) }) ∧
    List.Forall₂ (fun report another => report.1 = another.1 ∧ report.2.Matches operators another.2)
      (Program.failuresAt folding (program.take count))
      (Program.failuresAt folding (other.take count))

theorem Program.Matches.printedAlike (shares : likeness.SharesShown folding)
    {program other : Program} (matching : program.Matches likeness other) :
    Program.PrintedAlike likeness.operator folding program other := by
  intro sink log otherLog
  have same : List.Forall₂ (fun s another =>
      SameOutcome likeness.operator (s.render folding) (another.render folding)) program other :=
    matching.imp fun _ _ statements => statements.render shares
  obtain ⟨result, after, count, printed, otherPrinted⟩ :=
    Printer.print_same same sink log otherLog
  refine ⟨result, after, count, ?_, ?_, Program.forall₂_failuresAt ?_⟩
  · rw [printed, Program.failures_eq_map_failuresAt]
  · rw [otherPrinted, Program.failures_eq_map_failuresAt]
  · exact List.forall₂_take count (same.imp fun _ _ outcomes => outcomes.failure?)

/-! ## What programs and expressions may differ in -/

namespace Likeness

/-- Operators have the same kinds and lexemes, and names the same lexemes. -/
def printed : Likeness where
  operator first second := first.kind = second.kind ∧ first.lexeme = second.lexeme
  name first second := first.lexeme = second.lexeme
  reference _ _ := True
  value := Eq

/-- Operators and names have the same lexemes. -/
def written : Likeness where
  operator first second := first.lexeme = second.lexeme
  name first second := first.lexeme = second.lexeme
  reference _ _ := True
  value := Eq

/-- Operators have the same kinds. -/
def evaluated : Likeness where
  operator first second := first.kind = second.kind
  name _ _ := True
  reference _ _ := True
  value := Eq

theorem sharesShown_printed (folding : Bool) : printed.SharesShown folding where
  lexemes := ⟨And.right, id, id⟩
  kinds _ := ⟨And.left, id⟩

theorem sharesShown_written : written.SharesShown false where
  lexemes := ⟨id, id, id⟩
  kinds := nofun

theorem sharesKinds_evaluated : evaluated.SharesKinds := ⟨id, id⟩

end Likeness

/-- What is printed of a program depends on its literals, on the kinds and lexemes of its operators and
on the lexemes of the names that it declares and assigns to, and without folding not on the kinds.
Programs that share these fill equal sinks with the same bytes, end with the same result and as many
flushes, and fail in the same statements, with the same values.  What an expression folds to depends
on its literals and the kinds of its operators alone. -/
theorem printed_by_kinds_and_lexemes :
    (∀ (folding : Bool) (program other : Program), program.Matches .printed other →
      Program.PrintedAlike Likeness.printed.operator folding program other) ∧
    (∀ program other : Program, program.Matches .written other →
      Program.PrintedAlike Likeness.written.operator false program other) ∧
    ∀ e other : Expr, e.Matches .evaluated other →
      SameOutcome Likeness.evaluated.operator e.fold other.fold := by
  refine ⟨fun folding program other matching => ?_, fun program other matching => ?_,
    fun e other matching => ?_⟩
  · exact matching.printedAlike (Likeness.sharesShown_printed folding)
  · exact matching.printedAlike Likeness.sharesShown_written
  · exact matching.fold Likeness.sharesKinds_evaluated

/-- A word, negated. -/
def Expr.negatedWord (lexeme : String) (line : UInt32) : Expr :=
  .unary ⟨.minus, lexeme, none, line⟩ (.literal (.string "word"))

/-- A variable is declared with the value that the operator has on another one. -/
def Stmt.declaredOperation (operator name : TokenKind) (reference : String) (line : UInt32) : Stmt :=
  .declaration ⟨name, "x", none, line⟩
    (.unary ⟨operator, "-", none, line⟩ (.reference ⟨name, reference, none, line⟩))

/-- On other lines, with another kind of name and a reference to something else, the same line is
written, and the negation of the word is reported before it.  Without folding the operator may be of
another kind, and the failure of the negation does not depend on the lexeme of the minus. -/
theorem printed_negations :
    (Printer.print { folding := true }
        [.print (.negatedWord "-" 1), .declaredOperation .minus .identifier "y" 2]).2.sink =
      { stored := "(var x (- ))\n".toUTF8.data, flushes := 1 } ∧
    (Printer.print { folding := true }
        [.print (.negatedWord "-" 7), .declaredOperation .minus .whileKeyword "z" 9]).2.sink =
      { stored := "(var x (- ))\n".toUTF8.data, flushes := 1 } ∧
    Program.PrintedAlike Likeness.written.operator false
      [.declaredOperation .minus .identifier "y" 2] [.declaredOperation .eof .whileKeyword "z" 9] ∧
    SameOutcome Likeness.evaluated.operator (Expr.negatedWord "-" 1).fold
      (Expr.negatedWord "minus" 7).fold := by
  obtain ⟨withFolding, withoutFolding, folded⟩ := printed_by_kinds_and_lexemes
  have first : (Printer.print { folding := true }
      [.print (.negatedWord "-" 1), .declaredOperation .minus .identifier "y" 2]).2.sink =
        { stored := "(var x (- ))\n".toUTF8.data, flushes := 1 } := by
    rw [Printer.print_fresh]
    rfl
  obtain ⟨result, after, count, printed, otherPrinted, -⟩ := withFolding true
    [.print (.negatedWord "-" 1), .declaredOperation .minus .identifier "y" 2]
    [.print (.negatedWord "-" 7), .declaredOperation .minus .whileKeyword "z" 9]
    (.cons (.print (.unary ⟨rfl, rfl⟩ (.literal rfl)))
      (.cons (.declaration rfl (.unary ⟨rfl, rfl⟩ (.reference trivial))) .nil)) {} {} {}
  refine ⟨first, ?_, ?_, ?_⟩
  · rw [printed] at first
    rw [otherPrinted]
    exact first
  · exact withoutFolding _ _ (.cons (.declaration rfl (.unary rfl (.reference trivial))) .nil)
  · exact folded _ _ (.unary rfl (.literal rfl))

end LoxForms
