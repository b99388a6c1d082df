import LoxForms.Proofs.Failures
import LoxForms.Proofs.Places
import LoxForms.Proofs.RoundTrip

/-! # Where a failure comes from

Every subexpression of a program that was read stands in the text as a form of its own, or as an
atom.  What is reported of such a program can be traced: the failure is the rejection of values by
an operator of the program, and that operator is the head of a form of the text, on the line on
which it stands there (`reported_of_read`).  An operator that stands for no operation is never
read.
-/

namespace LoxForms

open Piece Reading

/-! ## Subexpressions in their pieces -/

namespace Reading

theorem infix_formPieces (opens line closes : UInt32) (head : String)
    (operands : List LocatedPiece) :
    operands <:+: formPieces opens line closes head operands :=
  ⟨[⟨.opening, opens⟩, ⟨.atom head, line⟩], [⟨.closing, closes⟩], rfl⟩

theorem DerivesExpr.exists_infix_child {pieces : List LocatedPiece} {e child : Expr}
    (derived : DerivesExpr pieces e) (member : child ∈ e.children) :
    ∃ inner, inner <:+: pieces ∧ DerivesExpr inner child := by
  cases derived with
  | literal => cases member
  | grouping opens line closes operand =>
    obtain rfl := List.mem_singleton.1 member
    exact ⟨_, infix_formPieces opens line closes _ _, operand⟩
  | assign opens line nameLine closes named operand =>
    obtain rfl := List.mem_singleton.1 member
    exact ⟨_, (List.suffix_cons _ _).isInfix.trans (infix_formPieces opens line closes _ _),
      operand⟩
  | unary opens line closes operator operand =>
    obtain rfl := List.mem_singleton.1 member
    exact ⟨_, infix_formPieces opens line closes _ _, operand⟩
  | @binary opens line closes head kind leftPieces rightPieces left right operator leftDerived
      rightDerived =>
    have within := infix_formPieces opens line closes head (leftPieces ++ rightPieces)
    rcases List.mem_pair.1 member with rfl | rfl
    · exact ⟨_, (List.prefix_append _ _).isInfix.trans within, leftDerived⟩
    · exact ⟨_, (List.suffix_append _ _).isInfix.trans within, rightDerived⟩

/-- A subexpression was derived from some of the pieces, next to each other. -/
theorem DerivesExpr.exists_infix {pieces : List LocatedPiece} {e node : Expr}
    (derived : DerivesExpr pieces e) (member : node ∈ e.nodes) :
    ∃ inner, inner <:+: pieces ∧ DerivesExpr inner node := by
  induction e using Expr.children_induction generalizing pieces with
  | node e ih =>
    rcases Expr.mem_nodes_iff.1 member with rfl | ⟨child, isChild, below⟩
    · exact ⟨pieces, List.infix_rfl, derived⟩
    · obtain ⟨childPieces, childWithin, childDerived⟩ := derived.exists_infix_child isChild
      obtain ⟨inner, within, innerDerived⟩ := ih child isChild childDerived below
      exact ⟨inner, within.trans childWithin, innerDerived⟩

theorem DerivesStmt.exists_infix {pieces : List LocatedPiece} {s : Stmt} {node : Expr}
    (derived : DerivesStmt pieces s) (member : node ∈ s.body.nodes) :
    ∃ inner, inner <:+: pieces ∧ DerivesExpr inner node := by
  cases derived with
  | expression opens line closes body | print opens line closes body =>
    obtain ⟨inner, within, derivedInner⟩ := body.exists_infix member
    exact ⟨inner, within.trans (infix_formPieces _ _ _ _ _), derivedInner⟩
  | declaration opens line nameLine closes named body =>
    obtain ⟨inner, within, derivedInner⟩ := body.exists_infix member
    exact ⟨inner, (within.trans (List.suffix_cons _ _).isInfix).trans
      (infix_formPieces _ _ _ _ _), derivedInner⟩

/-- The pieces of one statement come between those of the statements before it and after it. -/
theorem DerivesProgram.exists_eq_append {pieces : List LocatedPiece} {first others : Program}
    {s : Stmt} (derived : DerivesProgram pieces (first ++ s :: others)) :
    ∃ before statement after, pieces = before ++ statement ++ after ∧
      DerivesProgram before first ∧ DerivesStmt statement s ∧ DerivesProgram after others := by
  induction first generalizing pieces with
  | nil =>
    cases derived with
    | cons statement rest => exact ⟨[], _, _, rfl, .nil, statement, rest⟩
  | cons one first ih =>
    cases derived with
    | cons statement rest =>
      obtain ⟨before, inner, after, rfl, earlier, derivedInner, later⟩ := ih rest
      exact ⟨_, inner, after, by simp, .cons statement earlier, derivedInner, later⟩

end Reading

/-! ## Operators in their pieces -/

/-- The operator of a node that was read heads the form that the node was read from. -/
theorem Expr.Rejects.exists_formPieces {node : Expr} {failure : FoldError}
    (rejects : node.Rejects failure) {pieces : List LocatedPiece}
    (derived : DerivesExpr pieces node) :
    ∃ opens closes operands, pieces = formPieces opens failure.operator.line closes
      failure.operator.lexeme operands := by
  cases rejects with
  | unknownUnary | negation =>
    cases derived with
    | unary opens line closes => exact ⟨opens, closes, _, rfl⟩
  | unknownBinary | unsuited =>
    cases derived with
    | binary opens line closes => exact ⟨opens, closes, _, rfl⟩

/-- The operators on two operands that are not defined on all values. -/
def Operator.partialTable : List (String × TokenKind) :=
  [("+", .plus), ("-", .minus), ("*", .star), ("/", .slash), ("<", .less), ("<=", .lessEqual),
    (">", .greater), (">=", .greaterEqual)]

/-- The failure is that of a negation or of an operator that is not defined on all values. -/
def FoldError.IsOfPartial : FoldError → Prop
  | .invalidOperator _ => False
  | .invalidOperand operator _ => operator.kind = .minus ∧ operator.lexeme = "-"
  | .invalidOperands operator _ _ => (operator.lexeme, operator.kind) ∈ Operator.partialTable

/-- The message has the values that were rejected, and of the operator the lexeme and the line. -/
theorem FoldError.IsOfPartial.exists_message {failure : FoldError}
    (ofPartial : failure.IsOfPartial) :
    ∃ rejected values : String, failure.message =
      "Invalid " ++ rejected ++ " for " ++ failure.operator.lexeme ++ ": " ++ values ++ ". Line " ++
        toString failure.operator.line := by
  cases failure with
  | invalidOperator operator => exact ofPartial.elim
  | invalidOperand operator value =>
    refine ⟨"operand", value.taggedText, ?_⟩
    have beginning : "Invalid " ++ "operand" ++ " for " = "Invalid operand for " := rfl
    rw [beginning]
    rfl
  | invalidOperands operator left right =>
    refine ⟨"operands", left.taggedText ++ " " ++ right.taggedText, ?_⟩
    have beginning : "Invalid " ++ "operands" ++ " for " = "Invalid operands for " := rfl
    have ending : ". Line " = ". " ++ "Line " := rfl
    rw [beginning, ending]
    unfold message FoldError.operator
    simp only [String.append_assoc]
    rfl

theorem Reading.UnaryOperator.mem_table {head : String} {kind : TokenKind}
    (operator : UnaryOperator head kind) : kind ∈ Operator.unaryTable.map Prod.snd := by
  cases operator <;> decide

theorem Reading.BinaryOperator.mem_table {head : String} {kind : TokenKind}
    (operator : BinaryOperator head kind) : kind ∈ Operator.binaryTable.map Prod.snd := by
  cases operator <;> decide

/-- What was read has the operators of the tables, each with its own kind. -/
theorem Expr.Rejects.isOfPartial {node : Expr} {failure : FoldError}
    (rejects : node.Rejects failure) {pieces : List LocatedPiece}
    (derived : DerivesExpr pieces node) : failure.IsOfPartial := by
  cases rejects with
  | unknownUnary folded unknown =>
    cases derived with
    | unary _ _ _ operator => exact absurd operator.mem_table unknown
  | negation folded minus =>
    cases derived with
    | unary _ _ _ operator =>
      cases operator with
      | minus => exact ⟨rfl, rfl⟩
      | bang => cases minus
  | unknownBinary leftFolded rightFolded unknown =>
    cases derived with
    | binary _ _ _ operator => exact absurd operator.mem_table unknown
  | unsuited leftFolded rightFolded known noEquality =>
    cases derived with
    | binary _ _ _ operator =>
      cases operator with
      | equalEqual => exact absurd rfl noEquality.1
      | bangEqual => exact absurd rfl noEquality.2
      | plus | minus | star | slash | less | lessEqual | greater | greaterEqual =>
        simp [FoldError.IsOfPartial, Operator.partialTable]

/-! ## Forms in a text -/

/-- A place where a form stands in a text. -/
structure FormPlace (source : String) where
  /-- The pieces before the form and after it. -/
  before : List LocatedPiece
  after : List LocatedPiece
  /-- The lines of its two parentheses and of its head. -/
  opens : UInt32
  line : UInt32
  closes : UInt32
  head : String
  operands : List LocatedPiece
  /-- The characters before the head and after it. -/
  prior : String
  rest : String
  pieces_eq : ofSource source = before ++ formPieces opens line closes head operands ++ after
  source_eq : source = prior ++ head ++ rest
  pieces_prior : ofSource prior = before ++ [⟨.opening, opens⟩]
  line_eq : line = lineAfterAll 1 prior.toList

namespace FormPlace

variable {source : String}

def pieces (place : FormPlace source) : List LocatedPiece :=
  formPieces place.opens place.line place.closes place.head place.operands

/-- The form stands in the pieces of a statement, which come behind those of other statements. -/
def IsWithin (place : FormPlace source) (first : Program) (s : Stmt) : Prop :=
  ∃ earlier inside outside later, place.before = earlier ++ inside ∧
    place.after = outside ++ later ∧ DerivesProgram earlier first ∧
    DerivesStmt (inside ++ place.pieces ++ outside) s

theorem toNat_line (place : FormPlace source)
    (bounded : source.toList.count '\n' < UInt32.size - 1) :
    place.line.toNat = 1 + place.prior.toList.count '\n' := by
  rw [place.line_eq, toNat_lineAfterAll_one]
  have fewer : place.prior.toList.count '\n' ≤ source.toList.count '\n' := by
    conv_rhs => rw [place.source_eq]
    rw [String.toList_append, String.toList_append, List.append_assoc, List.count_append]
    exact Nat.le_add_right _ _
  omega

/-- A form among the pieces of a text has a place in it. -/
theorem exists_of_pieces {before after operands : List LocatedPiece} {opens line closes : UInt32}
    {head : String}
    (pieces : ofSource source = before ++ formPieces opens line closes head operands ++ after) :
    ∃ place : FormPlace source, place.before = before ∧ place.after = after ∧
      place.pieces = formPieces opens line closes head operands ∧ place.head = head ∧
      place.line = line := by
  have headPieces : ofSource source = (before ++ [⟨.opening, opens⟩]) ++
      ⟨.atom head, line⟩ :: (operands ++ ⟨.closing, closes⟩ :: after) := by
    rw [pieces]
    simp [formPieces]
  obtain ⟨prior, rest, chars, piecesPrior, onLine⟩ := exists_place headPieces
  refine ⟨⟨before, after, opens, line, closes, head, operands, String.ofList prior,
    String.ofList rest, pieces, ?_, ?_, ?_⟩, rfl, rfl, rfl, rfl, rfl⟩
  · simpa [← String.toList_inj, Piece.chars] using chars
  · simpa [ofSource] using piecesPrior
  · simpa using onLine

end FormPlace

/-! ## Reported failures -/

/-- What a printer reports are failures of the program, whatever its sink has room for. -/
theorem Printer.exists_reported (printer : Printer) (program : Program) :
    ∃ reported, (printer.print program).2.log = printer.log.reporting reported ∧
      ∀ failure ∈ reported, ∃ s ∈ program, s.render printer.folding = .error failure := by
  have ofFailures : ∀ part : Program, (∀ s ∈ part, s ∈ program) →
      ∀ failure ∈ part.failures printer.folding,
        ∃ s ∈ program, s.render printer.folding = .error failure := by
    intro part isPart failure member
    obtain ⟨s, inPart, failed⟩ := List.mem_filterMap.1 member
    exact ⟨s, isPart s inPart, FoldError.of?_eq_some_iff.1 failed⟩
  by_cases fits : printer.sink.Fits (program.bytes printer.folding).size
  · refine ⟨program.failures printer.folding, ?_, ofFailures program fun _ => id⟩
    rw [print_of_fits fits]
    rfl
  · obtain ⟨before, statement, after, rfl, _, _, _, printed⟩ := print_of_not_fits fits
    refine ⟨Program.failures printer.folding before, ?_, ofFailures before fun s inBefore => ?_⟩
    · rw [printed]
      rfl
    · exact List.mem_append_left _ inBefore

/-- Whatever a folding printer reports of a program that was read can be traced in its source.  It
is the failure of a negation or of an operator that is not defined on all values.  It comes from the
first failing subexpression of a statement, and the operator is the head of the form from which that
subexpression was read: it has the lexeme of the head, and its line, which is one more than the
number of line feeds before the head, and both are in the message. -/
theorem reported_of_read {source : String} {program : Program}
    (accepted : Program.read source = .ok program) (printer : Printer)
    (folds : printer.folding = true) :
    ∃ reported, (printer.print program).2.log = printer.log.reporting reported ∧
      ∀ failure ∈ reported, failure.IsOfPartial ∧
        ∃ first s others, program = first ++ s :: others ∧ s.render true = .error failure ∧
          ∃ node, Expr.FailsFirst s.body.postorder node failure ∧ node.Rejects failure ∧
            ∃ place : FormPlace source, place.IsWithin first s ∧ DerivesExpr place.pieces node ∧
              failure.operator.lexeme = place.head ∧ failure.operator.line = place.line ∧
              (∃ rejected values : String, failure.message =
                "Invalid " ++ rejected ++ " for " ++ place.head ++ ": " ++ values ++ ". Line " ++
                  toString place.line) ∧
              (source.toList.count '\n' < UInt32.size - 1 →
                failure.operator.line.toNat = 1 + place.prior.toList.count '\n') := by
  obtain ⟨reported, logged, fails⟩ := printer.exists_reported program
  refine ⟨reported, logged, fun failure member => ?_⟩
  obtain ⟨s, inProgram, failed⟩ := fails failure member
  rw [folds] at failed
  obtain ⟨first, others, parts⟩ := List.append_of_mem inProgram
  have derived := programRead_eq_ok_iff.1 accepted
  rw [parts] at derived
  obtain ⟨earlier, statement, later, pieces, before, derivedStmt, _⟩ := derived.exists_eq_append
  obtain ⟨node, failsFirst, rejects⟩ := Expr.foldedText_eq_error_iff_failsFirst.1
    (Stmt.foldedText_eq_error_iff.1 failed)
  obtain ⟨inner, ⟨inside, outside, rfl⟩, derivedNode⟩ :=
    derivedStmt.exists_infix failsFirst.mem_nodes
  have ofPartial := rejects.isOfPartial derivedNode
  refine ⟨ofPartial, first, s, others, parts, failed, node, failsFirst, rejects, ?_⟩
  obtain ⟨opens, closes, operands, rfl⟩ := rejects.exists_formPieces derivedNode
  have formAt : ofSource source = (earlier ++ inside) ++
      formPieces opens failure.operator.line closes failure.operator.lexeme operands ++
        (outside ++ later) := by
    rw [pieces]
    simp
  obtain ⟨place, isBefore, isAfter, form, isHead, onLine⟩ := FormPlace.exists_of_pieces formAt
  refine ⟨place, ⟨earlier, inside, outside, later, isBefore, isAfter, before, ?_⟩, ?_,
    isHead.symm, onLine.symm, ?_, fun bounded => ?_⟩
  · rwa [form]
  · rwa [form]
  · rw [isHead, onLine]
    exact ofPartial.exists_message
  · rw [← onLine, place.toNat_line bounded]

/-- A word, and on two lines the sum of a word and a negated word. -/
def Program.wordAndNegatedWord : Program :=
  [.print (.literal (.string "a")),
    .print (.binary (.literal (.string "b")) ⟨.plus, "+", none, 2⟩
      (.unary ⟨.minus, "-", none, 3⟩ (.literal (.string "word"))))]

/-- The words could be added, but one of them cannot be negated: the minus is to blame, and it
stands behind two line feeds. -/
theorem reported_wordAndNegatedWord :
    Program.read "(print a)\n(print (+ b\n(- word)))" = .ok .wordAndNegatedWord ∧
      (Printer.print { folding := true } .wordAndNegatedWord).2.log =
        Log.reporting {} [.invalidOperand ⟨.minus, "-", none, 3⟩ (.string "word")] ∧
      (Printer.print { folding := true } .wordAndNegatedWord).2.log.messages =
        #["Invalid operand for -: String(\"word\"). Line 3"] ∧
      ∃ place : FormPlace "(print a)\n(print (+ b\n(- word)))", place.head = "-" ∧
        place.line = 3 ∧ 3 = 1 + place.prior.toList.count '\n' := by
  have accepted : Program.read "(print a)\n(print (+ b\n(- word)))" =
      .ok .wordAndNegatedWord := by
    have pieces : ofSource "(print a)\n(print (+ b\n(- word)))" =
        formPieces 1 1 1 "print" [⟨.atom "a", 1⟩] ++
          (formPieces 2 2 3 "print" (formPieces 2 2 3 "+"
            ([⟨.atom "b", 2⟩] ++ formPieces 3 3 3 "-" [⟨.atom "word", 3⟩])) ++ []) := by
      decide +kernel
    rw [programRead_eq_ok_iff, pieces]
    exact .cons (.print 1 1 1 (.literal "a" 1)) (.cons (.print 2 2 3 (.binary 2 2 3 .plus
      (.literal "b" 2) (.unary 3 3 3 .minus (.literal "word" 3)))) .nil)
  have logged : (Printer.print { folding := true } .wordAndNegatedWord).2.log =
      Log.reporting {} [.invalidOperand ⟨.minus, "-", none, 3⟩ (.string "word")] := by
    rw [Printer.print_fresh]
    rfl
  have messages : (Log.reporting {} [.invalidOperand ⟨.minus, "-", none, 3⟩
      (.string "word")]).messages = #["Invalid operand for -: String(\"word\"). Line 3"] := by
    rw [Log.messages_reporting]
    decide +kernel
  refine ⟨accepted, logged, by rw [logged, messages], ?_⟩
  obtain ⟨reported, sameLog, traced⟩ := reported_of_read accepted { folding := true } rfl
  rw [logged] at sameLog
  obtain rfl := Log.reporting_inj.1 sameLog
  obtain ⟨-, _, _, _, -, -, _, -, -, place, -, -, lexeme, line, -, toNat⟩ :=
    traced _ List.mem_cons_self
  exact ⟨place, lexeme.symm, line.symm, toNat (by decide +kernel)⟩

end LoxForms
