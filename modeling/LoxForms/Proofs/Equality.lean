import LoxForms.Proofs.Binary64.Equality
import LoxForms.Proofs.Dependence
import LoxForms.Proofs.Lines

/-! # Equality of programs

Two programs are equal if they match in every field of their tokens and in every value, where numbers
are compared as floats (`Program.beq_iff_matches`).  So equality is symmetric and transitive, and a
program differs from itself exactly if what is no number stands somewhere in it, be it in the literal
of a token, which is never written.  The two zeros are equal and have different texts, and nothing else
can make the texts of equal programs differ.
-/

namespace LoxForms

/-! ## Values and tokens -/

namespace Value

/-- The values are of one kind and the same, or they are equal numbers. -/
inductive IsEqual : Value → Value → Prop where
  | nil : IsEqual .nil .nil
  | boolean (truth : Bool) : IsEqual (.boolean truth) (.boolean truth)
  | number {x y : Float} (equal : Binary64.IsEqual x y) : IsEqual (.number x) (.number y)
  | string (text : String) : IsEqual (.string text) (.string text)

theorem beq_iff_isEqual {value other : Value} : (value == other) = true ↔ value.IsEqual other := by
  constructor
  · intro equal
    change Value.beq value other = true at equal
    unfold Value.beq at equal
    split at equal
    next => exact .nil
    next =>
      obtain rfl := eq_of_beq equal
      exact .boolean _
    next => exact .number (Binary64.beq_iff_isEqual.1 equal)
    next =>
      obtain rfl := eq_of_beq equal
      exact .string _
    next => cases equal
  · intro equal
    cases equal with
    | nil => rfl
    | boolean truth => exact beq_self_eq_true truth
    | number equal => exact Binary64.beq_iff_isEqual.2 equal
    | string text => exact beq_self_eq_true text

theorem isEqual_self_iff {value : Value} :
    value.IsEqual value ↔ ∀ x, value = .number x → x.isNaN = false := by
  cases value with
  | nil => exact iff_of_true .nil nofun
  | boolean truth => exact iff_of_true (.boolean truth) nofun
  | string text => exact iff_of_true (.string text) nofun
  | number x =>
    refine ⟨fun equal y same => ?_, fun numbers => ?_⟩
    · cases same
      cases equal with
      | number equal => exact Binary64.isEqual_self_iff.1 equal
    · exact .number (Binary64.isEqual_self_iff.2 (numbers x rfl))

theorem IsEqual.symm {value other : Value} (equal : value.IsEqual other) : other.IsEqual value := by
  cases equal with
  | nil => exact .nil
  | boolean truth => exact .boolean truth
  | number equal => exact .number equal.symm
  | string text => exact .string text

theorem IsEqual.trans {first second third : Value} (equal : first.IsEqual second)
    (further : second.IsEqual third) : first.IsEqual third := by
  cases equal with
  | nil | boolean _ | string _ => exact further
  | number equal =>
    cases further with
    | number further => exact .number (equal.trans further)

end Value

namespace Token

/-- The tokens have the same kinds, lexemes and lines, and equal literals, if any. -/
structure IsEqual (token other : Token) : Prop where
  kind : token.kind = other.kind
  lexeme : token.lexeme = other.lexeme
  literal : Option.Rel Value.IsEqual token.literal other.literal
  line : token.line = other.line

theorem beq_literal_iff {literal other : Option Value} :
    (literal == other) = true ↔ Option.Rel Value.IsEqual literal other := by
  cases literal with
  | none =>
    cases other with
    | none => exact iff_of_true rfl .none
    | some _ => exact iff_of_false Bool.false_ne_true (by rintro ⟨⟩)
  | some value =>
    cases other with
    | none => exact iff_of_false Bool.false_ne_true (by rintro ⟨⟩)
    | some otherValue =>
      refine Value.beq_iff_isEqual.trans ⟨.some, fun equal => ?_⟩
      cases equal with
      | some equal => exact equal

theorem beq_iff_isEqual {token other : Token} : (token == other) = true ↔ token.IsEqual other := by
  have fields : (token == other) = (token.kind == other.kind && (token.lexeme == other.lexeme &&
      (token.literal == other.literal && token.line == other.line))) := rfl
  rw [fields, Bool.and_eq_true, Bool.and_eq_true, Bool.and_eq_true, beq_literal_iff, beq_iff_eq,
    beq_iff_eq, beq_iff_eq]
  exact ⟨fun ⟨kind, lexeme, literal, line⟩ => ⟨kind, lexeme, literal, line⟩,
    fun ⟨kind, lexeme, literal, line⟩ => ⟨kind, lexeme, literal, line⟩⟩

theorem isEqual_self_iff {token : Token} :
    token.IsEqual token ↔ ∀ x, token.literal = some (.number x) → x.isNaN = false := by
  have ofLiteral : token.IsEqual token ↔
      ∀ value, token.literal = some value → value.IsEqual value := by
    refine ⟨fun equal value isLiteral => ?_, fun equal => ⟨rfl, rfl, ?_, rfl⟩⟩
    · have literals := equal.literal
      rw [isLiteral] at literals
      cases literals with
      | some equal => exact equal
    · cases isLiteral : token.literal with
      | none => exact .none
      | some value => exact .some (equal value isLiteral)
  simp only [ofLiteral, Value.isEqual_self_iff]
  exact ⟨fun numbers x isLiteral => numbers _ isLiteral x rfl,
    fun numbers value isLiteral x isNumber => numbers x (isNumber ▸ isLiteral)⟩

theorem IsEqual.symm {token other : Token} (equal : token.IsEqual other) : other.IsEqual token where
  kind := equal.kind.symm
  lexeme := equal.lexeme.symm
  literal := by
    have literals := equal.literal
    generalize token.literal = literal, other.literal = otherLiteral at literals
    cases literals with
    | none => exact .none
    | some equal => exact .some equal.symm
  line := equal.line.symm

theorem IsEqual.trans {first second third : Token} (equal : first.IsEqual second)
    (further : second.IsEqual third) : first.IsEqual third where
  kind := equal.kind.trans further.kind
  lexeme := equal.lexeme.trans further.lexeme
  literal := by
    have literals := equal.literal
    have others := further.literal
    generalize first.literal = one, second.literal = two, third.literal = three at literals others
    cases literals with
    | none => exact others
    | some equal =>
      cases others with
      | some further => exact .some (equal.trans further)
  line := equal.line.trans further.line

end Token

/-! ## Trees -/

/-- Everything that a tree holds is compared. -/
def Likeness.equality : Likeness := .uniform Token.IsEqual Value.IsEqual

theorem Expr.beq_iff_matches {e other : Expr} :
    (e == other) = true ↔ e.Matches .equality other := by
  induction e generalizing other with
  | assign name value ih =>
    cases other with
    | assign otherName otherValue =>
      change (name == otherName && value == otherValue) = true ↔ _
      rw [Bool.and_eq_true, Token.beq_iff_isEqual, ih, assign_matches_assign_iff]
      rfl
    | _ => exact iff_of_false Bool.false_ne_true (by rintro ⟨⟩)
  | binary left operator right leftHypothesis rightHypothesis =>
    cases other with
    | binary otherLeft otherOperator otherRight =>
      change (left == otherLeft && (operator == otherOperator && right == otherRight)) = true ↔ _
      rw [Bool.and_eq_true, Bool.and_eq_true, Token.beq_iff_isEqual, leftHypothesis,
        rightHypothesis, binary_matches_binary_iff]
      rfl
    | _ => exact iff_of_false Bool.false_ne_true (by rintro ⟨⟩)
  | grouping inner ih =>
    cases other with
    | grouping otherInner =>
      change (inner == otherInner) = true ↔ _
      rw [ih, grouping_matches_grouping_iff]
    | _ => exact iff_of_false Bool.false_ne_true (by rintro ⟨⟩)
  | literal value =>
    cases other with
    | literal otherValue =>
      change (value == otherValue) = true ↔ _
      rw [Value.beq_iff_isEqual, literal_matches_literal_iff]
      rfl
    | _ => exact iff_of_false Bool.false_ne_true (by rintro ⟨⟩)
  | unary operator operand ih =>
    cases other with
    | unary otherOperator otherOperand =>
      change (operator == otherOperator && operand == otherOperand) = true ↔ _
      rw [Bool.and_eq_true, Token.beq_iff_isEqual, ih, unary_matches_unary_iff]
      rfl
    | _ => exact iff_of_false Bool.false_ne_true (by rintro ⟨⟩)
  | reference name =>
    cases other with
    | reference otherName =>
      change (name == otherName) = true ↔ _
      rw [Token.beq_iff_isEqual, reference_matches_reference_iff]
      rfl
    | _ => exact iff_of_false Bool.false_ne_true (by rintro ⟨⟩)

theorem Stmt.beq_iff_matches {s other : Stmt} :
    (s == other) = true ↔ s.Matches .equality other := by
  cases s with
  | expression e =>
    cases other with
    | expression otherExpr =>
      change (e == otherExpr) = true ↔ _
      rw [Expr.beq_iff_matches, expression_matches_expression_iff]
    | _ => exact iff_of_false Bool.false_ne_true (by rintro ⟨⟩)
  | print e =>
    cases other with
    | print otherExpr =>
      change (e == otherExpr) = true ↔ _
      rw [Expr.beq_iff_matches, print_matches_print_iff]
    | _ => exact iff_of_false Bool.false_ne_true (by rintro ⟨⟩)
  | declaration name e =>
    cases other with
    | declaration otherName otherExpr =>
      change (name == otherName && e == otherExpr) = true ↔ _
      rw [Bool.and_eq_true, Token.beq_iff_isEqual, Expr.beq_iff_matches,
        declaration_matches_declaration_iff]
      rfl
    | _ => exact iff_of_false Bool.false_ne_true (by rintro ⟨⟩)

namespace Program

theorem beq_iff_matches {program other : Program} :
    (program == other) = true ↔ program.Matches .equality other := by
  induction program generalizing other with
  | nil =>
    cases other with
    | nil => exact iff_of_true rfl .nil
    | cons _ _ => exact iff_of_false Bool.false_ne_true (by rintro ⟨⟩)
  | cons s others ih =>
    cases other with
    | nil => exact iff_of_false Bool.false_ne_true (by rintro ⟨⟩)
    | cons otherStmt rest =>
      change (s == otherStmt && others == rest) = true ↔ _
      rw [Bool.and_eq_true, Stmt.beq_iff_matches, ih, Matches, List.forall₂_cons]

theorem Matches.equality_symm {program other : Program}
    (matching : program.Matches .equality other) : other.Matches .equality program :=
  Matches.symm (fun _ _ equal => equal.symm) (fun _ _ equal => equal.symm) matching

theorem Matches.equality_trans {first second third : Program}
    (matching : first.Matches .equality second) (further : second.Matches .equality third) :
    first.Matches .equality third :=
  Matches.trans (fun _ _ _ equal further => equal.trans further)
    (fun _ _ _ equal further => equal.trans further) matching further

end Program

/-! ## Programs that differ from themselves -/

/-- What is no number stands in a literal among the nodes or in the literal of one of the tokens. -/
def HoldsNaN (nodes : List Expr) (tokens : List Token) : Prop :=
  ∃ x : Float, x.isNaN = true ∧
    (.literal (.number x) ∈ nodes ∨ ∃ token ∈ tokens, token.literal = some (.number x))

def Expr.HasNaN (e : Expr) : Prop := HoldsNaN e.nodes e.tokens

def Stmt.HasNaN (s : Stmt) : Prop := HoldsNaN s.body.nodes s.tokens

def Program.HasNaN (program : Program) : Prop := ∃ s ∈ program, s.HasNaN

theorem not_holdsNaN_iff {nodes : List Expr} {tokens : List Token} :
    ¬ HoldsNaN nodes tokens ↔
      (∀ token ∈ tokens, token.IsEqual token) ∧
        ∀ value, .literal value ∈ nodes → value.IsEqual value := by
  simp only [Token.isEqual_self_iff, Value.isEqual_self_iff]
  constructor
  · intro numbers
    refine ⟨fun token member x isLiteral => ?_, fun value inLiteral x isNumber => ?_⟩
    · by_contra notNumber
      exact numbers ⟨x, by simpa using notNumber, .inr ⟨token, member, isLiteral⟩⟩
    · by_contra notNumber
      exact numbers ⟨x, by simpa using notNumber, .inl (isNumber ▸ inLiteral)⟩
  · rintro ⟨ofTokens, ofValues⟩ ⟨x, notNumber, inLiteral | ⟨token, member, isLiteral⟩⟩
    · rw [ofValues _ inLiteral x rfl] at notNumber
      cases notNumber
    · rw [ofTokens token member x isLiteral] at notNumber
      cases notNumber

/-- A tree is like itself if all its tokens and values are. -/
theorem Expr.matches_self_iff {tokens : Token → Token → Prop} {values : Value → Value → Prop}
    {e : Expr} :
    e.Matches (.uniform tokens values) e ↔
      (∀ token ∈ e.tokens, tokens token token) ∧
        ∀ value, .literal value ∈ e.nodes → values value value := by
  induction e with
  | assign name value ih => simp [ih, Expr.tokens, nodes, and_assoc]
  | binary left operator right leftHypothesis rightHypothesis =>
    simp only [binary_matches_binary_iff, leftHypothesis, rightHypothesis, Likeness.uniform_operator,
      Expr.tokens, nodes, List.mem_cons, List.mem_append, reduceCtorEq, false_or, or_imp, forall_and,
      forall_eq]
    tauto
  | grouping inner ih => simp [ih, Expr.tokens, nodes]
  | literal value => simp [Expr.tokens, nodes]
  | unary operator operand ih => simp [ih, Expr.tokens, nodes, and_assoc]
  | reference name => simp [Expr.tokens, nodes]

theorem Stmt.matches_self_iff {tokens : Token → Token → Prop} {values : Value → Value → Prop}
    {s : Stmt} :
    s.Matches (.uniform tokens values) s ↔
      (∀ token ∈ s.tokens, tokens token token) ∧
        ∀ value, .literal value ∈ s.body.nodes → values value value := by
  cases s with
  | expression e => exact expression_matches_expression_iff.trans Expr.matches_self_iff
  | print e => exact print_matches_print_iff.trans Expr.matches_self_iff
  | declaration name e =>
    rw [declaration_matches_declaration_iff, Expr.matches_self_iff, Stmt.tokens,
      List.forall_mem_cons, and_assoc]
    rfl

theorem Program.beq_self_iff {program : Program} :
    (program == program) = true ↔ ¬ program.HasNaN := by
  have ofStatement (s : Stmt) : s.Matches .equality s ↔ ¬ s.HasNaN :=
    Stmt.matches_self_iff.trans not_holdsNaN_iff.symm
  rw [beq_iff_matches, Matches, List.forall₂_same, HasNaN]
  simp [ofStatement]

/-! ## Texts of equal programs -/

/-- Zero in the place of negative zero. -/
def Value.unsignedZero : Value → Value
  | .number x => .number (Binary64.unsignedZero x)
  | value => value

/-- The program with zero in the place of negative zero in its literals. -/
def Program.unsignedZeros (program : Program) : Program :=
  program.map (Stmt.map id Value.unsignedZero)

theorem Value.IsEqual.unsignedZero_eq {value other : Value} (equal : value.IsEqual other) :
    value.unsignedZero = other.unsignedZero := by
  cases equal with
  | nil | boolean _ | string _ => rfl
  | number equal => exact congrArg Value.number equal.unsignedZero_eq

theorem Expr.Matches.unsignedZeros {e other : Expr} (matching : e.Matches .equality other) :
    (e.map id Value.unsignedZero).Matches .written (other.map id Value.unsignedZero) := by
  induction matching with
  | assign names _ ih => exact .assign names.lexeme ih
  | binary _ operators _ leftHypothesis rightHypothesis =>
    exact .binary leftHypothesis operators.lexeme rightHypothesis
  | grouping _ ih => exact .grouping ih
  | literal values => exact .literal values.unsignedZero_eq
  | unary operators _ ih => exact .unary operators.lexeme ih
  | reference _ => exact .reference trivial

theorem Stmt.Matches.unsignedZeros {s other : Stmt} (matching : s.Matches .equality other) :
    (s.map id Value.unsignedZero).Matches .written (other.map id Value.unsignedZero) := by
  cases matching with
  | expression bodies => exact .expression bodies.unsignedZeros
  | print bodies => exact .print bodies.unsignedZeros
  | declaration names bodies => exact .declaration names.lexeme bodies.unsignedZeros

theorem Program.Matches.unsignedZeros {program other : Program}
    (matching : program.Matches .equality other) :
    program.unsignedZeros.Matches .written other.unsignedZeros := by
  rw [Matches, Program.unsignedZeros, Program.unsignedZeros, List.forall₂_map_left_iff,
    List.forall₂_map_right_iff]
  exact List.Forall₂.imp (fun _ _ statements => statements.unsignedZeros) matching

/-- Without folding, programs that have the same texts are printed by runs with one outcome. -/
theorem Program.Matches.print_eq {program other : Program}
    (matching : program.Matches .written other) (sink : Sink) (log : Log) :
    Printer.print { sink := sink, log := log } program =
      Printer.print { sink := sink, log := log } other := by
  obtain ⟨result, after, count, printed, otherPrinted, -⟩ :=
    matching.printedAlike Likeness.sharesShown_written sink log log
  rw [← failures_eq_map_failuresAt, failures_plain] at printed otherPrinted
  rw [printed, otherPrinted]

/-- Programs are equal if they have the same shape, the same kinds, lexemes and lines of tokens,
literals at the same tokens, and equal values, where numbers are equal as floats are.  Equality is
symmetric and transitive.  A program is equal to itself unless what is no number stands in a literal of
the program or of one of its tokens.  Equal programs are printed alike, into any sink, once zero stands
for the negative zeros in their literals. -/
theorem equality_of_programs :
    (∀ program other : Program, (program == other) = true ↔ program.Matches .equality other) ∧
    (∀ program other : Program, (program == other) = (other == program)) ∧
    (∀ first second third : Program, (first == second) = true → (second == third) = true →
      (first == third) = true) ∧
    (∀ program : Program, (program == program) = true ↔ ¬ program.HasNaN) ∧
    ∀ program other : Program, (program == other) = true → ∀ (sink : Sink) (log : Log),
      Printer.print { sink := sink, log := log } program.unsignedZeros =
        Printer.print { sink := sink, log := log } other.unsignedZeros := by
  refine ⟨fun program other => Program.beq_iff_matches, fun program other => ?_,
    fun first second third equal further => ?_, fun program => Program.beq_self_iff,
    fun program other equal sink log => ?_⟩
  · rw [Bool.eq_iff_iff, Program.beq_iff_matches, Program.beq_iff_matches]
    exact ⟨Program.Matches.equality_symm, Program.Matches.equality_symm⟩
  · rw [Program.beq_iff_matches] at equal further ⊢
    exact equal.equality_trans further
  · exact (Program.beq_iff_matches.1 equal).unsignedZeros.print_eq sink log

def Stmt.printZero (negative : Bool) : Stmt :=
  .print (.literal (.number (Binary64.ofRank negative 0)))

/-- A reference whose token holds what is no number. -/
def Stmt.printMarked : Stmt :=
  let notNumber := Binary64.ofRank false (Binary64.infinityRank + 1)
  .print (.reference ⟨.identifier, "x", some (.number notNumber), 1⟩)

/-- The two zeros are equal, and they are written in two ways until both have no sign.  A statement is
not equal to itself for the sake of a literal that is not written. -/
theorem equality_of_zeros :
    ([Stmt.printZero true] == [Stmt.printZero false]) = true ∧
    ([Stmt.printZero false] == [Stmt.printZero true]) = true ∧
    ([Stmt.printZero true] == [Stmt.printZero true]) = true ∧
    Program.text [Stmt.printZero true] = "(print -0)\n" ∧
    Program.text [Stmt.printZero false] = "(print 0)\n" ∧
    Printer.print {} (Program.unsignedZeros [Stmt.printZero true]) =
      Printer.print {} (Program.unsignedZeros [Stmt.printZero false]) ∧
    ([Stmt.printMarked] == [Stmt.printMarked]) = false := by
  obtain ⟨sameAsMatches, symmetric, transitive, reflexive, printedAlike⟩ := equality_of_programs
  have zeros : ([Stmt.printZero true] == [Stmt.printZero false]) = true := by
    refine (sameAsMatches _ _).2 (.cons (.print (.literal (.number ⟨?_, .inr ⟨?_, ?_⟩⟩))) .nil)
    · exact Binary64.isNaN_ofRank (Nat.zero_le _)
    · exact Binary64.rank_ofRank (Nat.zero_le _)
    · exact Binary64.rank_ofRank (Nat.zero_le _)
  have turned : ([Stmt.printZero false] == [Stmt.printZero true]) = true :=
    (symmetric _ _).symm.trans zeros
  refine ⟨zeros, turned, transitive _ _ _ zeros turned, by decide +kernel, by decide +kernel,
    printedAlike _ _ zeros {} {}, Bool.eq_false_iff.2 fun equal => (reflexive _).1 equal ?_⟩
  exact ⟨_, List.mem_singleton.2 rfl, _, by decide +kernel, .inr ⟨_, List.mem_singleton.2 rfl, rfl⟩⟩

end LoxForms
