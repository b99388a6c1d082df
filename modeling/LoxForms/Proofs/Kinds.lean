import Mathlib.Data.List.Forall2
import LoxForms.Proofs.Blockers
import LoxForms.Proofs.Printing

/-! # Kinds decide, values do not

Whether an operation takes its operands depends on their kinds alone, and so does the kind of its
result (`map_kind_unary?`, `map_kind_binary?`).  Two trees whose literals have the same kinds one by
one are therefore folded in step: both have values of one kind, or both vary, or both fail at the same
node for the same reason.  Of two such programs the same statements are reported.
-/

namespace LoxForms

/-! ## Kinds -/

inductive ValueKind where
  | nil | boolean | number | string
deriving DecidableEq, Repr

def Value.kind : Value → ValueKind
  | .nil => .nil
  | .boolean _ => .boolean
  | .number _ => .number
  | .string _ => .string

/-- The values are of one kind. -/
def Value.SameKind (first second : Value) : Prop := first.kind = second.kind

namespace Operation

/-- The kind of the result on a value of the kind, if the operation takes it. -/
def unaryKind? : TokenKind → ValueKind → Option ValueKind
  | .minus, .number => some .number
  | .bang, _ => some .boolean
  | _, _ => none

/-- The kind of the result on values of the kinds, if the operation takes them. -/
def binaryKind? : TokenKind → ValueKind → ValueKind → Option ValueKind
  | .equalEqual, _, _ | .bangEqual, _, _ => some .boolean
  | .greater, .number, .number | .greaterEqual, .number, .number => some .boolean
  | .less, .number, .number | .lessEqual, .number, .number => some .boolean
  | .minus, .number, .number | .slash, .number, .number => some .number
  | .star, .number, .number | .plus, .number, .number => some .number
  | .plus, .string, .string => some .string
  | _, _, _ => none

theorem map_kind_unary? (kind : TokenKind) (value : Value) :
    (unary? kind value).map Value.kind = unaryKind? kind value.kind := by
  cases kind <;> cases value <;> rfl

theorem map_kind_binary? (kind : TokenKind) (left right : Value) :
    (binary? kind left right).map Value.kind = binaryKind? kind left.kind right.kind := by
  cases kind <;> cases left <;> cases right <;> rfl

/-- On related values an operation has related results, or none on either side. -/
structure Respects (values : Value → Value → Prop) : Prop where
  unary (kind : TokenKind) {value other : Value} (related : values value other) :
    Option.Rel values (unary? kind value) (unary? kind other)
  binary (kind : TokenKind) {left otherLeft right otherRight : Value}
    (lefts : values left otherLeft) (rights : values right otherRight) :
    Option.Rel values (binary? kind left right) (binary? kind otherLeft otherRight)

theorem rel_sameKind_of_map_eq {first second : Option Value}
    (same : first.map Value.kind = second.map Value.kind) :
    Option.Rel Value.SameKind first second := by
  cases first with
  | none => cases second with
    | none => exact .none
    | some _ => cases same
  | some _ => cases second with
    | none => cases same
    | some _ => exact .some (Option.some.inj same)

theorem respects_sameKind : Respects Value.SameKind where
  unary kind value other same := by
    apply rel_sameKind_of_map_eq
    rw [map_kind_unary?, map_kind_unary?, show value.kind = other.kind from same]
  binary kind left otherLeft right otherRight lefts rights := by
    apply rel_sameKind_of_map_eq
    rw [map_kind_binary?, map_kind_binary?, show left.kind = otherLeft.kind from lefts,
      show right.kind = otherRight.kind from rights]

end Operation

/-! ## Lists in step -/

section

variable {α β γ δ : Type} {related : α → β → Prop} {xs : List α} {ys : List β}

theorem forall_mem_iff_of_forall₂ {p : α → Prop} {q : β → Prop} (alike : List.Forall₂ related xs ys)
    (same : ∀ x y, related x y → (p x ↔ q y)) : (∀ x ∈ xs, p x) ↔ ∀ y ∈ ys, q y := by
  induction alike with
  | nil => simp
  | cons first _ ih => simp only [List.forall_mem_cons, same _ _ first, ih]

theorem exists_getElem?_of_forall₂ (alike : List.Forall₂ related xs ys) {index : Nat} {x : α}
    (found : xs[index]? = some x) : ∃ y, ys[index]? = some y ∧ related x y := by
  obtain ⟨inRange, rfl⟩ := List.getElem?_eq_some_iff.1 found
  have otherInRange : index < ys.length := alike.length_eq ▸ inRange
  exact ⟨ys[index], List.getElem?_eq_getElem otherInRange, alike.get inRange otherInRange⟩

theorem rel_findSome? {results : γ → δ → Prop} {f : α → Option γ} {g : β → Option δ}
    (alike : List.Forall₂ related xs ys)
    (found : ∀ x y, related x y → Option.Rel results (f x) (g y)) :
    Option.Rel results (xs.findSome? f) (ys.findSome? g) := by
  induction alike with
  | nil => exact .none
  | @cons x y _ _ first _ ih =>
    have here := found x y first
    rw [List.findSome?_cons, List.findSome?_cons]
    generalize f x = result, g y = another at here
    cases here with
    | none => exact ih
    | some results => exact .some results

theorem forall₂_zipIdx (alike : List.Forall₂ related xs ys) (start : Nat) :
    List.Forall₂ (fun found another => related found.1 another.1 ∧ found.2 = another.2)
      (xs.zipIdx start) (ys.zipIdx start) := by
  induction alike generalizing start with
  | nil => exact .nil
  | cons first _ ih => exact .cons ⟨first, rfl⟩ (ih (start + 1))

end

/-! ## Trees with related values -/

/-- The expressions differ in the values of their literals only, and these are related one by one. -/
inductive Expr.Related (values : Value → Value → Prop) : Expr → Expr → Prop where
  | assign (name : Token) {value other : Expr} (related : Related values value other) :
      Related values (.assign name value) (.assign name other)
  | binary {left otherLeft right otherRight : Expr} (lefts : Related values left otherLeft)
      (operator : Token) (rights : Related values right otherRight) :
      Related values (.binary left operator right) (.binary otherLeft operator otherRight)
  | grouping {inner other : Expr} (related : Related values inner other) :
      Related values (.grouping inner) (.grouping other)
  | literal {value other : Value} (related : values value other) :
      Related values (.literal value) (.literal other)
  | unary (operator : Token) {operand other : Expr} (related : Related values operand other) :
      Related values (.unary operator operand) (.unary operator other)
  | reference (name : Token) : Related values (.reference name) (.reference name)

/-- The statements differ in the values of their literals only, and these are related one by one. -/
inductive Stmt.Related (values : Value → Value → Prop) : Stmt → Stmt → Prop where
  | expression {e other : Expr} (related : e.Related values other) :
      Related values (.expression e) (.expression other)
  | print {e other : Expr} (related : e.Related values other) :
      Related values (.print e) (.print other)
  | declaration (name : Token) {e other : Expr} (related : e.Related values other) :
      Related values (.declaration name e) (.declaration name other)

/-- The failures are of one variant, with the same operator, and their values are related. -/
inductive FoldError.Related (values : Value → Value → Prop) : FoldError → FoldError → Prop where
  | invalidOperator (operator : Token) :
      Related values (.invalidOperator operator) (.invalidOperator operator)
  | invalidOperand (operator : Token) {value other : Value} (related : values value other) :
      Related values (.invalidOperand operator value) (.invalidOperand operator other)
  | invalidOperands (operator : Token) {left otherLeft right otherRight : Value}
      (lefts : values left otherLeft) (rights : values right otherRight) :
      Related values (.invalidOperands operator left right)
        (.invalidOperands operator otherLeft otherRight)

/-- Both outcomes are related values, or there is no value in either, or both are related failures. -/
inductive FoldsAlike (values : Value → Value → Prop) :
    Except FoldError (Option Value) → Except FoldError (Option Value) → Prop where
  | value {value other : Value} (related : values value other) :
      FoldsAlike values (.ok (some value)) (.ok (some other))
  | varies : FoldsAlike values (.ok none) (.ok none)
  | failure {failure other : FoldError} (related : failure.Related values other) :
      FoldsAlike values (.error failure) (.error other)

section

variable {values : Value → Value → Prop}

theorem FoldsAlike.exists_value_iff {first second : Except FoldError (Option Value)}
    (alike : FoldsAlike values first second) :
    (∃ value, first = .ok (some value)) ↔ ∃ value, second = .ok (some value) := by
  cases alike <;> simp

theorem FoldsAlike.exists_failure_iff {first second : Except FoldError (Option Value)}
    (alike : FoldsAlike values first second) :
    (∃ failure, first = .error failure) ↔ ∃ failure, second = .error failure := by
  cases alike <;> simp

theorem FoldsAlike.exists_failure {first second : Except FoldError (Option Value)}
    (alike : FoldsAlike values first second) {failure : FoldError} (failed : first = .error failure) :
    ∃ another, second = .error another ∧ failure.Related values another := by
  cases alike with
  | value _ | varies => cases failed
  | failure related =>
    cases failed
    exact ⟨_, rfl, related⟩

theorem FoldsAlike.failure? {first second : Except FoldError (Option Value)}
    (alike : FoldsAlike values first second) :
    Option.Rel (FoldError.Related values) (FoldError.of? first) (FoldError.of? second) := by
  cases alike with
  | value _ | varies => exact .none
  | failure related => exact .some related

namespace Token

theorem applyUnary_alike (respects : Operation.Respects values) (operator : Token)
    {value other : Value} (related : values value other) :
    FoldsAlike values ((operator.applyUnary value).map some)
      ((operator.applyUnary other).map some) := by
  have results := respects.unary operator.kind related
  unfold applyUnary
  generalize Operation.unary? operator.kind value = result,
    Operation.unary? operator.kind other = another at results
  cases results with
  | some results => exact .value results
  | none =>
    dsimp only
    split
    · exact .failure (.invalidOperand operator related)
    · exact .failure (.invalidOperator operator)

theorem applyBinary_alike (respects : Operation.Respects values) (operator : Token)
    {left otherLeft right otherRight : Value} (lefts : values left otherLeft)
    (rights : values right otherRight) :
    FoldsAlike values ((operator.applyBinary left right).map some)
      ((operator.applyBinary otherLeft otherRight).map some) := by
  have results := respects.binary operator.kind lefts rights
  unfold applyBinary
  generalize Operation.binary? operator.kind left right = result,
    Operation.binary? operator.kind otherLeft otherRight = another at results
  cases results with
  | some results => exact .value results
  | none =>
    dsimp only
    split
    · exact .failure (.invalidOperands operator lefts rights)
    · exact .failure (.invalidOperator operator)

end Token

namespace Expr

namespace Related

variable {e other : Expr}

theorem foldsAlike (respects : Operation.Respects values) (related : e.Related values other) :
    FoldsAlike values e.fold other.fold := by
  induction related with
  | assign name _ _ => exact .varies
  | reference name => exact .varies
  | literal related => exact .value related
  | grouping _ ih => exact ih
  | @unary operator operand another _ ih =>
    rw [fold_unary, fold_unary]
    generalize operand.fold = first, another.fold = second at ih
    cases ih with
    | value related => exact operator.applyUnary_alike respects related
    | varies => exact .varies
    | failure related => exact .failure related
  | @binary left otherLeft right otherRight _ operator _ leftHypothesis rightHypothesis =>
    rw [fold_binary, fold_binary]
    generalize left.fold = first, otherLeft.fold = second at leftHypothesis
    generalize right.fold = third, otherRight.fold = fourth at rightHypothesis
    cases leftHypothesis with
    | varies => exact .varies
    | failure related => exact .failure related
    | value lefts =>
      cases rightHypothesis with
      | value rights => exact operator.applyBinary_alike respects lefts rights
      | varies => exact .varies
      | failure related => exact .failure related

/-! ## Nodes in the same places -/

theorem children (related : e.Related values other) :
    List.Forall₂ (Related values) e.children other.children := by
  cases related with
  | assign _ related | grouping related | unary _ related => exact .cons related .nil
  | binary lefts _ rights => exact .cons lefts (.cons rights .nil)
  | literal _ | reference _ => exact .nil

theorem postorder (related : e.Related values other) :
    List.Forall₂ (Related values) e.postorder other.postorder := by
  induction related with
  | assign name related ih => exact List.rel_append ih (.cons (.assign name related) .nil)
  | binary lefts operator rights leftHypothesis rightHypothesis =>
    exact List.rel_append (List.rel_append leftHypothesis rightHypothesis)
      (.cons (.binary lefts operator rights) .nil)
  | grouping related ih => exact List.rel_append ih (.cons (.grouping related) .nil)
  | literal related => exact .cons (.literal related) .nil
  | unary operator related ih => exact List.rel_append ih (.cons (.unary operator related) .nil)
  | reference name => exact .cons (.reference name) .nil

theorem evaluated (related : e.Related values other) :
    List.Forall₂ (Related values) e.evaluated other.evaluated := by
  induction related with
  | assign name related _ => exact .cons (.assign name related) .nil
  | binary lefts operator rights leftHypothesis rightHypothesis =>
    exact List.rel_append (List.rel_append leftHypothesis rightHypothesis)
      (.cons (.binary lefts operator rights) .nil)
  | grouping related ih => exact List.rel_append ih (.cons (.grouping related) .nil)
  | literal related => exact .cons (.literal related) .nil
  | unary operator related ih => exact List.rel_append ih (.cons (.unary operator related) .nil)
  | reference name => exact .cons (.reference name) .nil

end Related

/-! ## The node that fails -/

/-- Folding fails at the node that comes at the index in the order of evaluation. -/
def RaisesAt (e : Expr) (index : Nat) (failure : FoldError) : Prop :=
  ∃ node, e.evaluated[index]? = some node ∧ node.Rejects failure ∧
    ∀ earlier ∈ e.evaluated.take index, ¬ earlier.IsBlocker

theorem fold_eq_error_iff_raisesAt {e : Expr} {failure : FoldError} :
    e.fold = .error failure ↔ ∃ index, e.RaisesAt index failure := by
  rw [fold_eq_error_iff_blocksFirst]
  constructor
  · rintro ⟨node, ⟨before, after, parts, none, _⟩, rejects⟩
    exact ⟨before.length, node, by simp [parts], rejects, by simpa [parts] using none⟩
  · rintro ⟨index, node, found, rejects, none⟩
    obtain ⟨inRange, rfl⟩ := List.getElem?_eq_some_iff.1 found
    refine ⟨_, ⟨e.evaluated.take index, e.evaluated.drop (index + 1), ?_, none, ?_⟩, rejects⟩
    · rw [← List.drop_eq_getElem_cons inRange, List.take_append_drop]
    · exact .inr ⟨failure, rejects⟩

namespace Related

variable {e other : Expr}

theorem isBinding_iff (related : e.Related values other) : e.IsBinding ↔ other.IsBinding := by
  cases related with
  | assign name _ => exact iff_of_true (.assign name _) (.assign name _)
  | reference name => exact iff_of_true (.reference name) (.reference name)
  | binary _ _ _ | grouping _ | literal _ | unary _ _ => exact iff_of_false nofun nofun

theorem operands_constant_iff (respects : Operation.Respects values)
    (related : e.Related values other) :
    (∀ child ∈ e.children, ∃ value, child.fold = .ok (some value)) ↔
      ∀ child ∈ other.children, ∃ value, child.fold = .ok (some value) :=
  forall_mem_iff_of_forall₂ related.children fun _ _ childRelated =>
    (childRelated.foldsAlike respects).exists_value_iff

theorem exists_rejects (respects : Operation.Respects values) (related : e.Related values other)
    {failure : FoldError} (rejects : e.Rejects failure) :
    ∃ another, other.Rejects another ∧ failure.Related values another := by
  obtain ⟨failed, operands⟩ := rejects_iff.1 rejects
  obtain ⟨another, otherFailed, failures⟩ := (related.foldsAlike respects).exists_failure failed
  exact ⟨another, rejects_iff.2 ⟨otherFailed, (related.operands_constant_iff respects).1 operands⟩,
    failures⟩

theorem isBlocker_iff (respects : Operation.Respects values) (related : e.Related values other) :
    e.IsBlocker ↔ other.IsBlocker := by
  have rejections : (∃ failure, e.Rejects failure) ↔ ∃ failure, other.Rejects failure := by
    simp only [rejects_iff, exists_and_right]
    exact and_congr (related.foldsAlike respects).exists_failure_iff
      (related.operands_constant_iff respects)
  exact or_congr related.isBinding_iff rejections

/-- The failure of the one is raised at the node of the other that is in the same place. -/
theorem exists_raisesAt (respects : Operation.Respects values) (related : e.Related values other)
    {index : Nat} {failure : FoldError} (raises : e.RaisesAt index failure) :
    ∃ another, other.RaisesAt index another ∧ failure.Related values another := by
  obtain ⟨node, found, rejects, none⟩ := raises
  obtain ⟨otherNode, otherFound, nodes⟩ := exists_getElem?_of_forall₂ related.evaluated found
  obtain ⟨another, otherRejects, failures⟩ := nodes.exists_rejects respects rejects
  refine ⟨another, ⟨otherNode, otherFound, otherRejects, ?_⟩, failures⟩
  exact (forall_mem_iff_of_forall₂ (List.forall₂_take index related.evaluated)
    fun _ _ earlier => not_congr (earlier.isBlocker_iff respects)).1 none

/-! ## What is reported -/

theorem reported (respects : Operation.Respects values) (related : e.Related values other) :
    Option.Rel (FoldError.Related values) (FoldError.of? e.foldedText)
      (FoldError.of? other.foldedText) := by
  rw [of?_foldedText_eq_findSome?, of?_foldedText_eq_findSome?]
  exact rel_findSome? related.postorder fun _ _ nodes => (nodes.foldsAlike respects).failure?

end Related

end Expr

theorem Stmt.Related.reported (respects : Operation.Respects values) {s other : Stmt}
    (related : s.Related values other) :
    Option.Rel (FoldError.Related values) (FoldError.of? (s.render true))
      (FoldError.of? (other.render true)) := by
  have bodies : s.body.Related values other.body := by
    cases related with
    | expression related | print related | declaration _ related => exact related
  have failures := bodies.reported respects
  rwa [← of?_foldedText, ← of?_foldedText] at failures

/-- The failures of the statements that cannot be rendered, each with the position of its
statement. -/
def Program.failuresAt (folding : Bool) (program : Program) : List (Nat × FoldError) :=
  program.zipIdx.filterMap fun found =>
    (FoldError.of? (found.1.render folding)).map (found.2, ·)

theorem Program.failures_eq_map_failuresAt (folding : Bool) (program : Program) :
    program.failures folding = (program.failuresAt folding).map Prod.snd := by
  have statements : (program.zipIdx).map Prod.fst = program := List.zipIdx_map_fst 0 program
  rw [failuresAt, List.map_filterMap, failures]
  conv_lhs => rw [← statements, List.filterMap_map]
  simp [Function.comp_def]

/-- Where the statements of two programs fail together, they do so in the same positions. -/
theorem Program.forall₂_failuresAt {failures : FoldError → FoldError → Prop} {folding : Bool}
    {program other : Program}
    (alike : List.Forall₂ (fun s another => Option.Rel failures (FoldError.of? (s.render folding))
      (FoldError.of? (another.render folding))) program other) :
    List.Forall₂ (fun report another => report.1 = another.1 ∧ failures report.2 another.2)
      (program.failuresAt folding) (other.failuresAt folding) := by
  refine List.rel_filterMap (fun found another same => ?_) (forall₂_zipIdx alike 0)
  obtain ⟨outcomes, positions⟩ := same
  generalize FoldError.of? (found.1.render folding) = first,
    FoldError.of? (another.1.render folding) = second at outcomes
  cases outcomes with
  | none => exact .none
  | some failures => exact .some ⟨positions, failures⟩

/-- The failures are related one by one, and they are those of the same statements. -/
theorem Program.failuresAt_related (respects : Operation.Respects values) {program other : Program}
    (related : List.Forall₂ (Stmt.Related values) program other) :
    (program.failuresAt true).map Prod.fst = (other.failuresAt true).map Prod.fst ∧
      List.Forall₂ (FoldError.Related values) ((program.failuresAt true).map Prod.snd)
        ((other.failuresAt true).map Prod.snd) := by
  have reports := forall₂_failuresAt
    (related.imp fun _ _ statements => statements.reported respects)
  refine ⟨?_, ?_⟩
  · rw [← List.forall₂_eq_eq_eq]
    exact List.rel_map (fun _ _ same => same.1) reports
  · exact List.rel_map (fun _ _ same => same.2) reports

end

/-- No value makes an expression fail or keeps it from failing, only kinds do.  Two expressions that
differ in the values of their literals, but not in the kinds of these, both fold to values of one
kind, or neither has a value, or both fail, at the same node, for the same reason, with values of the
same kinds.  So of two programs that differ in no other way a folding printer reports the same
statements for the same reasons. -/
theorem fold_settled_by_kinds :
    (∀ e other : Expr, e.Related Value.SameKind other →
      (∃ value another, e.fold = .ok (some value) ∧ other.fold = .ok (some another) ∧
        value.SameKind another) ∨
      (e.fold = .ok none ∧ other.fold = .ok none) ∨
      ∃ failure another index, e.fold = .error failure ∧ other.fold = .error another ∧
        e.RaisesAt index failure ∧ other.RaisesAt index another ∧
        failure.Related Value.SameKind another) ∧
    ∀ program other : Program, List.Forall₂ (Stmt.Related Value.SameKind) program other →
      (program.failuresAt true).map Prod.fst = (other.failuresAt true).map Prod.fst ∧
      List.Forall₂ (FoldError.Related Value.SameKind) ((program.failuresAt true).map Prod.snd)
        ((other.failuresAt true).map Prod.snd) ∧
      ∀ (sink otherSink : Sink) (log otherLog : Log),
        (Printer.print { folding := true, sink := { sink with limit := none }, log := log }
          program).2.log = log.reporting ((program.failuresAt true).map Prod.snd) ∧
        (Printer.print { folding := true, sink := { otherSink with limit := none }, log := otherLog }
          other).2.log = otherLog.reporting ((other.failuresAt true).map Prod.snd) := by
  refine ⟨fun e other related => ?_, fun program other related => ⟨?_, ?_, ?_⟩⟩
  · have alike := related.foldsAlike Operation.respects_sameKind
    generalize otherFolded : other.fold = outcome at alike
    rcases folded : e.fold with failure | _ | value
    · obtain ⟨index, raises⟩ := Expr.fold_eq_error_iff_raisesAt.1 folded
      obtain ⟨another, otherRaises, failures⟩ :=
        related.exists_raisesAt Operation.respects_sameKind raises
      have otherFailed := Expr.fold_eq_error_iff_raisesAt.2 ⟨index, otherRaises⟩
      rw [← otherFolded]
      exact .inr (.inr ⟨failure, another, index, rfl, otherFailed, raises, otherRaises, failures⟩)
    · rw [folded] at alike
      cases alike with
      | varies => exact .inr (.inl ⟨rfl, rfl⟩)
    · rw [folded] at alike
      cases alike with
      | value sameKind => exact .inl ⟨_, _, rfl, rfl, sameKind⟩
  · exact (Program.failuresAt_related Operation.respects_sameKind related).1
  · exact (Program.failuresAt_related Operation.respects_sameKind related).2
  · intro sink otherSink log otherLog
    rw [Printer.print_unlimited, Printer.print_unlimited, Program.failures_eq_map_failuresAt,
      Program.failures_eq_map_failuresAt]
    exact ⟨rfl, rfl⟩

/-- A quotient is printed, and the negation of a word is evaluated. -/
def Program.quotientAndNegation (x y : Float) (word : String) : Program :=
  [.print (.binary (.literal (.number x)) ⟨.slash, "/", none, 1⟩ (.literal (.number y))),
    .expression (.unary ⟨.minus, "-", none, 2⟩ (.literal (.string word)))]

theorem Program.quotientAndNegation_related (x otherX y otherY : Float) (word otherWord : String) :
    List.Forall₂ (Stmt.Related Value.SameKind) (quotientAndNegation x y word)
      (quotientAndNegation otherX otherY otherWord) := by
  have numbers (x y : Float) : Value.SameKind (.number x) (.number y) := rfl
  have words : Value.SameKind (.string word) (.string otherWord) := rfl
  exact .cons (.print (.binary (.literal (numbers x otherX)) _ (.literal (numbers y otherY))))
    (.cons (.expression (.unary _ (.literal words))) .nil)

/-- Neither the divisor nor the word makes a difference: it is the second statement that is reported. -/
theorem fold_quotientAndNegation :
    (∃ failure another index,
      (Expr.unary ⟨.minus, "-", none, 2⟩ (.literal (.string "oops"))).RaisesAt index failure ∧
      (Expr.unary ⟨.minus, "-", none, 2⟩ (.literal (.string "7"))).RaisesAt index another ∧
      failure.Related Value.SameKind another) ∧
    ((Program.quotientAndNegation 1 0 "oops").failuresAt true).map Prod.fst = [1] ∧
    ((Program.quotientAndNegation 3 2 "7").failuresAt true).map Prod.fst = [1] := by
  have positions : ((Program.quotientAndNegation 1 0 "oops").failuresAt true).map Prod.fst = [1] :=
    rfl
  have samePositions := (fold_settled_by_kinds.2 (.quotientAndNegation 1 0 "oops")
    (.quotientAndNegation 3 2 "7") (Program.quotientAndNegation_related 1 3 0 2 "oops" "7")).1
  refine ⟨?_, positions, samePositions.symm.trans positions⟩
  obtain ⟨_, _, folded, _⟩ | ⟨varies, _⟩ | ⟨failure, another, index, _, _, raises⟩ :=
    fold_settled_by_kinds.1 (.unary ⟨.minus, "-", none, 2⟩ (.literal (.string "oops")))
      (.unary ⟨.minus, "-", none, 2⟩ (.literal (.string "7"))) (.unary _ (.literal rfl))
  · cases folded
  · cases varies
  · exact ⟨failure, another, index, raises⟩

end LoxForms
