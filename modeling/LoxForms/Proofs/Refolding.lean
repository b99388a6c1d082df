import LoxForms.Proofs.Failures
import LoxForms.Proofs.RoundTrip

/-! # Folded programs read back

What a folding printer writes for a constant need not be read as a value of the same kind: an
infinity and what is no number are read as words, and words in a row may spell a keyword or a
numeral.  A second run of the printer does not notice.  In a simplified tree every operator has an
operand that varies, so nothing is left to fold or to fail, whatever the constants are.  Only the
numerals among them are written anew, as the numbers that they stand for (`Value.renumbered`).
-/

namespace LoxForms

open Piece Reading

/-! ## Constants are atoms -/

theorem Piece.isAtomText_append {first second : String} (firstAtom : IsAtomText first)
    (secondAtom : IsAtomText second) : IsAtomText (first ++ second) := by
  refine ⟨fun empty => firstAtom.1 (String.append_eq_empty_iff.1 empty).1, fun c member => ?_⟩
  rw [String.toList_append, List.mem_append] at member
  exact member.elim (firstAtom.2 c) (secondAtom.2 c)

namespace Operation

theorem isAtom_of_unary? {kind : TokenKind} {value result : Value}
    (applied : unary? kind value = some result) : result.IsAtom := by
  unfold unary? at applied
  split at applied <;> cases applied <;> exact Value.isAtom_of_not_string nofun

theorem isAtom_of_numeric? {kind : TokenKind} {left right : Float} {result : Value}
    (applied : numeric? kind left right = some result) : result.IsAtom := by
  unfold numeric? at applied
  split at applied <;> cases applied <;> exact Value.isAtom_of_not_string nofun

/-- Only an addition makes a string, out of two strings. -/
theorem isAtom_of_binary? {kind : TokenKind} {left right result : Value} (leftAtom : left.IsAtom)
    (rightAtom : right.IsAtom) (applied : binary? kind left right = some result) :
    result.IsAtom := by
  unfold binary? at applied
  split at applied
  · cases applied
    exact Value.isAtom_of_not_string nofun
  · cases applied
    exact Value.isAtom_of_not_string nofun
  · cases applied
    exact isAtomText_append leftAtom rightAtom
  · exact isAtom_of_numeric? applied
  · cases applied

end Operation

namespace Expr

theorem isAtom_of_fold {references : Prop} {e : Expr} {value : Value}
    (conforms : e.Conforms Value.IsAtom references) (constant : e.fold = .ok (some value)) :
    value.IsAtom := by
  induction e generalizing value with
  | assign name e ih => cases constant
  | reference name => cases constant
  | literal v =>
    cases constant
    exact conforms
  | grouping inner ih => exact ih conforms constant
  | unary operator operand ih =>
    obtain ⟨part, folded, applied⟩ := fold_unary_eq_some_iff.1 constant
    exact Operation.isAtom_of_unary? (Token.applyUnary_eq_ok_iff.1 applied)
  | binary left operator right leftHypothesis rightHypothesis =>
    obtain ⟨leftPart, rightPart, leftFolded, rightFolded, applied⟩ :=
      fold_binary_eq_some_iff.1 constant
    exact Operation.isAtom_of_binary? (leftHypothesis conforms.1 leftFolded)
      (rightHypothesis conforms.2.2 rightFolded) (Token.applyBinary_eq_ok_iff.1 applied)

/-- A node becomes the literal of its value or keeps its place. -/
theorem conforms_constantOr {references : Prop} {e other : Expr}
    (conforms : e.Conforms Value.IsAtom references)
    (otherConforms : other.Conforms Value.IsAtom references) :
    (e.constantOr other).Conforms Value.IsAtom references := by
  unfold constantOr
  split
  next value constant => exact isAtom_of_fold conforms constant
  next => exact otherConforms

theorem conforms_simplified {references : Prop} {e : Expr}
    (conforms : e.Conforms Value.IsAtom references) :
    e.simplified.Conforms Value.IsAtom references := by
  induction e with
  | assign name e ih => exact ⟨conforms.1, ih conforms.2⟩
  | reference name => exact conforms
  | literal v => exact conforms
  | grouping inner ih =>
    exact conforms_constantOr (e := .grouping inner) conforms (ih conforms)
  | unary operator operand ih =>
    exact conforms_constantOr (e := .unary operator operand) conforms ⟨conforms.1, ih conforms.2⟩
  | binary left operator right leftHypothesis rightHypothesis =>
    obtain ⟨leftConforms, isBinary, rightConforms⟩ := conforms
    exact conforms_constantOr (e := .binary left operator right)
      ⟨leftConforms, isBinary, rightConforms⟩
      ⟨leftHypothesis leftConforms, isBinary, rightHypothesis rightConforms⟩

/-! ## Simplified trees stay as they are -/

theorem isNormal_iff {e : Expr} :
    e.IsNormal ↔ ((∃ value, e = .literal value) ∨ e.fold = .ok none) ∧
      ∀ child ∈ e.children, child.IsNormal := by
  constructor
  · intro normal
    exact ⟨normal e e.self_mem_nodes, fun child member node below =>
      normal node (mem_nodes_iff.2 (.inr ⟨child, member, below⟩))⟩
  · rintro ⟨root, below⟩ node member
    rcases mem_nodes_iff.1 member with rfl | ⟨child, isChild, inside⟩
    · exact root
    · exact below child isChild node inside

theorem simplified_of_isNormal {e : Expr} (normal : e.IsNormal) : e.simplified = e := by
  induction e using children_induction with
  | node e ih =>
    obtain ⟨⟨value, rfl⟩ | varies, below⟩ := isNormal_iff.1 normal
    · rfl
    · rw [simplified_of_not_constant (by simp [varies])]
      exact mapChildren_eq_self fun child member => ih child member (below child member)

/-- An operand that varies goes on varying whatever the constants beside it are. -/
theorem fold_map_of_isNormal {token : Token → Token} {value : Value → Value} {e : Expr}
    (normal : e.IsNormal) (varies : e.fold = .ok none) :
    (e.map token value).fold = .ok none := by
  induction e with
  | assign name e ih => rfl
  | reference name => rfl
  | literal v => cases varies
  | grouping inner ih => exact ih ((isNormal_iff.1 normal).2 inner (by simp [children])) varies
  | unary operator operand ih =>
    have below := (isNormal_iff.1 normal).2 operand (by simp [children])
    exact fold_unary_eq_none_iff.2 (ih below (fold_unary_eq_none_iff.1 varies))
  | binary left operator right leftHypothesis rightHypothesis =>
    have leftNormal := (isNormal_iff.1 normal).2 left (by simp [children])
    have rightNormal := (isNormal_iff.1 normal).2 right (by simp [children])
    apply fold_binary_eq_none_iff.2
    rcases fold_binary_eq_none_iff.1 varies with leftVaries | ⟨leftValue, leftFolded, rightVaries⟩
    · exact .inl (leftHypothesis leftNormal leftVaries)
    · obtain ⟨v, rfl⟩ | leftVaries := (isNormal_iff.1 leftNormal).1
      · exact .inr ⟨value v, rfl, rightHypothesis rightNormal rightVaries⟩
      · rw [leftFolded] at leftVaries
        cases leftVaries

@[simp] theorem children_map (token : Token → Token) (value : Value → Value) (e : Expr) :
    (e.map token value).children = e.children.map (·.map token value) := by
  cases e <;> rfl

theorem IsNormal.map {e : Expr} (normal : e.IsNormal) (token : Token → Token)
    (value : Value → Value) : (e.map token value).IsNormal := by
  induction e using children_induction with
  | node e ih =>
    have below := (isNormal_iff.1 normal).2
    rw [isNormal_iff]
    constructor
    · obtain ⟨v, rfl⟩ | varies := (isNormal_iff.1 normal).1
      · exact .inl ⟨value v, rfl⟩
      · exact .inr (fold_map_of_isNormal normal varies)
    · simpa using fun child member => ih child member (below child member)

end Expr

/-! ## Folded programs -/

namespace Stmt

/-- The simplified statement, if a printer that folds can show it. -/
def folded? (s : Stmt) : Option Stmt := s.foldedText.toOption.map fun _ => s.simplified

theorem folded?_eq_some_iff {s t : Stmt} :
    s.folded? = some t ↔ s.body.FoldsThroughout ∧ t = s.simplified := by
  rw [← exists_foldedText_eq_ok_iff]
  cases shown : s.foldedText <;> simp [folded?, shown, Except.toOption, eq_comm]

theorem map_text_folded? (s : Stmt) : s.folded?.map Stmt.text = s.foldedText.toOption := by
  cases shown : s.foldedText with
  | error failure => simp [folded?, shown, Except.toOption]
  | ok text =>
    have folds := exists_foldedText_eq_ok_iff.1 ⟨text, shown⟩
    have same : s.foldedText = .ok s.simplified.text :=
      render_mapBody (Expr.foldedText_eq_text_simplified folds)
    rw [shown, Except.ok.injEq] at same
    simp [folded?, shown, Except.toOption, same, simplified]

theorem conforms_simplified {references : Prop} {s : Stmt}
    (conforms : s.Conforms Value.IsAtom references) :
    s.simplified.Conforms Value.IsAtom references := by
  cases s with
  | expression e => exact Expr.conforms_simplified conforms
  | print e => exact Expr.conforms_simplified conforms
  | declaration name e => exact ⟨conforms.1, Expr.conforms_simplified conforms.2⟩

theorem folded?_of_isNormal {s : Stmt} (normal : s.body.IsNormal) : s.folded? = some s := by
  rw [folded?_eq_some_iff]
  refine ⟨normal.foldsThroughout, ?_⟩
  cases s <;> simp_all [simplified, mapBody, body, Expr.simplified_of_isNormal]

@[simp] theorem body_map (token : Token → Token) (value : Value → Value) (s : Stmt) :
    (s.map token value).body = s.body.map token value := by
  cases s <;> rfl

end Stmt

namespace Program

/-- The simplified statements that a printer that folds can show. -/
def folded (program : Program) : Program := program.filterMap Stmt.folded?

theorem bytes_folding (program : Program) :
    bytes true program = (text (folded program)).toUTF8.data := by
  have lines : renderedLines true program = (folded program).map Stmt.text := by
    rw [folded, List.map_filterMap]
    exact List.filterMap_congr fun s _ => (s.map_text_folded?).symm
  rw [bytes, renderedText, lines, text, List.foldr_map]

theorem failures_eq_nil_of_isNormal {program : Program} (normal : ∀ s ∈ program, s.body.IsNormal) :
    failures true program = [] := by
  rw [failures, List.filterMap_eq_nil_iff]
  intro s member
  rw [FoldError.of?_eq_none_iff]
  exact Stmt.exists_foldedText_eq_ok_iff.2 (normal s member).foldsThroughout

theorem folded_of_isNormal {program : Program} (normal : ∀ s ∈ program, s.body.IsNormal) :
    folded program = program := by
  rw [folded, List.filterMap_congr fun s member => Stmt.folded?_of_isNormal (normal s member)]
  simp

theorem mem_folded {program : Program} {s : Stmt} (member : s ∈ folded program) :
    ∃ original ∈ program, original.body.FoldsThroughout ∧ s = original.simplified := by
  obtain ⟨original, isOriginal, found⟩ := List.mem_filterMap.1 member
  exact ⟨original, isOriginal, Stmt.folded?_eq_some_iff.1 found⟩

theorem isNormal_of_mem_folded {program : Program} {s : Stmt} (member : s ∈ folded program) :
    s.body.IsNormal := by
  obtain ⟨original, _, folds, rfl⟩ := mem_folded member
  rw [Stmt.simplified, Stmt.body_mapBody]
  exact Expr.isNormal_simplified folds

theorem isNormal_of_mem_numbered {program : Program} {value : Value → Value}
    (normal : ∀ s ∈ program, s.body.IsNormal) :
    ∀ s ∈ numbered value program, s.body.IsNormal := by
  intro s member
  obtain ⟨index, inRange, rfl⟩ := List.mem_mapIdx.1 member
  rw [Stmt.body_map]
  exact (normal _ (List.getElem_mem inRange)).map _ _

end Program

/-! ## Constants read back -/

/-- An atom that is no numeral is written as it was read. -/
theorem Atom.text_value_of_read?_eq_none {atom : String} (noNumeral : Number.read? atom = none) :
    (Atom.value atom).text = atom := by
  unfold Atom.value
  split
  next => rfl
  next => rfl
  next => rfl
  next => simp [noNumeral, Value.text]

theorem Number.read?_text_of_not_finite {x : Float} (notFinite : Binary64.isFinite x = false) :
    Number.read? (Number.text Number.plain x) = none := by
  rw [Number.text, notFinite, if_neg (by decide)]
  split
  · rfl
  · split <;> rfl

namespace Value

/-- A string that is a numeral becomes the number it stands for. -/
def renumbered : Value → Value
  | .string word =>
    match Number.read? word with
    | some x => .number x
    | none => .string word
  | value => value

theorem renumbered_of_read?_eq_none {word : String} (noNumeral : Number.read? word = none) :
    (string word).renumbered = .string word := by
  simp [renumbered, noNumeral]

/-- Only a numeral is written in another way after it has been read back. -/
theorem text_asRead (value : Value) : value.asRead.text = value.renumbered.text := by
  cases value with
  | nil => rfl
  | boolean truth => cases truth <;> rfl
  | number x =>
    cases finite : Binary64.isFinite x with
    | true =>
      rw [asRead, text, Atom.value_of_read? (Number.read?_text finite)]
      rfl
    | false => exact Atom.text_value_of_read?_eq_none (Number.read?_text_of_not_finite finite)
  | string word =>
    cases numeral : Number.read? word with
    | some x => simp [asRead, text, Atom.value_of_read? numeral, renumbered, numeral]
    | none =>
      rw [renumbered_of_read?_eq_none numeral]
      exact Atom.text_value_of_read?_eq_none numeral

end Value

namespace Expr

theorem map_eq_self {value : Value → Value} {e : Expr}
    (same : ∀ v, .literal v ∈ e.nodes → value v = v) : e.map id value = e := by
  induction e with
  | assign name e ih =>
    rw [map, ih fun v member => same v (List.mem_cons_of_mem _ member)]
    rfl
  | binary left operator right leftHypothesis rightHypothesis =>
    rw [map, leftHypothesis fun v member => same v (by simp [nodes, member]),
      rightHypothesis fun v member => same v (by simp [nodes, member])]
    rfl
  | grouping inner ih => rw [map, ih fun v member => same v (List.mem_cons_of_mem _ member)]
  | literal v => rw [map, same v List.mem_cons_self]
  | unary operator operand ih =>
    rw [map, ih fun v member => same v (List.mem_cons_of_mem _ member)]
    rfl
  | reference name => rfl

end Expr

theorem Stmt.map_eq_self {value : Value → Value} {s : Stmt}
    (same : ∀ v, .literal v ∈ s.body.nodes → value v = v) : s.map id value = s := by
  cases s with
  | expression e => exact congrArg Stmt.expression (Expr.map_eq_self same)
  | print e => exact congrArg Stmt.print (Expr.map_eq_self same)
  | declaration name e => exact congrArg (Stmt.declaration name) (Expr.map_eq_self same)

/-- A program that was read is printed with folding, and what is printed is read again and printed
with folding once more.  That never fails to be read, nothing is reported the second time, and the
text is the same but for the constants that are numerals: each is written as the number it stands
for. -/
theorem refold_of_read {source : String} {program : Program}
    (accepted : Program.read source = .ok program) :
    Printer.print { folding := true } program =
        (.ok (),
          { folding := true
            sink := { stored := (Program.text program.folded).toUTF8.data, flushes := 1 }
            log := Log.reporting {} (program.failures true) }) ∧
      ∃ (again : Program) (text : String),
        Program.read (Program.text program.folded) = .ok again ∧
        Printer.print { folding := true } again =
          (.ok (),
            { folding := true, sink := { stored := text.toUTF8.data, flushes := 1 } }) ∧
        text = Program.text (program.folded.map (Stmt.map id Value.renumbered)) ∧
        ((∀ s ∈ program.folded, ∀ word, .literal (.string word) ∈ s.body.nodes →
            Number.read? word = none) →
          text = Program.text program.folded) := by
  have atoms : ∀ s ∈ program.folded, s.Conforms Value.IsAtom False := by
    intro s member
    obtain ⟨original, isOriginal, _, rfl⟩ := Program.mem_folded member
    exact Stmt.conforms_simplified ((Program.conforms_of_read accepted original isOriginal).mono
      (fun _ readable => readable.isAtom) id)
  have normal : ∀ s ∈ Program.numbered Value.asRead program.folded, s.body.IsNormal :=
    Program.isNormal_of_mem_numbered fun s member => Program.isNormal_of_mem_folded member
  refine ⟨?_, _, _, Program.read_text_of_isAtom atoms, ?_, rfl, fun noNumerals => ?_⟩
  · rw [Printer.print_fresh, Program.bytes_folding]
  · rw [Printer.print_fresh, Program.bytes_folding, Program.folded_of_isNormal normal,
      Program.failures_eq_nil_of_isNormal normal, Log.reporting_nil,
      Program.text_numbered_eq_text_map Value.text_asRead]
  · have same : ∀ s ∈ program.folded, s.map id Value.renumbered = s := by
      intro s member
      apply Stmt.map_eq_self
      intro v isConstant
      cases v with
      | nil | boolean _ | number _ => rfl
      | string word =>
        exact Value.renumbered_of_read?_eq_none (noNumerals s member word isConstant)
    rw [List.map_congr_left same, List.map_id']

/-- The sum of two constants, printed. -/
def Stmt.printSum (left right : Value) : Stmt :=
  .print (.binary (.literal left) ⟨.plus, "+", none, 1⟩ (.literal right))

theorem read_printSum {source : String} (left right : String)
    (pieces : Piece.ofSource source = formPieces 1 1 1 "print"
      (formPieces 1 1 1 "+" ([⟨.atom left, 1⟩] ++ [⟨.atom right, 1⟩])) ++ []) :
    Program.read source = .ok [.printSum (Atom.value left) (Atom.value right)] := by
  rw [programRead_eq_ok_iff, pieces]
  exact .cons (.print 1 1 1 (.binary 1 1 1 .plus (.literal left 1) (.literal right 1))) .nil

/-- Two words that spell a numeral together come back as its number, and two that spell a word come
back as they are. -/
theorem refold_printSum :
    (Program.read "(print (+ 1e +5))" = .ok [.printSum (.string "1e") (.string "+5")] ∧
      (Printer.print { folding := true } [.printSum (.string "1e") (.string "+5")]).2.sink.stored =
        "(print 1e+5)\n".toUTF8.data ∧
      ∃ again : Program,
        Program.read "(print 1e+5)\n" = .ok again ∧
        (Printer.print { folding := true } again).2.sink.stored =
          "(print 100000)\n".toUTF8.data) ∧
    (Program.read "(print (+ a b))" = .ok [.printSum (.string "a") (.string "b")] ∧
      (Printer.print { folding := true } [.printSum (.string "a") (.string "b")]).2.sink.stored =
        "(print ab)\n".toUTF8.data ∧
      ∃ again : Program,
        Program.read "(print ab)\n" = .ok again ∧
        (Printer.print { folding := true } again).2.sink.stored = "(print ab)\n".toUTF8.data) := by
  constructor
  · have accepted : Program.read "(print (+ 1e +5))" =
        .ok [.printSum (.string "1e") (.string "+5")] := read_printSum "1e" "+5" (by decide +kernel)
    have folded : Program.text (Program.folded [.printSum (.string "1e") (.string "+5")]) =
        "(print 1e+5)\n" := by
      decide +kernel
    have renumbered : Program.text ((Program.folded [.printSum (.string "1e") (.string "+5")]).map
        (Stmt.map id Value.renumbered)) = "(print 100000)\n" := by
      decide +kernel
    obtain ⟨printed, again, text, readAgain, printedAgain, rfl, _⟩ := refold_of_read accepted
    rw [folded] at printed readAgain
    rw [renumbered] at printedAgain
    exact ⟨accepted, by rw [printed], again, readAgain, by rw [printedAgain]⟩
  · have accepted : Program.read "(print (+ a b))" =
        .ok [.printSum (.string "a") (.string "b")] := read_printSum "a" "b" (by decide +kernel)
    have folded : Program.folded [.printSum (.string "a") (.string "b")] =
        [.print (.literal (.string "ab"))] := rfl
    have foldedText : Program.text [.print (.literal (.string "ab"))] = "(print ab)\n" := by
      decide +kernel
    obtain ⟨printed, again, text, readAgain, printedAgain, _, unchanged⟩ :=
      refold_of_read accepted
    rw [folded, foldedText] at printed readAgain unchanged
    rw [unchanged ?noNumerals] at printedAgain
    · exact ⟨accepted, by rw [printed], again, readAgain, by rw [printedAgain]⟩
    case noNumerals =>
      simp only [List.mem_singleton, forall_eq, Stmt.body, Expr.nodes, Expr.literal.injEq,
        Value.string.injEq]
      rfl

end LoxForms
