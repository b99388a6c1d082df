import LoxForms.Proofs.Atoms
import LoxForms.Proofs.Printing
import LoxForms.Proofs.Trees

/-! # The pieces of a written tree

A form splits into its parentheses, its head, and the pieces of its operands, whatever texts these
are, as long as they do not end the line (`split_form`).  So the text of a tree splits into `pieces`,
all on one line, and that of a program into the pieces of its statements, each on a line of its own.
-/

namespace LoxForms

open Piece Reading

/-! ## Forms -/

/-- The operands of a form as they are written. -/
def operandChars (operands : List String) : List Char :=
  operands.flatMap fun operand => ' ' :: operand.toList

theorem toList_foldl_operands (operands : List String) (text : String) :
    (operands.foldl (fun text operand => text ++ " " ++ operand) text).toList =
      text.toList ++ operandChars operands := by
  induction operands generalizing text with
  | nil => simp [operandChars]
  | cons operand operands ih =>
    rw [List.foldl_cons, ih]
    simp [operandChars]

theorem toList_form (head : String) (operands : List String) :
    (form head operands).toList = '(' :: (head.toList ++ (operandChars operands ++ [')'])) := by
  simp [form, toList_foldl_operands]

theorem operandChars_stop (operands : List String) :
    ∀ c ∈ (operandChars operands ++ [')']).head?, isAtomic c = false := by
  intro c first
  cases operands with
  | nil =>
    cases first
    rfl
  | cons operand operands =>
    cases first
    rfl

theorem split_operands {operands : List String}
    (flat : ∀ operand ∈ operands, '\n' ∉ operand.toList) (line : UInt32) :
    split line (operandChars operands ++ [')']) =
      operands.flatMap (fun operand => split line operand.toList) ++ [⟨.closing, line⟩] := by
  induction operands with
  | nil =>
    change split line [')'] = [⟨.closing, line⟩]
    rw [split_delimiter (by decide), split_nil]
    rfl
  | cons operand operands ih =>
    have flatHead := flat operand List.mem_cons_self
    have chars : operandChars (operand :: operands) ++ [')'] =
        ' ' :: (operand.toList ++ (operandChars operands ++ [')'])) := by
      simp [operandChars]
    rw [chars, split_delimiter (by decide), split_append (.inr (operandChars_stop operands))]
    change _ ++ split (lineAfterAll line operand.toList) _ = _
    rw [lineAfterAll_of_not_mem flatHead,
      ih fun other member => flat other (List.mem_cons_of_mem operand member), List.flatMap_cons,
      List.append_assoc]
    rfl

theorem split_form {head : String} {operands : List String} (atom : IsAtomText head)
    (flat : ∀ operand ∈ operands, '\n' ∉ operand.toList) (line : UInt32) :
    split line (form head operands).toList =
      formPieces line line line head
        (operands.flatMap fun operand => split line operand.toList) := by
  rw [toList_form, split_delimiter (by decide), split_append (.inr (operandChars_stop operands)),
    split_of_isAtomText atom]
  change [⟨.opening, line⟩] ++ (_ ++ split (lineAfterAll line head.toList) _) = _
  rw [lineAfterAll_of_not_mem (newline_not_mem atom.2), split_operands flat]
  rfl

theorem newline_not_mem_form {head : String} {operands : List String} (atom : IsAtomText head)
    (flat : ∀ operand ∈ operands, '\n' ∉ operand.toList) :
    '\n' ∉ (form head operands).toList := by
  have flatHead := newline_not_mem atom.2
  rw [toList_form]
  simp only [operandChars, List.mem_cons, List.mem_append, List.mem_flatMap, List.not_mem_nil,
    or_false]
  rintro (opening | inHead | ⟨operand, member, blank | inside⟩ | closing)
  · exact absurd opening (by decide)
  · exact flatHead inHead
  · exact absurd blank (by decide)
  · exact flat operand member inside
  · exact absurd closing (by decide)

/-! ## Expressions -/

/-- The text of a value stays on its line. -/
def Value.IsFlat (value : Value) : Prop := '\n' ∉ value.text.toList

theorem Token.IsName.isAtomText {token : Token} (name : token.IsName) : IsAtomText token.lexeme :=
  isAtomText_of_isIdentifier name.2.2

theorem Value.IsAtom.isFlat {value : Value} (atom : value.IsAtom) : value.IsFlat :=
  newline_not_mem atom.2

namespace Expr

/-- The pieces of an expression that is written on the line. -/
def pieces (line : UInt32) : Expr → List LocatedPiece
  | .assign name value =>
    formPieces line line line "=" (⟨.atom name.lexeme, line⟩ :: value.pieces line)
  | .binary left operator right =>
    formPieces line line line operator.lexeme (left.pieces line ++ right.pieces line)
  | .grouping inner => formPieces line line line "group" (inner.pieces line)
  | .literal value => split line value.text.toList
  | .unary operator operand => formPieces line line line operator.lexeme (operand.pieces line)
  | .reference _ => []

theorem newline_not_mem_text {e : Expr} (conforms : e.Conforms Value.IsFlat True) :
    '\n' ∉ e.text.toList := by
  induction e with
  | assign name value ih =>
    have flatName := newline_not_mem conforms.1.isAtomText.2
    exact newline_not_mem_form (by decide) (by simp [flatName, ih conforms.2])
  | binary left operator right leftHypothesis rightHypothesis =>
    obtain ⟨leftConforms, binary, rightConforms⟩ := conforms
    exact newline_not_mem_form binary.1.isAtomText
      (by simp [leftHypothesis leftConforms, rightHypothesis rightConforms])
  | grouping inner ih =>
    exact newline_not_mem_form (by decide) (by simp [ih conforms])
  | literal value => exact conforms
  | unary operator operand ih =>
    exact newline_not_mem_form conforms.1.1.isAtomText (by simp [ih conforms.2])
  | reference name => simp [text]

theorem split_text {e : Expr} (conforms : e.Conforms Value.IsFlat True) (line : UInt32) :
    split line e.text.toList = e.pieces line := by
  induction e with
  | assign name value ih =>
    have atom := conforms.1.isAtomText
    rw [text, split_form (by decide)
      (by simp [newline_not_mem atom.2, newline_not_mem_text conforms.2])]
    simp [pieces, split_of_isAtomText atom, ih conforms.2]
  | binary left operator right leftHypothesis rightHypothesis =>
    obtain ⟨leftConforms, binary, rightConforms⟩ := conforms
    rw [text, split_form binary.1.isAtomText
      (by simp [newline_not_mem_text leftConforms, newline_not_mem_text rightConforms])]
    simp [pieces, leftHypothesis leftConforms, rightHypothesis rightConforms]
  | grouping inner ih =>
    have flat := newline_not_mem_text (e := inner) conforms
    rw [text, split_form (by decide) (by simp [flat])]
    simp [pieces, ih conforms]
  | literal value => rfl
  | unary operator operand ih =>
    rw [text, split_form conforms.1.1.isAtomText (by simp [newline_not_mem_text conforms.2])]
    simp [pieces, ih conforms.2]
  | reference name => simp [text, pieces]

end Expr

/-! ## Statements and programs -/

namespace Stmt

/-- The pieces of a statement that is written on the line. -/
def pieces (line : UInt32) : Stmt → List LocatedPiece
  | .expression e => formPieces line line line "expr" (e.pieces line)
  | .print e => formPieces line line line "print" (e.pieces line)
  | .declaration name e =>
    formPieces line line line "var" (⟨.atom name.lexeme, line⟩ :: e.pieces line)

theorem newline_not_mem_text {s : Stmt} (conforms : s.Conforms Value.IsFlat True) :
    '\n' ∉ s.text.toList := by
  cases s with
  | expression e | print e =>
    exact newline_not_mem_form (by decide)
      (by simp [Expr.newline_not_mem_text conforms])
  | declaration name e =>
    have flatName := newline_not_mem conforms.1.isAtomText.2
    exact newline_not_mem_form (by decide)
      (by simp [flatName, Expr.newline_not_mem_text conforms.2])

theorem split_text {s : Stmt} (conforms : s.Conforms Value.IsFlat True) (line : UInt32) :
    split line s.text.toList = s.pieces line := by
  cases s with
  | expression e | print e =>
    rw [text, split_form (by decide) (by simp [Expr.newline_not_mem_text conforms])]
    simp [pieces, Expr.split_text conforms]
  | declaration name e =>
    have atom := conforms.1.isAtomText
    rw [text, split_form (by decide)
      (by simp [newline_not_mem atom.2, Expr.newline_not_mem_text conforms.2])]
    simp [pieces, split_of_isAtomText atom, Expr.split_text conforms.2]

end Stmt

namespace Program

/-- The pieces of a program whose statements are written one a line. -/
def pieces (line : UInt32) : Program → List LocatedPiece
  | [] => []
  | s :: others => s.pieces line ++ pieces (line + 1) others

theorem split_text {program : Program}
    (conforms : ∀ s ∈ program, s.Conforms Value.IsFlat True) (line : UInt32) :
    split line (Program.text program).toList = pieces line program := by
  induction program generalizing line with
  | nil => simp [Program.text, pieces]
  | cons s others ih =>
    have first := conforms s List.mem_cons_self
    have chars : (Program.text (s :: others)).toList =
        s.text.toList ++ '\n' :: (Program.text others).toList := by
      simp [Program.text]
    have apart : Apart s.text.toList ('\n' :: (Program.text others).toList) :=
      .inr fun c first => by cases first; rfl
    rw [chars, split_append apart, lineAfterAll_of_not_mem (Stmt.newline_not_mem_text first),
      split_delimiter (by decide), Stmt.split_text first]
    change _ ++ split (line + 1) _ = _
    rw [ih fun other member => conforms other (List.mem_cons_of_mem s member)]
    rfl

end Program

end LoxForms
