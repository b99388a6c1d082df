import LoxForms.Proofs.Refolding
import LoxForms.Proofs.References

/-! # Strings that are written as they are

A string is written without quotation marks, so a string without blanks and parentheses is one atom,
unless it is empty.  An empty one leaves nothing behind in its form but the blank in front of it, and
no tree that was read is written with such a blank (`countP_isBlank_text`).  Any other string is read
back, but one that is a numeral as its number, and that is written in its own way.
-/

namespace LoxForms

open Piece Reading

/-! ## Strings without delimiters -/

namespace Value

/-- A string holds neither blanks nor parentheses. -/
def IsUnbroken : Value → Prop
  | .string text => ∀ c ∈ text.toList, isAtomic c = true
  | _ => True

theorem isUnbroken_string {text : String} (atomic : text.toList.all isAtomic = true) :
    IsUnbroken (.string text) :=
  List.all_eq_true.1 atomic

theorem IsUnbroken.isAtom_iff {value : Value} (unbroken : value.IsUnbroken) :
    value.IsAtom ↔ ∀ word, value = .string word → word ≠ "" := by
  refine ⟨fun atom word isWord => ?_, fun nonempty => ?_⟩
  · rw [isWord] at atom
    exact atom.1
  · cases value with
    | nil | boolean _ | number _ => exact isAtom_of_not_string nofun
    | string word => exact ⟨nonempty word rfl, unbroken⟩

theorem IsUnbroken.isAtom {value : Value} (unbroken : value.IsUnbroken)
    (written : value.text ≠ "") : value.IsAtom := by
  refine unbroken.isAtom_iff.2 fun word isWord => ?_
  rwa [isWord] at written

theorem IsUnbroken.isFlat {value : Value} (unbroken : value.IsUnbroken) : value.IsFlat := by
  by_cases written : value.text = ""
  · simp [IsFlat, written]
  · exact (unbroken.isAtom written).isFlat

theorem IsAtom.isUnbroken {value : Value} (atom : value.IsAtom) : value.IsUnbroken := by
  cases value with
  | nil | boolean _ | number _ => trivial
  | string text => exact atom.2

theorem isAtom_renumbered {value : Value} (atom : value.IsAtom) : value.renumbered.IsAtom := by
  cases value with
  | nil | boolean _ | number _ => exact atom
  | string word =>
    cases numeral : Number.read? word with
    | none => rwa [renumbered_of_read?_eq_none numeral]
    | some x =>
      have isNumber : (string word).renumbered = .number x := by simp [renumbered, numeral]
      rw [isNumber]
      exact isAtomText_number x

/-- A string is written alike after it has been read, unless it is a numeral that is not written as
its number is. -/
theorem text_renumbered_eq_iff {value : Value} :
    value.renumbered.text = value.text ↔
      ∀ word, value = .string word →
        ∀ x, Number.read? word = some x → Number.text Number.plain x = word := by
  cases value with
  | nil | boolean _ | number _ => exact iff_of_true rfl nofun
  | string word =>
    cases numeral : Number.read? word with
    | none => simp [renumbered, numeral]
    | some x => simp [renumbered, numeral, text]

end Value

/-! ## Blanks and atoms -/

def LocatedPiece.isAtom : LocatedPiece → Bool
  | ⟨.atom _, _⟩ => true
  | _ => false

theorem form_ne_empty (head : String) (operands : List String) : form head operands ≠ "" := by
  intro empty
  have chars := toList_form head operands
  rw [empty] at chars
  cases chars

theorem countP_isBlank_of_isAtomText {text : String} (atom : IsAtomText text) :
    text.toList.countP Text.isBlank = 0 := by
  rw [List.countP_eq_zero]
  intro c member blank
  have delimiter := isAtomic_of_isBlank blank
  rw [atom.2 c member] at delimiter
  cases delimiter

/-- A form has a blank in front of each of its operands. -/
theorem countP_isBlank_form {head : String} (atom : IsAtomText head) (operands : List String) :
    (form head operands).toList.countP Text.isBlank =
      (operands.map fun operand => operand.toList.countP Text.isBlank + 1).sum := by
  have opening : Text.isBlank '(' = false := by decide
  have closing : Text.isBlank ')' = false := by decide
  have blank : Text.isBlank ' ' = true := by decide
  simp only [toList_form, operandChars, List.countP_cons, List.countP_append,
    countP_isBlank_of_isAtomText atom, List.countP_flatMap, opening, closing]
  simp [Function.comp_def, blank]

@[simp] theorem countP_isAtom_cons (text : String) (line : UInt32) (others : List LocatedPiece) :
    (⟨.atom text, line⟩ :: others).countP LocatedPiece.isAtom =
      others.countP LocatedPiece.isAtom + 1 :=
  List.countP_cons_of_pos rfl

theorem countP_isAtom_formPieces (line : UInt32) (head : String) (operands : List LocatedPiece) :
    (formPieces line line line head operands).countP LocatedPiece.isAtom =
      operands.countP LocatedPiece.isAtom + 1 := by
  simp [formPieces, List.countP_cons, LocatedPiece.isAtom]

/-- If the blanks in the operands and in front of them are as many as the atoms and vacant places there,
the head makes up for the blank in front of the form. -/
theorem countP_form_balanced {head : String} (atom : IsAtomText head) {operands : List String}
    {pieces : List LocatedPiece} {vacant : Nat} (line : UInt32)
    (balanced : (operands.map fun operand => operand.toList.countP Text.isBlank + 1).sum =
      pieces.countP LocatedPiece.isAtom + vacant) :
    (form head operands).toList.countP Text.isBlank + 1 =
      (formPieces line line line head pieces).countP LocatedPiece.isAtom + vacant := by
  rw [countP_isBlank_form atom, countP_isAtom_formPieces, balanced, Nat.add_right_comm]

namespace Expr

/-- How many subexpressions are written as nothing. -/
def vacant (e : Expr) : Nat := e.nodes.countP fun node => node.text == ""

theorem vacant_eq_zero_iff {e : Expr} : e.vacant = 0 ↔ ∀ node ∈ e.nodes, node.text ≠ "" := by
  simp [vacant]

theorem vacant_of_text_ne_empty (e : Expr) (written : e.text ≠ "") :
    e.vacant = (e.children.map vacant).sum := by
  unfold vacant
  rw [nodes_eq, List.countP_cons_of_neg (by simpa using written), List.countP_flatMap]
  rfl

/-- Every operand has a blank in front of it.  It is an atom, or a form that begins with one, or it is
written as nothing. -/
theorem countP_isBlank_text {e : Expr} (conforms : e.Conforms Value.IsUnbroken True)
    (line : UInt32) :
    e.text.toList.countP Text.isBlank + 1 =
      (e.pieces line).countP LocatedPiece.isAtom + e.vacant := by
  induction e with
  | assign name value ih =>
    have inValue := ih conforms.2
    rw [vacant_of_text_ne_empty (.assign name value) (form_ne_empty _ _)]
    refine countP_form_balanced (by decide) line ?_
    simp only [children, List.map_cons, List.map_nil, List.sum_cons, List.sum_nil,
      countP_isAtom_cons, countP_isBlank_of_isAtomText conforms.1.isAtomText]
    omega
  | binary left operator right leftHypothesis rightHypothesis =>
    obtain ⟨leftConforms, binary, rightConforms⟩ := conforms
    have inLeft := leftHypothesis leftConforms
    have inRight := rightHypothesis rightConforms
    rw [vacant_of_text_ne_empty (.binary left operator right) (form_ne_empty _ _)]
    refine countP_form_balanced binary.1.isAtomText line ?_
    simp only [children, List.map_cons, List.map_nil, List.sum_cons, List.sum_nil,
      List.countP_append]
    omega
  | grouping inner ih =>
    rw [vacant_of_text_ne_empty (.grouping inner) (form_ne_empty _ _)]
    exact countP_form_balanced (by decide) line (by simpa [children] using ih conforms)
  | literal value =>
    by_cases written : value.text = ""
    · simp [text, pieces, vacant, nodes, written]
    · have atom := Value.IsUnbroken.isAtom conforms written
      simp [text, pieces, vacant, nodes, written, countP_isBlank_of_isAtomText atom,
        split_of_isAtomText atom, LocatedPiece.isAtom]
  | unary operator operand ih =>
    rw [vacant_of_text_ne_empty (.unary operator operand) (form_ne_empty _ _)]
    exact countP_form_balanced conforms.1.1.isAtomText line
      (by simpa [children] using ih conforms.2)
  | reference name => simp [text, pieces, vacant, nodes]

end Expr

theorem Stmt.countP_isBlank_text {s : Stmt} (conforms : s.Conforms Value.IsUnbroken True)
    (line : UInt32) :
    s.text.toList.countP Text.isBlank + 1 =
      (s.pieces line).countP LocatedPiece.isAtom + s.body.vacant := by
  have inBody := Expr.countP_isBlank_text conforms.body line
  cases s with
  | expression e | print e =>
    exact countP_form_balanced (by decide) line (by simpa [body] using inBody)
  | declaration name e =>
    refine countP_form_balanced (by decide) line ?_
    rw [body] at inBody ⊢
    simp only [List.map_cons, List.map_nil, List.sum_cons, List.sum_nil, countP_isAtom_cons,
      countP_isBlank_of_isAtomText conforms.1.isAtomText]
    omega

namespace Program

/-- Every line feed is a blank more, so that blanks are as many as atoms and vacant operands. -/
theorem countP_isBlank_text {program : Program}
    (conforms : ∀ s ∈ program, s.Conforms Value.IsUnbroken True) (line : UInt32) :
    (text program).toList.countP Text.isBlank =
      (pieces line program).countP LocatedPiece.isAtom +
        (program.map fun s => s.body.vacant).sum := by
  induction program generalizing line with
  | nil => rfl
  | cons s others ih =>
    obtain ⟨first, rest⟩ := List.forall_mem_cons.1 conforms
    have inFirst := Stmt.countP_isBlank_text first line
    have inRest := ih rest (line + 1)
    have feed : Text.isBlank '\n' = true := by decide
    have chars : (text (s :: others)).toList = s.text.toList ++ '\n' :: (text others).toList := by
      simp [text]
    rw [chars, pieces, List.countP_append, List.countP_append, List.countP_cons_of_pos feed,
      List.map_cons, List.sum_cons]
    omega

/-- Programs with the same text have the same pieces. -/
theorem pieces_congr {program other : Program}
    (flat : ∀ s ∈ program, s.Conforms Value.IsFlat True)
    (otherFlat : ∀ s ∈ other, s.Conforms Value.IsFlat True) (same : text program = text other)
    (line : UInt32) : pieces line program = pieces line other := by
  rw [← split_text flat, ← split_text otherFlat, same]

/-- The text tells how many subexpressions are written as nothing. -/
theorem vacant_congr {program other : Program}
    (conforms : ∀ s ∈ program, s.Conforms Value.IsUnbroken True)
    (otherConforms : ∀ s ∈ other, s.Conforms Value.IsUnbroken True)
    (same : text program = text other) :
    (program.map fun s => s.body.vacant).sum = (other.map fun s => s.body.vacant).sum := by
  have flat : ∀ s ∈ program, s.Conforms Value.IsFlat True := fun s member =>
    (conforms s member).mono (fun _ unbroken => unbroken.isFlat) id
  have otherFlat : ∀ s ∈ other, s.Conforms Value.IsFlat True := fun s member =>
    (otherConforms s member).mono (fun _ unbroken => unbroken.isFlat) id
  have counted := countP_isBlank_text conforms 1
  have otherCounted := countP_isBlank_text otherConforms 1
  rw [same, pieces_congr flat otherFlat same 1] at counted
  omega

end Program

/-! ## Literals and the texts around them -/

theorem operands_eq_of_formPieces_eq {line : UInt32} {head : String}
    {operands others : List LocatedPiece}
    (same : formPieces line line line head operands = formPieces line line line head others) :
    operands = others :=
  List.append_cancel_right (List.cons.inj (List.cons.inj same).2).2

theorem length_formPieces (line : UInt32) (head : String) (operands : List LocatedPiece) :
    (formPieces line line line head operands).length = operands.length + 3 := by
  simp [formPieces]

namespace Expr

/-- The class of the literals in a tree is a matter of each of them. -/
theorem Conforms.iff_literals {literals others : Value → Prop} {references : Prop} {e : Expr}
    (conforms : e.Conforms literals references) :
    e.Conforms others references ↔ ∀ v, .literal v ∈ e.nodes → others v := by
  refine ⟨fun all v member => all.of_mem_nodes member, fun each => ?_⟩
  induction e with
  | assign name value ih =>
    exact ⟨conforms.1, ih conforms.2 fun v member => each v (List.mem_cons_of_mem _ member)⟩
  | binary left operator right leftHypothesis rightHypothesis =>
    obtain ⟨leftConforms, binary, rightConforms⟩ := conforms
    exact ⟨leftHypothesis leftConforms fun v member => each v (by simp [nodes, member]), binary,
      rightHypothesis rightConforms fun v member => each v (by simp [nodes, member])⟩
  | grouping inner ih => exact ih conforms fun v member => each v (List.mem_cons_of_mem _ member)
  | literal v => exact each v (self_mem_nodes _)
  | unary operator operand ih =>
    exact ⟨conforms.1, ih conforms.2 fun v member => each v (List.mem_cons_of_mem _ member)⟩
  | reference name => exact conforms

/-- Other values take the place of the old ones in the class. -/
theorem conforms_map_id {literals : Value → Prop} {references : Prop} {value : Value → Value}
    (e : Expr) :
    (e.map id value).Conforms literals references ↔
      e.Conforms (fun v => literals (value v)) references := by
  induction e with
  | assign name e ih => simp only [map, Conforms, id, ih]
  | binary left operator right leftHypothesis rightHypothesis =>
    simp only [map, Conforms, id, leftHypothesis, rightHypothesis]
  | grouping inner ih => simpa only [map, Conforms] using ih
  | literal v => rfl
  | unary operator operand ih => simp only [map, Conforms, id, ih]
  | reference name => rfl

theorem length_pieces_map {value : Value → Value} {references : Prop} {e : Expr}
    (atoms : e.Conforms (fun v => v.IsAtom ∧ (value v).IsAtom) references) (line : UInt32) :
    ((e.map id value).pieces line).length = (e.pieces line).length := by
  induction e with
  | assign name e ih => simp [map, pieces, length_formPieces, ih atoms.2]
  | binary left operator right leftHypothesis rightHypothesis =>
    simp [map, pieces, length_formPieces, leftHypothesis atoms.1, rightHypothesis atoms.2.2]
  | grouping inner ih => simp [map, pieces, length_formPieces, ih atoms]
  | literal v => simp [map, pieces, split_of_isAtomText atoms.1, split_of_isAtomText atoms.2]
  | unary operator operand ih => simp [map, pieces, length_formPieces, ih atoms.2]
  | reference name => rfl

/-- Literals that are atoms are found in the pieces again. -/
theorem Conforms.of_pieces_map_eq {value : Value → Value} {references : Prop} {e : Expr}
    (atoms : e.Conforms (fun v => v.IsAtom ∧ (value v).IsAtom) references) {line : UInt32}
    (same : (e.map id value).pieces line = e.pieces line) :
    e.Conforms (fun v => (value v).text = v.text) references := by
  induction e with
  | assign name e ih =>
    exact ⟨atoms.1, ih atoms.2 (List.cons.inj (operands_eq_of_formPieces_eq same)).2⟩
  | binary left operator right leftHypothesis rightHypothesis =>
    obtain ⟨leftAtoms, binary, rightAtoms⟩ := atoms
    obtain ⟨sameLeft, sameRight⟩ :=
      List.append_inj (operands_eq_of_formPieces_eq same) (length_pieces_map leftAtoms line)
    exact ⟨leftHypothesis leftAtoms sameLeft, binary, rightHypothesis rightAtoms sameRight⟩
  | grouping inner ih => exact ih atoms (operands_eq_of_formPieces_eq same)
  | literal v =>
    rw [map, pieces, pieces, split_of_isAtomText atoms.1, split_of_isAtomText atoms.2] at same
    change (value v).text = v.text
    simpa using same
  | unary operator operand ih =>
    exact ⟨atoms.1, ih atoms.2 (operands_eq_of_formPieces_eq same)⟩
  | reference name => exact atoms

theorem Conforms.text_map_eq {value : Value → Value} {references : Prop} {e : Expr}
    (same : e.Conforms (fun v => (value v).text = v.text) references) :
    (e.map id value).text = e.text := by
  induction e with
  | assign name e ih => simp [map, text, ih same.2]
  | binary left operator right leftHypothesis rightHypothesis =>
    simp [map, text, leftHypothesis same.1, rightHypothesis same.2.2]
  | grouping inner ih => simp [map, text, ih same]
  | literal v => exact same
  | unary operator operand ih => simp [map, text, ih same.2]
  | reference name => rfl

end Expr

namespace Stmt

theorem Conforms.iff_literals {literals others : Value → Prop} {references : Prop} {s : Stmt}
    (conforms : s.Conforms literals references) :
    s.Conforms others references ↔ ∀ v, .literal v ∈ s.body.nodes → others v := by
  rw [← Expr.Conforms.iff_literals conforms.body]
  refine ⟨Conforms.body, fun body => ?_⟩
  cases s with
  | expression e | print e => exact body
  | declaration name e => exact ⟨conforms.1, body⟩

theorem conforms_map_id {literals : Value → Prop} {references : Prop} {value : Value → Value}
    (s : Stmt) :
    (s.map id value).Conforms literals references ↔
      s.Conforms (fun v => literals (value v)) references := by
  cases s with
  | expression e | print e => exact e.conforms_map_id
  | declaration name e => exact and_congr Iff.rfl e.conforms_map_id

theorem length_pieces_map {value : Value → Value} {references : Prop} {s : Stmt}
    (atoms : s.Conforms (fun v => v.IsAtom ∧ (value v).IsAtom) references) (line : UInt32) :
    ((s.map id value).pieces line).length = (s.pieces line).length := by
  have inBody := Expr.length_pieces_map atoms.body line
  cases s <;> simpa [map, pieces, length_formPieces, body] using inBody

theorem Conforms.of_pieces_map_eq {value : Value → Value} {references : Prop} {s : Stmt}
    (atoms : s.Conforms (fun v => v.IsAtom ∧ (value v).IsAtom) references) {line : UInt32}
    (same : (s.map id value).pieces line = s.pieces line) :
    s.Conforms (fun v => (value v).text = v.text) references := by
  cases s with
  | expression e | print e =>
    exact Expr.Conforms.of_pieces_map_eq atoms (operands_eq_of_formPieces_eq same)
  | declaration name e =>
    exact ⟨atoms.1, Expr.Conforms.of_pieces_map_eq atoms.2
      (List.cons.inj (operands_eq_of_formPieces_eq same)).2⟩

theorem Conforms.text_map_eq {value : Value → Value} {references : Prop} {s : Stmt}
    (same : s.Conforms (fun v => (value v).text = v.text) references) :
    (s.map id value).text = s.text := by
  cases s with
  | expression e | print e | declaration _ e =>
    have inBody : (e.map id value).text = e.text := Expr.Conforms.text_map_eq same.body
    simp [map, text, inBody]

end Stmt

namespace Program

theorem conforms_of_pieces_map_eq {value : Value → Value} {references : Prop} {program : Program}
    (atoms : ∀ s ∈ program, s.Conforms (fun v => v.IsAtom ∧ (value v).IsAtom) references)
    {line : UInt32} (same : pieces line (program.map (Stmt.map id value)) = pieces line program) :
    ∀ s ∈ program, s.Conforms (fun v => (value v).text = v.text) references := by
  induction program generalizing line with
  | nil => simp
  | cons s others ih =>
    obtain ⟨firstAtoms, restAtoms⟩ := List.forall_mem_cons.1 atoms
    obtain ⟨sameFirst, sameRest⟩ :=
      List.append_inj same (Stmt.length_pieces_map firstAtoms line)
    exact List.forall_mem_cons.2 ⟨firstAtoms.of_pieces_map_eq sameFirst, ih restAtoms sameRest⟩

/-- The texts of other values make the same text only where they are the same. -/
theorem text_map_eq_iff {value : Value → Value} {references : Prop} {program : Program}
    (atoms : ∀ s ∈ program, s.Conforms (fun v => v.IsAtom ∧ (value v).IsAtom) references) :
    text (program.map (Stmt.map id value)) = text program ↔
      ∀ s ∈ program, s.Conforms (fun v => (value v).text = v.text) references := by
  constructor
  · intro same
    have flat : ∀ s ∈ program, s.Conforms Value.IsFlat True := fun s member =>
      (atoms s member).mono (fun _ both => both.1.isFlat) fun _ => trivial
    have otherFlat : ∀ s ∈ program.map (Stmt.map id value), s.Conforms Value.IsFlat True := by
      intro s member
      obtain ⟨original, isOriginal, rfl⟩ := List.mem_map.1 member
      exact original.conforms_map_id.2
        ((atoms original isOriginal).mono (fun _ both => both.2.isFlat) fun _ => trivial)
    exact conforms_of_pieces_map_eq atoms (pieces_congr otherFlat flat same 1)
  · intro same
    apply text_congr
    rw [List.map_map]
    exact List.map_congr_left fun s member => (same s member).text_map_eq

/-! ## Reading the text back -/

/-- What has no vacant subexpression is written in atoms. -/
theorem isAtom_of_vacant_eq_zero {program : Program}
    (unbroken : ∀ s ∈ program, s.Conforms Value.IsUnbroken False)
    (none : (program.map fun s => s.body.vacant).sum = 0) :
    ∀ s ∈ program, s.Conforms Value.IsAtom False := by
  intro s member
  have noneInside : s.body.vacant = 0 := by
    rw [List.sum_eq_zero_iff] at none
    exact none _ (List.mem_map.2 ⟨s, member, rfl⟩)
  rw [(unbroken s member).iff_literals]
  intro v isLiteral
  have written := Expr.vacant_eq_zero_iff.1 noneInside _ isLiteral
  exact Value.IsUnbroken.isAtom ((unbroken s member).iff_literals.1 (unbroken s member) v isLiteral)
    written

theorem vacant_eq_zero_of_isAtom {program : Program}
    (atoms : ∀ s ∈ program, s.Conforms Value.IsAtom False) :
    (program.map fun s => s.body.vacant).sum = 0 := by
  rw [List.sum_eq_zero_iff]
  intro count isCount
  obtain ⟨s, member, rfl⟩ := List.mem_map.1 isCount
  rw [Expr.vacant_eq_zero_iff]
  intro node isNode
  have conforms := Expr.Conforms.of_mem_nodes (atoms s member).body isNode
  cases node with
  | literal v => exact conforms.1
  | reference name => exact conforms.elim
  | assign _ _ | binary _ _ _ | grouping _ | unary _ _ => exact form_ne_empty _ _

/-- Where the literals are atoms, what the text is read as has the same text exactly if every literal
is written as what it is read as. -/
theorem text_numbered_asRead_eq_iff {program : Program}
    (atoms : ∀ s ∈ program, s.Conforms Value.IsAtom False) :
    text (numbered Value.asRead program) = text program ↔
      ∀ s ∈ program, s.Conforms (fun v => v.renumbered.text = v.text) False := by
  rw [text_numbered_eq_text_map Value.text_asRead, text_map_eq_iff]
  exact fun s member =>
    (atoms s member).mono (fun _ atom => ⟨atom, Value.isAtom_renumbered atom⟩) id

/-- No vacant place is left in what was read, so none was in what has the same text. -/
theorem isAtom_of_read_text_eq {program result : Program}
    (unbroken : ∀ s ∈ program, s.Conforms Value.IsUnbroken False) {source : String}
    (accepted : Program.read source = .ok result) (same : text result = text program) :
    ∀ s ∈ program, s.Conforms Value.IsAtom False := by
  have atoms : ∀ s ∈ result, s.Conforms Value.IsAtom False := fun s member =>
    (conforms_of_read accepted s member).mono (fun _ readable => readable.isAtom) id
  have allowed : ∀ s ∈ program, s.Conforms Value.IsUnbroken True := fun s member =>
    (unbroken s member).mono (fun _ => id) fun _ => trivial
  have resultAllowed : ∀ s ∈ result, s.Conforms Value.IsUnbroken True := fun s member =>
    (atoms s member).mono (fun _ atom => atom.isUnbroken) fun _ => trivial
  apply isAtom_of_vacant_eq_zero unbroken
  rw [← vacant_congr resultAllowed allowed same]
  exact vacant_eq_zero_of_isAtom atoms

/-- A text is read as what has this text again exactly if every literal is an atom and is written as
what it is read as. -/
theorem exists_read_text_eq_iff {program : Program}
    (unbroken : ∀ s ∈ program, s.Conforms Value.IsUnbroken False) :
    (∃ result, Program.read (text program) = .ok result ∧ text result = text program) ↔
      (∀ s ∈ program, s.Conforms Value.IsAtom False) ∧
        ∀ s ∈ program, s.Conforms (fun v => v.renumbered.text = v.text) False := by
  constructor
  · rintro ⟨result, accepted, same⟩
    have atoms := isAtom_of_read_text_eq unbroken accepted same
    obtain rfl : numbered Value.asRead program = result :=
      Except.ok.inj ((read_text_of_isAtom atoms).symm.trans accepted)
    exact ⟨atoms, (text_numbered_asRead_eq_iff atoms).1 same⟩
  · rintro ⟨atoms, alike⟩
    exact ⟨_, read_text_of_isAtom atoms, (text_numbered_asRead_eq_iff atoms).2 alike⟩

end Program

/-! ## Tokens that carry values -/

/-- The token without the value that it carries. -/
def Token.bare (token : Token) : Token := { token with literal := none }

theorem Expr.nodes_map (token : Token → Token) (value : Value → Value) (e : Expr) :
    (e.map token value).nodes = e.nodes.map (·.map token value) := by
  induction e with
  | assign name e ih => simp [map, nodes, ih]
  | binary left operator right leftHypothesis rightHypothesis =>
    simp [map, nodes, leftHypothesis, rightHypothesis]
  | grouping inner ih => simp [map, nodes, ih]
  | literal v => rfl
  | unary operator operand ih => simp [map, nodes, ih]
  | reference name => rfl

theorem Expr.literal_mem_nodes_map_id {token : Token → Token} {v : Value} {e : Expr} :
    .literal v ∈ (e.map token id).nodes ↔ .literal v ∈ e.nodes := by
  rw [nodes_map, List.mem_map]
  constructor
  · rintro ⟨node, member, same⟩
    cases node <;> cases same
    exact member
  · exact fun member => ⟨_, member, rfl⟩

namespace Program

/-- The program without the values that its tokens carry. -/
def bare (program : Program) : Program := program.map (Stmt.map Token.bare id)

theorem text_bare (program : Program) : text (bare program) = text program := by
  apply text_congr
  rw [bare, List.map_map]
  refine List.map_congr_left fun s _ => ?_
  have sameText : (s.map Token.bare id).text = (s.map id id).text := by
    refine Stmt.text_map (fun token => ?_) (fun v => rfl) s
    rfl
  rw [Function.comp_apply, sameText, Stmt.map_id]

/-- A class that is a matter of strings is a matter of the strings in the program. -/
theorem conforms_bare_iff {literals others : Value → Prop} {strings : String → Prop}
    {program : Program} (conforms : ∀ s ∈ bare program, s.Conforms literals False)
    (same : ∀ v, literals v → (others v ↔ ∀ word, v = .string word → strings word)) :
    (∀ s ∈ bare program, s.Conforms others False) ↔
      ∀ s ∈ program, ∀ word, .literal (.string word) ∈ s.body.nodes → strings word := by
  have literalsIn : ∀ s ∈ bare program, ∀ v, .literal v ∈ s.body.nodes → literals v :=
    fun s member => (conforms s member).iff_literals.1 (conforms s member)
  rw [forall₂_congr fun s member => (conforms s member).iff_literals]
  constructor
  · intro all s member word isLiteral
    have inBare : .literal (.string word) ∈ (s.map Token.bare id).body.nodes := by
      rwa [Stmt.body_map, Expr.literal_mem_nodes_map_id]
    have isMember : s.map Token.bare id ∈ bare program := List.mem_map_of_mem member
    exact (same _ (literalsIn _ isMember _ inBare)).1 (all _ isMember _ inBare) word rfl
  · intro all s member v isLiteral
    rw [same v (literalsIn s member v isLiteral)]
    rintro word rfl
    obtain ⟨original, isOriginal, rfl⟩ := List.mem_map.1 member
    rw [Stmt.body_map, Expr.literal_mem_nodes_map_id] at isLiteral
    exact all original isOriginal word isLiteral

theorem print_eq_iff {program other : Program} :
    Printer.print {} program = Printer.print {} other ↔ text program = text other := by
  rw [Printer.print_plain other, Printer.print_plain_eq_iff]

end Program

/-- The text of a program without references is read back and printed alike exactly if no string in it
is empty, and every string that is a numeral is written as the number it stands for is.  The reader
takes the text of every program whose strings are not empty. -/
theorem read_printed_strings {program : Program}
    (conforms : ∀ s ∈ program.bare, s.Conforms Value.IsUnbroken False) :
    Printer.print {} program =
        (.ok (), { sink := { stored := (Program.text program).toUTF8.data, flushes := 1 } }) ∧
      ((∀ s ∈ program, ∀ word, .literal (.string word) ∈ s.body.nodes → word ≠ "") →
        ∃ result, Program.read (Program.text program) = .ok result) ∧
      ((∃ result, Program.read (Program.text program) = .ok result ∧
          Printer.print {} result = Printer.print {} program) ↔
        ∀ s ∈ program, ∀ word, .literal (.string word) ∈ s.body.nodes →
          word ≠ "" ∧ ∀ x, Number.read? word = some x → Number.text Number.plain x = word) := by
  have atoms : (∀ s ∈ program.bare, s.Conforms Value.IsAtom False) ↔
      ∀ s ∈ program, ∀ word, .literal (.string word) ∈ s.body.nodes → word ≠ "" :=
    Program.conforms_bare_iff conforms fun _ unbroken => unbroken.isAtom_iff
  have alike : (∀ s ∈ program.bare, s.Conforms (fun v => v.renumbered.text = v.text) False) ↔
      ∀ s ∈ program, ∀ word, .literal (.string word) ∈ s.body.nodes →
        ∀ x, Number.read? word = some x → Number.text Number.plain x = word :=
    Program.conforms_bare_iff conforms fun _ _ => Value.text_renumbered_eq_iff
  refine ⟨Printer.print_plain program, fun nonempty => ?_, ?_⟩
  · rw [← Program.text_bare]
    exact ⟨_, Program.read_text_of_isAtom (atoms.2 nonempty)⟩
  · simp only [Program.print_eq_iff]
    rw [← Program.text_bare program, Program.exists_read_text_eq_iff conforms, atoms, alike]
    simp only [← forall_and]

/-- A word that is a keyword and one that is a numeral are no strings any more when they come back, but
they are written alike. -/
theorem read_printed_keyword_and_numeral :
    (∀ s ∈ Program.bare [.printSum (.string "nil") (.string "7")],
        s.Conforms Value.IsUnbroken False) ∧
      ∃ result,
        Program.read (Program.text [.printSum (.string "nil") (.string "7")]) = .ok result ∧
        Printer.print {} result = Printer.print {} [.printSum (.string "nil") (.string "7")] := by
  have conforms : ∀ s ∈ Program.bare [.printSum (.string "nil") (.string "7")],
      s.Conforms Value.IsUnbroken False := by
    intro s member
    obtain rfl := List.mem_singleton.1 member
    exact ⟨Value.isUnbroken_string (by decide), ⟨.plus, rfl⟩, Value.isUnbroken_string (by decide)⟩
  have noNumeral : Number.read? "nil" = none := rfl
  have seven : (Number.read? "7").map (Number.text Number.plain) = some "7" := by decide +kernel
  refine ⟨conforms, (read_printed_strings conforms).2.2.2 ?_⟩
  intro s member word isLiteral
  obtain rfl := List.mem_singleton.1 member
  have either : word = "nil" ∨ word = "7" := by
    simpa [Stmt.printSum, Stmt.body, Expr.nodes] using isLiteral
  rcases either with rfl | rfl
  · refine ⟨by decide, fun x isNumeral => ?_⟩
    rw [noNumeral] at isNumeral
    cases isNumeral
  · refine ⟨by decide, fun x isNumeral => ?_⟩
    rw [isNumeral] at seven
    exact Option.some.inj seven

/-- A string, printed. -/
def Stmt.printString (word : String) : Stmt := .print (.literal (.string word))

/-- Leading zeros are lost, and an empty string leaves its form without an operand. -/
theorem read_printed_padded_and_empty :
    (∀ word ∈ ["007", ""], ∀ s ∈ Program.bare [.printString word],
        s.Conforms Value.IsUnbroken False) ∧
      (∃ result,
        Program.read (Program.text [.printString "007"]) = .ok result ∧
        Program.text [.printString "007"] = "(print 007)\n" ∧
        Program.text result = "(print 7)\n" ∧
        Printer.print {} result ≠ Printer.print {} [.printString "007"]) ∧
      Program.read (Program.text [.printString ""]) = .error (.unexpectedClose 1) := by
  have padded : Piece.ofSource "(print 007)\n" =
      formPieces 1 1 1 "print" [⟨.atom "007", 1⟩] ++ [] := by
    decide +kernel
  have empty : Piece.ofSource "(print )\n" =
      [⟨.opening, 1⟩, ⟨.atom "print", 1⟩, ⟨.closing, 1⟩] := by
    decide +kernel
  have paddedText : Program.text [.printString "007"] = "(print 007)\n" := by decide +kernel
  have emptyText : Program.text [.printString ""] = "(print )\n" := by decide +kernel
  have renumbered : Program.text [.print (.literal (Atom.value "007"))] = "(print 7)\n" := by
    decide +kernel
  refine ⟨?_, ⟨[.print (.literal (Atom.value "007"))], ?_, paddedText, renumbered, ?_⟩, ?_⟩
  · intro word isWord s member
    obtain rfl := List.mem_singleton.1 member
    have either : word = "007" ∨ word = "" := by simpa using isWord
    rcases either with rfl | rfl
    · exact Value.isUnbroken_string (by decide)
    · exact Value.isUnbroken_string (by decide)
  · rw [paddedText, programRead_eq_ok_iff, padded]
    exact .cons (.print 1 1 1 (.literal "007" 1)) .nil
  · rw [Ne, Program.print_eq_iff, paddedText, renumbered]
    decide
  · rw [emptyText, Program.read, empty]
    exact program_of_failure (by simp) rfl

end LoxForms
