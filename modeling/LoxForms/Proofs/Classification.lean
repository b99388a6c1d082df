import LoxForms.Proofs.Equality
import LoxForms.Proofs.References
import LoxForms.Proofs.Spelling

/-! # What atoms stand for, and what is read

An atom stands for a number if it is a numeral, for `nil` or a truth value if it is the word for it,
and otherwise for itself (`classification_of_atoms`).  As no word for what is not finite is a numeral,
no number that is read is NaN, and the tokens that are read have no literals at all.
-/

namespace LoxForms

/-! ## Atoms -/

namespace Atom

theorem value_eq_number_iff {atom : String} {x : Float} :
    value atom = .number x ↔ Number.read? atom = some x :=
  ⟨read?_of_value_eq, value_of_read?⟩

theorem exists_value_eq_number_iff {atom : String} :
    (∃ x, value atom = .number x) ↔ atom.toList ∈ Spelling.numeral.matches' := by
  simp only [value_eq_number_iff, ← Option.isSome_iff_exists, Spelling.isSome_read?_iff]

theorem value_eq_nil_iff {atom : String} : value atom = .nil ↔ atom = "nil" := by
  refine ⟨fun stands => ?_, fun same => same ▸ rfl⟩
  unfold value at stands
  split at stands
  next => rfl
  next => cases stands
  next => cases stands
  next => split at stands <;> cases stands

theorem value_eq_boolean_iff {atom : String} {truth : Bool} :
    value atom = .boolean truth ↔ atom = Value.booleanText truth := by
  refine ⟨fun stands => ?_, fun same => ?_⟩
  · unfold value at stands
    split at stands
    next => cases stands
    next =>
      cases stands
      rfl
    next =>
      cases stands
      rfl
    next => split at stands <;> cases stands
  · rw [same]
    cases truth <;> rfl

theorem value_eq_string_iff {atom word : String} :
    value atom = .string word ↔
      word = atom ∧ atom ≠ "nil" ∧ atom ≠ "true" ∧ atom ≠ "false" ∧
        atom.toList ∉ Spelling.numeral.matches' := by
  have noNumeral : atom.toList ∉ Spelling.numeral.matches' ↔ Number.read? atom = none := by
    rw [← Spelling.isSome_read?_iff, Bool.not_eq_true, Option.isSome_eq_false_iff,
      Option.isNone_iff_eq_none]
  rw [noNumeral]
  constructor
  · intro stands
    obtain ⟨rfl, notNil, notTrue, notFalse, none⟩ := isWord_of_value_eq stands
    exact ⟨rfl, notNil, notTrue, notFalse, none⟩
  · rintro ⟨rfl, isWord⟩
    exact value_of_isWord isWord

end Atom

/-! ## What is read -/

theorem Token.isEqual_self_of_literal_eq_none {token : Token} (noLiteral : token.literal = none) :
    token.IsEqual token := by
  rw [isEqual_self_iff, noLiteral]
  rintro x ⟨⟩

theorem Value.IsReadable.isEqual_self {value : Value} (readable : value.IsReadable) :
    value.IsEqual value := by
  rw [isEqual_self_iff]
  rintro x rfl
  exact readable.isNaN

namespace Expr

/-- Only references have tokens with literals in a tree of tokens as the reader makes them. -/
theorem Conforms.literal_eq_none {literals : Value → Prop} {e : Expr}
    (conforms : e.Conforms literals False) {token : Token} (member : token ∈ e.tokens) :
    token.literal = none := by
  induction e with
  | assign name value ih =>
    rcases List.mem_cons.1 member with rfl | below
    · exact conforms.1.2.1
    · exact ih conforms.2 below
  | binary left operator right leftHypothesis rightHypothesis =>
    rcases List.mem_cons.1 member with rfl | below
    · exact conforms.2.1.2
    · rcases List.mem_append.1 below with inLeft | inRight
      · exact leftHypothesis conforms.1 inLeft
      · exact rightHypothesis conforms.2.2 inRight
  | grouping inner ih => exact ih conforms member
  | literal value => cases member
  | unary operator operand ih =>
    rcases List.mem_cons.1 member with rfl | below
    · exact conforms.1.2
    · exact ih conforms.2 below
  | reference name => exact conforms.elim

theorem Conforms.not_hasNaN {e : Expr} (conforms : e.Conforms Value.IsReadable False) :
    ¬ e.HasNaN := by
  refine not_holdsNaN_iff.2 ⟨fun token member => ?_, fun value inLiteral => ?_⟩
  · exact Token.isEqual_self_of_literal_eq_none (conforms.literal_eq_none member)
  · have readable : value.IsReadable := conforms.of_mem_nodes inLiteral
    exact readable.isEqual_self

theorem not_hasNaN_of_read {source : String} {e : Expr} (accepted : Expr.read source = .ok e) :
    ¬ e.HasNaN :=
  ((Reading.exprRead_eq_ok_iff.1 accepted).conforms (Reading.allAtoms_ofSource source)).not_hasNaN

end Expr

theorem Stmt.Conforms.not_hasNaN {s : Stmt} (conforms : s.Conforms Value.IsReadable False) :
    ¬ s.HasNaN := by
  have ofBody := not_holdsNaN_iff.1 conforms.body.not_hasNaN
  refine not_holdsNaN_iff.2 ⟨?_, ofBody.2⟩
  cases s with
  | expression e | print e => exact ofBody.1
  | declaration name e =>
    have ofName := Token.isEqual_self_of_literal_eq_none conforms.1.2.1
    exact List.forall_mem_cons.2 ⟨ofName, ofBody.1⟩

theorem Program.not_hasNaN_of_read {source : String} {program : Program}
    (accepted : Program.read source = .ok program) : ¬ program.HasNaN := by
  rintro ⟨s, member, holdsNaN⟩
  exact (Program.conforms_of_read accepted s member).not_hasNaN holdsNaN

/-- An atom is a number if it is a numeral, which is an optional minus, digits, optionally a point and
more digits, and optionally an exponent.  It is `nil` or a truth value if it is the word for it, and
any other atom is the string of its characters.  So an atom is no number if it is a word for an
infinity or for NaN, in letters of any case and with a sign or without, if it begins with a plus or a
point, or if any of its characters is not ASCII; and NaN is in no tree that is read. -/
theorem classification_of_atoms :
    (∀ atom : String,
      ((∃ x, Atom.value atom = .number x) ↔ atom.toList ∈ Spelling.numeral.matches') ∧
      (Atom.value atom = .nil ↔ atom = "nil") ∧
      (∀ truth, Atom.value atom = .boolean truth ↔ atom = if truth then "true" else "false") ∧
      ∀ word, Atom.value atom = .string word ↔
        word = atom ∧ atom ≠ "nil" ∧ atom ≠ "true" ∧ atom ≠ "false" ∧
          atom.toList ∉ Spelling.numeral.matches') ∧
    (∀ (atom : String) (x : Float), Atom.value atom = .number x →
      atom.toList ∉ (Spelling.optional Spelling.sign * Spelling.special).matches' ∧
      atom.toList.head? ≠ some '+' ∧ atom.toList.head? ≠ some '.' ∧
      ∀ c ∈ atom.toList, c.toNat < 128) ∧
    (∀ (source : String) (e : Expr), Expr.read source = .ok e → ¬ e.HasNaN) ∧
    ∀ (source : String) (program : Program), Program.read source = .ok program →
      ¬ program.HasNaN := by
  refine ⟨fun atom => ?_, fun atom x stands => ?_, fun source e => Expr.not_hasNaN_of_read,
    fun source program => Program.not_hasNaN_of_read⟩
  · exact ⟨Atom.exists_value_eq_number_iff, Atom.value_eq_nil_iff,
      fun truth => Atom.value_eq_boolean_iff, fun word => Atom.value_eq_string_iff⟩
  · have member := Atom.exists_value_eq_number_iff.1 ⟨x, stands⟩
    obtain ⟨first, head, start⟩ := Spelling.head?_of_mem_numeral member
    refine ⟨Spelling.not_mem_special_of_mem_numeral member, ?_, ?_, fun c inside =>
      Spelling.toNat_lt_of_mem_numeral member inside⟩
    · rw [head]
      rintro ⟨⟩
      simp at start
    · rw [head]
      rintro ⟨⟩
      simp at start

/-- `-1.e+5` is a number, and it is read without NaN; `1e+` is a string, and so is `-NaN`. -/
theorem classification_of_numerals_and_words :
    (∃ x, Atom.value "-1.e+5" = .number x ∧ "-1.e+5".toList.head? ≠ some '+') ∧
    Atom.value "1e+" = .string "1e+" ∧ (∀ x, Atom.value "-NaN" ≠ .number x) ∧
    (∃ e, Expr.read "(- -1.e+5)" = .ok e ∧ ¬ e.HasNaN) ∧
    ∃ program, Program.read "(print -1.e+5)" = .ok program ∧ ¬ program.HasNaN := by
  obtain ⟨classes, numbers, readExpr, readProgram⟩ := classification_of_atoms
  obtain ⟨x, stands⟩ := (classes "-1.e+5").1.2 (by decide)
  have word : Atom.value "1e+" = .string "1e+" :=
    ((classes "1e+").2.2.2 "1e+").2 ⟨rfl, by decide, by decide, by decide, by decide⟩
  have negation : Expr.read "(- -1.e+5)" =
      .ok (.unary ⟨.minus, "-", none, 1⟩ (.literal (Atom.value "-1.e+5"))) := by
    have pieces : Piece.ofSource "(- -1.e+5)" =
        Reading.formPieces 1 1 1 "-" [⟨.atom "-1.e+5", 1⟩] := by
      decide +kernel
    rw [Reading.exprRead_eq_ok_iff, pieces]
    exact .unary 1 1 1 .minus (.literal "-1.e+5" 1)
  have print : Program.read "(print -1.e+5)" =
      .ok [.print (.literal (Atom.value "-1.e+5"))] := by
    have pieces : Piece.ofSource "(print -1.e+5)" =
        Reading.formPieces 1 1 1 "print" [⟨.atom "-1.e+5", 1⟩] ++ [] := by
      decide +kernel
    rw [Reading.programRead_eq_ok_iff, pieces]
    exact .cons (.print 1 1 1 (.literal "-1.e+5" 1)) .nil
  exact ⟨⟨x, stands, (numbers _ x stands).2.1⟩, word,
    fun y isNumber => (numbers _ y isNumber).1 (by decide),
    ⟨_, negation, readExpr _ _ negation⟩, _, print, readProgram _ _ print⟩

end LoxForms
