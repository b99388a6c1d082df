import LoxForms.Proofs.Reading.Positions

/-! # Parentheses in what has been read

What derives a tree closes every form that it opens.  So the pieces that lead a reader to a state open
as many more forms than they close as there are forms around that state (`Reached.leavesOpen`,
`ReachedStmt.leavesOpen`).  A form that derives a tree is open from its first piece to its last
(`IsBracketed.enclosed`).
-/

namespace LoxForms.Reading

def openings (pieces : List LocatedPiece) : Nat := pieces.countP (·.piece == .opening)

def closings (pieces : List LocatedPiece) : Nat := pieces.countP (·.piece == .closing)

/-- The pieces open so many more forms than they close. -/
def LeavesOpen (depth : Nat) (pieces : List LocatedPiece) : Prop :=
  openings pieces = closings pieces + depth

section LeavesOpen

variable {depth more : Nat} {pieces others : List LocatedPiece}

theorem leavesOpen_nil : LeavesOpen 0 [] := rfl

theorem leavesOpen_opening (line : UInt32) : LeavesOpen 1 [⟨.opening, line⟩] := rfl

theorem leavesOpen_atom (text : String) (line : UInt32) : LeavesOpen 0 [⟨.atom text, line⟩] := rfl

theorem LeavesOpen.append (first : LeavesOpen depth pieces) (second : LeavesOpen more others) :
    LeavesOpen (depth + more) (pieces ++ others) := by
  unfold LeavesOpen openings closings at *
  rw [List.countP_append, List.countP_append]
  omega

theorem LeavesOpen.atom (first : LeavesOpen depth pieces) (text : String) (line : UInt32) :
    LeavesOpen depth (⟨.atom text, line⟩ :: pieces) := by
  simpa using (leavesOpen_atom text line).append first

/-- A form closes itself. -/
theorem leavesOpen_formPieces (balanced : LeavesOpen 0 pieces) (opens line closes : UInt32)
    (head : String) : LeavesOpen 0 (formPieces opens line closes head pieces) := by
  unfold LeavesOpen openings closings at *
  simp [formPieces, balanced]

end LeavesOpen

/-! ## Derivations -/

variable {taken pieces : List LocatedPiece}

theorem DerivesExpr.leavesOpen {e : Expr} (derived : DerivesExpr pieces e) :
    LeavesOpen 0 pieces := by
  induction derived with
  | literal text line => exact leavesOpen_atom text line
  | grouping opens line closes _ ih => exact leavesOpen_formPieces ih opens line closes "group"
  | assign opens line nameLine closes _ _ ih =>
    exact leavesOpen_formPieces (ih.atom _ nameLine) opens line closes "="
  | unary opens line closes _ _ ih => exact leavesOpen_formPieces ih opens line closes _
  | binary opens line closes _ _ _ leftHypothesis rightHypothesis =>
    exact leavesOpen_formPieces (leftHypothesis.append rightHypothesis) opens line closes _

theorem DerivesStmt.leavesOpen {s : Stmt} (derived : DerivesStmt pieces s) :
    LeavesOpen 0 pieces := by
  cases derived with
  | expression opens line closes body =>
    exact leavesOpen_formPieces body.leavesOpen opens line closes "expr"
  | print opens line closes body =>
    exact leavesOpen_formPieces body.leavesOpen opens line closes "print"
  | declaration opens line nameLine closes _ body =>
    exact leavesOpen_formPieces (body.leavesOpen.atom _ nameLine) opens line closes "var"

theorem DerivesProgram.leavesOpen {program : Program} (derived : DerivesProgram pieces program) :
    LeavesOpen 0 pieces := by
  induction derived with
  | nil => exact leavesOpen_nil
  | cons statement _ ih => exact statement.leavesOpen.append ih

/-! ## States of a reader -/

theorem Opened.leavesOpen {frames : List Frame} (opened : Opened taken frames) :
    LeavesOpen frames.length taken := by
  induction opened with
  | outermost => exact leavesOpen_nil
  | value opens line nameLine _ _ ih =>
    exact ih.append ((leavesOpen_opening opens).append
      ((leavesOpen_atom _ nameLine).atom "=" line))
  | head opens line _ _ ih =>
    exact ih.append ((leavesOpen_opening opens).append (leavesOpen_atom _ line))
  | operand _ derived ih => exact ih.append derived.leavesOpen

theorem Reached.leavesOpen {state : ExprState} (reached : Reached taken state) :
    LeavesOpen state.depth taken := by
  cases reached with
  | expression opened => exact opened.leavesOpen
  | formHead opens opened => exact opened.leavesOpen.append (leavesOpen_opening opens)
  | target opens line opened =>
    exact opened.leavesOpen.append ((leavesOpen_opening opens).append (leavesOpen_atom "=" line))
  | close opened derived => exact opened.leavesOpen.append derived.leavesOpen

theorem OpenedShape.leavesOpen {shape : Shape} {line : UInt32}
    (opened : OpenedShape taken shape line) : LeavesOpen 1 taken := by
  cases opened <;> rfl

theorem ReachedStmt.leavesOpen {state : StmtState} (reached : ReachedStmt taken state) :
    LeavesOpen state.depth taken := by
  cases reached with
  | opening => exact leavesOpen_nil
  | formHead opens => exact leavesOpen_opening opens
  | target => rfl
  | @body _ _ _ _ inner opened reached =>
    rw [StmtState.depth, Nat.add_comm]
    exact opened.leavesOpen.append reached.leavesOpen
  | close opened derived => exact opened.leavesOpen.append derived.leavesOpen

/-! ## Prefixes of what has been read -/

section Prefixes

variable {pieces others before : List LocatedPiece} {opens line closes : UInt32} {head : String}

/-- Up to no place do the pieces close more forms than they open. -/
def ClosesOpened (pieces : List LocatedPiece) : Prop :=
  ∀ before, before <+: pieces → closings before ≤ openings before

theorem closesOpened_nil : ClosesOpened [] := by
  intro before isPrefix
  rw [List.prefix_nil.1 isPrefix]
  exact Nat.le_refl 0

theorem ClosesOpened.atom (closes : ClosesOpened pieces) (text : String) (line : UInt32) :
    ClosesOpened (⟨.atom text, line⟩ :: pieces) := by
  intro before isPrefix
  rcases List.prefix_cons_iff.1 isPrefix with rfl | ⟨rest, rfl, within⟩
  · exact Nat.le_refl 0
  · simpa [closings, openings] using closes rest within

theorem ClosesOpened.append (first : ClosesOpened pieces) (second : ClosesOpened others) :
    ClosesOpened (pieces ++ others) := by
  intro before isPrefix
  rcases List.prefix_or_prefix_of_prefix isPrefix (List.prefix_append pieces others) with
    within | ⟨rest, rfl⟩
  · exact first before within
  · have whole := first pieces (List.prefix_refl pieces)
    have behind := second rest ((List.prefix_append_right_inj pieces).1 isPrefix)
    simp only [closings, openings, List.countP_append] at whole behind ⊢
    omega

/-- Only its last piece closes a form. -/
theorem ClosesOpened.closings_lt (inside : ClosesOpened pieces)
    (isPrefix : before <+: formPieces opens line closes head pieces) (nonempty : before ≠ [])
    (proper : before ≠ formPieces opens line closes head pieces) :
    closings before < openings before := by
  rcases List.prefix_concat_iff.1 isPrefix with whole | isPrefix
  · exact absurd whole proper
  · rcases List.prefix_cons_iff.1 isPrefix with rfl | ⟨rest, rfl, within⟩
    · exact absurd rfl nonempty
    · have behind := inside.atom head line rest within
      simp only [closings, openings] at behind ⊢
      simpa using Nat.lt_succ_of_le behind

/-- The pieces close as many forms as they open, and if they begin with a form, that one is open at
every place between them. -/
structure Enclosed (pieces : List LocatedPiece) : Prop where
  balanced : openings pieces = closings pieces
  closings_lt : ∀ opens before, pieces.head? = some ⟨.opening, opens⟩ → before <+: pieces →
    before ≠ [] → before ≠ pieces → closings before < openings before

/-- An atom, or a form around pieces that close what they open. -/
inductive IsBracketed : List LocatedPiece → Prop where
  | atom (text : String) (line : UInt32) : IsBracketed [⟨.atom text, line⟩]
  | form (opens line closes : UInt32) (head : String) {pieces : List LocatedPiece}
      (balanced : LeavesOpen 0 pieces) (inside : ClosesOpened pieces) :
      IsBracketed (formPieces opens line closes head pieces)

theorem IsBracketed.enclosed (bracketed : IsBracketed pieces) : Enclosed pieces := by
  cases bracketed with
  | atom text line => exact ⟨rfl, by simp⟩
  | form opens line closes head balanced inside =>
    exact ⟨leavesOpen_formPieces balanced opens line closes head, fun _ _ _ => inside.closings_lt⟩

theorem IsBracketed.closesOpened (bracketed : IsBracketed pieces) : ClosesOpened pieces := by
  intro before isPrefix
  by_cases whole : before = pieces
  · rw [whole]
    exact Nat.le_of_eq bracketed.enclosed.balanced.symm
  · cases bracketed with
    | atom text line => exact closesOpened_nil.atom text line before isPrefix
    | form _ line closes head _ inside =>
      by_cases empty : before = []
      · rw [empty]
        exact Nat.le_refl 0
      · exact Nat.le_of_lt (inside.closings_lt isPrefix empty whole)

end Prefixes

theorem DerivesExpr.isBracketed {pieces : List LocatedPiece} {e : Expr}
    (derived : DerivesExpr pieces e) : IsBracketed pieces := by
  induction derived with
  | literal text line => exact .atom text line
  | grouping opens line closes operand ih =>
    exact .form opens line closes _ operand.leavesOpen ih.closesOpened
  | assign opens line nameLine closes _ operand ih =>
    exact .form opens line closes _ (operand.leavesOpen.atom _ nameLine)
      (ih.closesOpened.atom _ nameLine)
  | unary opens line closes _ operand ih =>
    exact .form opens line closes _ operand.leavesOpen ih.closesOpened
  | binary opens line closes _ left right leftHypothesis rightHypothesis =>
    exact .form opens line closes _ (left.leavesOpen.append right.leavesOpen)
      (leftHypothesis.closesOpened.append rightHypothesis.closesOpened)

theorem DerivesStmt.isBracketed {pieces : List LocatedPiece} {s : Stmt}
    (derived : DerivesStmt pieces s) : IsBracketed pieces := by
  cases derived with
  | expression opens line closes body | print opens line closes body =>
    exact .form opens line closes _ body.leavesOpen body.isBracketed.closesOpened
  | declaration opens line nameLine closes _ body =>
    exact .form opens line closes _ (body.leavesOpen.atom _ nameLine)
      (body.isBracketed.closesOpened.atom _ nameLine)

end LoxForms.Reading
