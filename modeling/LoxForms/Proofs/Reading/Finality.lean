import LoxForms.Proofs.Splitting
import LoxForms.Proofs.Reading.Positions

/-! # Errors that no further text takes back

A reader takes one piece after the other and knows nothing of those that come later.  So if it fails on
a piece, it fails on the same piece in a longer text, and only a text that ended too early can be
continued (`read_error_final`).  The text that is added must not continue an atom: the atom would be
another one, and the error with it.
-/

namespace LoxForms

open Piece

/-! ## Further pieces -/

namespace Reading

variable {pieces : List LocatedPiece} {failure : ReadError}

section Consume

variable {σ α : Type} {step : σ → LocatedPiece → Except ReadError (Progress σ α)} {state : σ}

theorem consume_append_of_ok {rest : List LocatedPiece} {result : α}
    (consumed : consume step state pieces = .ok (result, rest)) (more : List LocatedPiece) :
    consume step state (pieces ++ more) = .ok (result, rest ++ more) := by
  fun_induction consume step state pieces with
  | case1 => cases consumed
  | case2 => cases consumed
  | case3 state located others next stepped ih =>
    rw [List.cons_append, consume_cons stepped]
    exact ih consumed
  | case4 state located others last stepped =>
    cases consumed
    exact consume_cons stepped _

theorem consume_append_of_error (failed : consume step state pieces = .error failure)
    (onPiece : failure ≠ .prematureTermination) (more : List LocatedPiece) :
    consume step state (pieces ++ more) = .error failure := by
  fun_induction consume step state pieces with
  | case1 =>
    cases failed
    exact absurd rfl onPiece
  | case2 state located others early stepped =>
    cases failed
    exact consume_cons_error stepped _
  | case3 state located others next stepped ih =>
    rw [List.cons_append, consume_cons stepped]
    exact ih failed
  | case4 => cases failed

end Consume

theorem Position.eq_of_finish_eq_error {position : Position}
    (failed : position.finish = .error failure) : failure = .prematureTermination := by
  unfold finish at failed
  split at failed
  next => cases failed
  next => cases failed; rfl

theorem program_append_of_error (failed : program pieces = .error failure)
    (onPiece : failure ≠ .prematureTermination) (more : List LocatedPiece) :
    program (pieces ++ more) = .error failure := by
  rw [program_eq_finish] at failed ⊢
  rw [Position.advanceAll_append]
  cases ran : Position.start.advanceAll pieces with
  | error early =>
    rw [ran] at failed
    exact failed
  | ok position =>
    rw [ran] at failed
    exact absurd (Position.eq_of_finish_eq_error failed) onPiece

end Reading

/-! ## Further text -/

section Text

variable {source text : String} {failure : ReadError}

/-- A text that begins with a delimiter adds pieces and changes none. -/
theorem ofSource_append (starts : ∀ c ∈ text.toList.head?, isAtomic c = false) :
    ofSource (source ++ text) =
      ofSource source ++ split (lineAfterAll 1 source.toList) text.toList := by
  rw [ofSource, String.toList_append]
  exact split_append (.inr starts) 1

theorem exprRead_eq_error_iff :
    Expr.read source = .error failure ↔
      Reading.expression (ofSource source) = .error failure ∨
        ∃ e extra others, Reading.expression (ofSource source) = .ok (e, extra :: others) ∧
          failure = .trailingInput extra.line := by
  unfold Expr.read
  split
  next failed => simp [failed]
  next found => simp [found]
  next e extra others found =>
    rw [found]
    constructor
    · rintro ⟨⟩
      exact .inr ⟨e, extra, others, rfl, rfl⟩
    · rintro (⟨⟨⟩⟩ | ⟨_, _, _, ⟨⟩, rfl⟩)
      rfl

/-- An error on a piece of a text stays the same, with its line, in every text that continues it
with a parenthesis or a blank. -/
theorem read_error_final
    (starts : ∀ c ∈ text.toList.head?, c = '(' ∨ c = ')' ∨ Text.isBlank c = true)
    (onPiece : failure ≠ .prematureTermination) :
    (Program.read source = .error failure → Program.read (source ++ text) = .error failure) ∧
      (Expr.read source = .error failure → Expr.read (source ++ text) = .error failure) := by
  have delimiter : ∀ c ∈ text.toList.head?, isAtomic c = false := by
    intro c first
    rcases starts c first with rfl | rfl | blank
    · decide
    · decide
    · exact isAtomic_of_isBlank blank
  constructor
  · intro failed
    rw [Program.read, ofSource_append delimiter]
    exact Reading.program_append_of_error failed onPiece _
  · intro failed
    rw [exprRead_eq_error_iff] at failed ⊢
    rw [ofSource_append delimiter]
    rcases failed with failed | ⟨e, extra, others, found, rfl⟩
    · exact .inl (Reading.consume_append_of_error failed onPiece _)
    · exact .inr ⟨e, extra, others ++ _, Reading.consume_append_of_ok found _, rfl⟩

/-- A second operand of `print` is one too many before the form is closed, and stays so; and behind
an unknown form it is not the second form that is reported. -/
theorem read_error_final_in_open_form :
    Program.read "\n(print 1 2" = .error (.wrongArity "print" 2 2) ∧
      Program.read ("\n(print 1 2" ++ ")\n(prin") = .error (.wrongArity "print" 2 2) ∧
      Expr.read "(foo 1)" = .error (.unknownForm "foo" 1) ∧
      Expr.read ("(foo 1)" ++ " (bar)") = .error (.unknownForm "foo" 1) := by
  have statement : Program.read "\n(print 1 2" = .error (.wrongArity "print" 2 2) := by
    have pieces : ofSource "\n(print 1 2" =
        [⟨.opening, 2⟩, ⟨.atom "print", 2⟩, ⟨.atom "1", 2⟩, ⟨.atom "2", 2⟩] := by
      decide +kernel
    rw [Program.read, pieces]
    exact Reading.program_of_failure (by simp) rfl
  have expression : Expr.read "(foo 1)" = .error (.unknownForm "foo" 1) := by
    have pieces : ofSource "(foo 1)" =
        [⟨.opening, 1⟩, ⟨.atom "foo", 1⟩, ⟨.atom "1", 1⟩, ⟨.closing, 1⟩] := by
      decide +kernel
    rw [Expr.read, pieces]
    rfl
  refine ⟨statement, (read_error_final ?_ (by simp)).1 statement,
    expression, (read_error_final ?_ (by simp)).2 expression⟩
  · rintro _ ⟨⟩
    exact .inr (.inl rfl)
  · rintro _ ⟨⟩
    exact .inr (.inr rfl)

end Text

end LoxForms
