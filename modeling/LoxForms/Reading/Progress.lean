import LoxForms.Piece
import LoxForms.Reading.Error

/-! # Reading piece by piece

A reader is given by what it does with one piece: it fails, goes on in another state, or has
finished.  `consume` feeds it pieces until it has finished and returns those that are left over, so
what it does with a piece cannot depend on the pieces after it.
-/

namespace LoxForms.Reading

inductive Progress (σ α : Type) where
  | pending (state : σ)
  | complete (result : α)

variable {σ α : Type}

def consume (step : σ → LocatedPiece → Except ReadError (Progress σ α)) :
    σ → List LocatedPiece → Except ReadError (α × List LocatedPiece)
  | _, [] => .error .prematureTermination
  | state, piece :: rest =>
    match step state piece with
    | .error failure => .error failure
    | .ok (.pending next) => consume step next rest
    | .ok (.complete result) => .ok (result, rest)

theorem consume_shorter {step : σ → LocatedPiece → Except ReadError (Progress σ α)} {state : σ}
    {pieces rest : List LocatedPiece} {result : α}
    (consumed : consume step state pieces = .ok (result, rest)) :
    rest.length < pieces.length := by
  fun_induction consume step state pieces with
  | case1 => simp at consumed
  | case2 => simp at consumed
  | case3 state piece others next _ ih =>
    exact Nat.lt_succ_of_lt (ih consumed)
  | case4 state piece others result' _ =>
    simp only [Except.ok.injEq, Prod.mk.injEq] at consumed
    simp [consumed.2]

end LoxForms.Reading
