import LoxForms.Proofs.Splitting

/-! # Places between parentheses

A place in a text is outside every form if as many parentheses have been closed before it as opened.
Parentheses are pieces by themselves, so it does not matter whether they are counted in a text or in
its pieces (`Nesting.afterPieces_split`).
-/

namespace LoxForms

open Piece

/-- Where a place is: how many forms are open around it, and how many outermost forms end before
it. -/
structure Nesting where
  depth : Nat
  closed : Nat
deriving DecidableEq, Repr

namespace Nesting

def start : Nesting := ⟨0, 0⟩

/-- The place behind an opening parenthesis. -/
def enter (nesting : Nesting) : Nesting := { nesting with depth := nesting.depth + 1 }

/-- The place behind a closing parenthesis. -/
def leave (nesting : Nesting) : Nesting :=
  { depth := nesting.depth - 1
    closed := if nesting.depth = 1 then nesting.closed + 1 else nesting.closed }

def afterChar (nesting : Nesting) (c : Char) : Nesting :=
  if c = '(' then nesting.enter else if c = ')' then nesting.leave else nesting

def afterPiece (nesting : Nesting) : Piece → Nesting
  | .opening => nesting.enter
  | .closing => nesting.leave
  | .atom _ => nesting

def afterChars (nesting : Nesting) (cs : List Char) : Nesting := cs.foldl afterChar nesting

def afterPieces (nesting : Nesting) (pieces : List LocatedPiece) : Nesting :=
  pieces.foldl (fun nesting located => nesting.afterPiece located.piece) nesting

/-- The end of a text. -/
def ofText (text : String) : Nesting := start.afterChars text.toList

@[simp] theorem afterChars_append (nesting : Nesting) (cs others : List Char) :
    nesting.afterChars (cs ++ others) = (nesting.afterChars cs).afterChars others :=
  List.foldl_append

@[simp] theorem afterPieces_append (nesting : Nesting) (pieces others : List LocatedPiece) :
    nesting.afterPieces (pieces ++ others) = (nesting.afterPieces pieces).afterPieces others :=
  List.foldl_append

theorem afterChars_of_atomic {cs : List Char} (atomic : ∀ c ∈ cs, isAtomic c = true)
    (nesting : Nesting) : nesting.afterChars cs = nesting := by
  induction cs with
  | nil => rfl
  | cons c cs ih =>
    have solid : c ≠ '(' ∧ c ≠ ')' ∧ Text.isBlank c = false := by
      simpa [isAtomic, and_assoc] using atomic c List.mem_cons_self
    have same : nesting.afterChar c = nesting := by simp [afterChar, solid]
    rw [afterChars, List.foldl_cons, same]
    exact ih fun d member => atomic d (List.mem_cons_of_mem c member)

theorem afterPieces_delimiterPieces (nesting : Nesting) (line : UInt32) (c : Char) :
    nesting.afterPieces (delimiterPieces line c) = nesting.afterChar c := by
  unfold delimiterPieces afterChar
  split
  · rfl
  · split <;> rfl

/-- Parentheses are counted in the pieces as they are in the text. -/
theorem afterPieces_split (nesting : Nesting) (line : UInt32) (cs : List Char) :
    nesting.afterPieces (split line cs) = nesting.afterChars cs := by
  induction cs using run_induction generalizing nesting line with
  | nil => simp [afterPieces, afterChars]
  | delimiter c cs delimiter ih =>
    rw [split_delimiter delimiter, afterPieces_append, afterPieces_delimiterPieces, ih]
    rfl
  | atom c run others first inside stop ih =>
    have runAtomic : ∀ d ∈ c :: run, isAtomic d = true := by simpa [first] using inside
    rw [split_atom first inside stop, ← List.cons_append, afterChars_append,
      afterChars_of_atomic runAtomic, ← ih nesting line]
    rfl

end Nesting

end LoxForms
