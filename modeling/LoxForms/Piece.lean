import LoxForms.Text.Blank

/-! # Pieces of a source text

A source text is made of parentheses and atoms.  An atom is as long a run as possible of characters
that are neither parentheses nor blank, so every text can be split; blank characters only keep
atoms apart and, where they are line feeds, count lines.
-/

namespace LoxForms

inductive Piece where
  | opening
  | closing
  | atom (text : String)
deriving DecidableEq, Repr

/-- A piece and the line it stands on, counted from one. -/
structure LocatedPiece where
  piece : Piece
  line : UInt32
deriving DecidableEq, Repr

namespace Piece

def isAtomic (c : Char) : Bool := c != '(' && c != ')' && !Text.isBlank c

/-- The line after the character, on the line of the character. -/
def lineAfter (line : UInt32) (c : Char) : UInt32 := if c = '\n' then line + 1 else line

/-- The pieces of a text that begins on the given line. -/
def split (line : UInt32) : List Char → List LocatedPiece
  | [] => []
  | c :: cs =>
    if c = '(' then ⟨.opening, line⟩ :: split line cs
    else if c = ')' then ⟨.closing, line⟩ :: split line cs
    else if Text.isBlank c then split (lineAfter line c) cs
    else
      ⟨.atom (String.ofList (c :: cs.takeWhile isAtomic)), line⟩ ::
        split line (cs.dropWhile isAtomic)
termination_by cs => cs.length
decreasing_by
  all_goals simp only [List.length_cons]
  · omega
  · omega
  · omega
  · exact Nat.lt_succ_of_le (List.dropWhile_sublist isAtomic).length_le

def ofSource (source : String) : List LocatedPiece := split 1 source.toList

end Piece

end LoxForms
