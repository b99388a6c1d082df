import LoxForms.Reading.Statement

/-! # Reading source texts

The inverse of rendering without folding, as far as there is one: references to variables leave
nothing to be read, and a string is read back only if it is an atom that stands for itself.
-/

namespace LoxForms

/-- The program that a text consists of. -/
def Program.read (source : String) : Except ReadError Program :=
  Reading.program (Piece.ofSource source)

/-- The one expression that a text consists of. -/
def Expr.read (source : String) : Except ReadError Expr :=
  match Reading.expression (Piece.ofSource source) with
  | .error failure => .error failure
  | .ok (e, []) => .ok e
  | .ok (_, extra :: _) => .error (.trailingInput extra.line)

end LoxForms
