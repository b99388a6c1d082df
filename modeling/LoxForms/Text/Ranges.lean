/-! # Classes of characters given by ranges of code points -/

namespace LoxForms.Text

/-- Whether the code point of `c` lies in one of the ranges, ends included. -/
def within (ranges : List (Nat × Nat)) (c : Char) : Bool :=
  ranges.any fun range => decide (range.1 ≤ c.toNat) && decide (c.toNat ≤ range.2)

end LoxForms.Text
