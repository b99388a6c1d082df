import LoxForms.Text.Ranges

/-! # Blank characters

The Unicode property `White_Space`.
-/

namespace LoxForms.Text

/-- The ranges of the property, in increasing order. -/
def blankRanges : List (Nat × Nat) :=
  [
    (0x0009, 0x000d), (0x0020, 0x0020), (0x0085, 0x0085), (0x00a0, 0x00a0), (0x1680, 0x1680),
    (0x2000, 0x200a), (0x2028, 0x2029), (0x202f, 0x202f), (0x205f, 0x205f), (0x3000, 0x3000)
  ]

def isBlank (c : Char) : Bool := within blankRanges c

end LoxForms.Text
