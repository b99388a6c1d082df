import LoxForms.Decimal.Layout
import LoxForms.Decimal.Numeral
import LoxForms.Decimal.Shortest

/-! # Numbers as text

A number is written with the fewest digits that read back as the same float, in one of two
layouts.  Texts of floats may begin with a sign and may be words for what is not finite; a number is
read only from those that begin with a digit or with a minus and a digit.
-/

namespace LoxForms.Number

/-- Every number is written out in full, a whole one without a point. -/
def plain : Decimal.Layout where
  isFull := fun _ => true
  wholeTail := []

/-- Numbers from `1e-4` up to `1e16` are written out in full, a whole one with a zero after the
point; the others have an exponent. -/
def tagged : Decimal.Layout where
  isFull := fun power => decide (-4 ≤ power ∧ power < 16)
  wholeTail := ['.', '0']

def text (layout : Decimal.Layout) (x : Float) : String :=
  if Binary64.isFinite x then String.ofList (layout.write (Decimal.shortest x))
  else if x.isNaN then "NaN"
  else if Binary64.isNegative x then "-inf"
  else "inf"

/-- What is not finite is written as one of three words, in letters of any case. -/
def ofWord? (negative : Bool) (cs : List Char) : Option Float :=
  let word := cs.map Char.toLower
  if word = "inf".toList ∨ word = "infinity".toList then
    some (Binary64.ofRank negative Binary64.infinityRank)
  else if word = "nan".toList then
    some (Binary64.ofRank negative (Binary64.infinityRank + Nat.pow 2 51))
  else none

/-- The float that a text stands for: an optional sign, and a word for what is not finite or a decimal
number, which is rounded to the closest float. -/
def parse? (text : String) : Option Float :=
  let (negative, unsigned) := Decimal.splitSign text.toList
  match ofWord? negative unsigned with
  | some x => some x
  | none => (Decimal.ofUnsigned? negative unsigned).map Decimal.toFloat

/-- The text begins with a digit, or with a minus and a digit. -/
def looksNumeric (text : String) : Bool :=
  let digits :=
    match text.toList with
    | '-' :: cs => cs
    | cs => cs
  digits.head?.any Char.isDigit

/-- Words for what is not finite stay words. -/
def read? (atom : String) : Option Float :=
  if looksNumeric atom then parse? atom else none

end LoxForms.Number
