import LoxForms.Decimal.Basic

/-! # Decimal notation

A number is written as digits with at most one point before, between or after them, and optionally an
exponent: `e` or `E`, an optional sign, and digits.  All digits are ASCII digits.  At least one of them
stands next to the point, or where it could, and in an exponent there is one at least.
-/

namespace LoxForms.Decimal

def digitsValue (digits : List Char) : Nat := Nat.ofDigitChars 10 digits 0

/-- The leading digits and what follows them. -/
def splitDigits (cs : List Char) : List Char × List Char :=
  (cs.takeWhile Char.isDigit, cs.dropWhile Char.isDigit)

/-- Whether a text that may begin with a sign is negative, and what follows the sign. -/
def splitSign : List Char → Bool × List Char
  | '-' :: cs => (true, cs)
  | '+' :: cs => (false, cs)
  | cs => (false, cs)

/-- The digits after a point, if there is one, and what follows them. -/
def splitFraction : List Char → List Char × List Char
  | '.' :: cs => splitDigits cs
  | cs => ([], cs)

/-- The value of a text that is nothing but digits. -/
def wholeNumber? (cs : List Char) : Option Nat :=
  if !cs.isEmpty && cs.all Char.isDigit then some (digitsValue cs) else none

/-- The exponent that ends a number: none at all, or a mark, an optional sign, and digits. -/
def exponent? : List Char → Option Int
  | [] => some 0
  | mark :: cs =>
    if mark = 'e' ∨ mark = 'E' then
      let (negative, digits) := splitSign cs
      (wholeNumber? digits).map fun (n : Nat) => if negative then -(n : Int) else (n : Int)
    else none

/-- The number that is written without its sign. -/
def ofUnsigned? (negative : Bool) (cs : List Char) : Option Decimal :=
  let (whole, afterWhole) := splitDigits cs
  let (fraction, afterFraction) := splitFraction afterWhole
  if whole.isEmpty && fraction.isEmpty then none
  else
    (exponent? afterFraction).map fun exponent =>
      ⟨negative, digitsValue (whole ++ fraction), exponent - fraction.length⟩

end LoxForms.Decimal
