import LoxForms.Text.Extending
import LoxForms.Text.Ignorable
import LoxForms.Text.Unprintable

/-! # Quoted text

A text between double quotes.  The quote, the backslash and four control characters are
written as a backslash and one sign; any other character that would not show by itself is
written as its code point, `\u` and hexadecimal digits in braces; the rest stands as it is.
-/

namespace LoxForms.Text

/-- Whether the character has no shape of its own to be shown by. -/
def isHidden (c : Char) : Bool := isExtending c || isIgnorable c || isUnprintable c

/-- The sign that follows the backslash, for the characters that have one. -/
def shortEscape? : Char → Option Char
  | '\x00' => some '0'
  | '\t' => some 't'
  | '\n' => some 'n'
  | '\r' => some 'r'
  | '"' => some '"'
  | '\\' => some '\\'
  | _ => none

def codePointEscape (c : Char) : List Char :=
  ['\\', 'u', '{'] ++ Nat.toDigits 16 c.toNat ++ ['}']

def escape (c : Char) : List Char :=
  match shortEscape? c with
  | some sign => ['\\', sign]
  | none => if isHidden c then codePointEscape c else [c]

def quoted (text : String) : String :=
  String.ofList ('"' :: text.toList.flatMap escape ++ ['"'])

end LoxForms.Text
