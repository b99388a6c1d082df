import LoxForms.Token

/-! # Operators that can head a form -/

namespace LoxForms.Operator

def unaryTable : List (String × TokenKind) := [("-", .minus), ("!", .bang)]

def binaryTable : List (String × TokenKind) :=
  [("+", .plus), ("-", .minus), ("*", .star), ("/", .slash), ("==", .equalEqual),
    ("!=", .bangEqual), ("<", .less), ("<=", .lessEqual), (">", .greater), (">=", .greaterEqual)]

def unary? (head : String) : Option TokenKind := unaryTable.lookup head

def binary? (head : String) : Option TokenKind := binaryTable.lookup head

end LoxForms.Operator
