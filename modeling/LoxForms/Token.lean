import LoxForms.Value

/-! # Tokens

The kind of a token and its lexeme are independent of each other: folding looks at the kind of an
operator, rendering at its lexeme.
-/

namespace LoxForms

inductive TokenKind where
  | leftParen | rightParen | leftBrace | rightBrace
  | comma | dot | minus | plus | semicolon | slash | star
  | bang | bangEqual | equal | equalEqual | greater | greaterEqual | less | lessEqual
  | identifier | string | number
  | andKeyword | classKeyword | elseKeyword | falseKeyword | funKeyword | forKeyword | ifKeyword
  | nilKeyword | orKeyword | printKeyword | returnKeyword | superKeyword | thisKeyword
  | trueKeyword | varKeyword | whileKeyword
  | eof
deriving DecidableEq, Repr

namespace TokenKind

def name : TokenKind → String
  | .leftParen => "LeftParen"
  | .rightParen => "RightParen"
  | .leftBrace => "LeftBrace"
  | .rightBrace => "RightBrace"
  | .comma => "Comma"
  | .dot => "Dot"
  | .minus => "Minus"
  | .plus => "Plus"
  | .semicolon => "Semicolon"
  | .slash => "Slash"
  | .star => "Star"
  | .bang => "Bang"
  | .bangEqual => "BangEqual"
  | .equal => "Equal"
  | .equalEqual => "EqualEqual"
  | .greater => "Greater"
  | .greaterEqual => "GreaterEqual"
  | .less => "Less"
  | .lessEqual => "LessEqual"
  | .identifier => "Identifier"
  | .string => "String"
  | .number => "Number"
  | .andKeyword => "And"
  | .classKeyword => "Class"
  | .elseKeyword => "Else"
  | .falseKeyword => "False"
  | .funKeyword => "Fun"
  | .forKeyword => "For"
  | .ifKeyword => "If"
  | .nilKeyword => "Nil"
  | .orKeyword => "Or"
  | .printKeyword => "Print"
  | .returnKeyword => "Return"
  | .superKeyword => "Super"
  | .thisKeyword => "This"
  | .trueKeyword => "True"
  | .varKeyword => "Var"
  | .whileKeyword => "While"
  | .eof => "Eof"

def all : List TokenKind :=
  [.leftParen, .rightParen, .leftBrace, .rightBrace, .comma, .dot, .minus, .plus, .semicolon,
    .slash, .star, .bang, .bangEqual, .equal, .equalEqual, .greater, .greaterEqual, .less,
    .lessEqual, .identifier, .string, .number, .andKeyword, .classKeyword, .elseKeyword,
    .falseKeyword, .funKeyword, .forKeyword, .ifKeyword, .nilKeyword, .orKeyword, .printKeyword,
    .returnKeyword, .superKeyword, .thisKeyword, .trueKeyword, .varKeyword, .whileKeyword, .eof]

theorem mem_all (kind : TokenKind) : kind ∈ all := by
  cases kind <;> decide

def ofName? (name : String) : Option TokenKind := all.find? fun kind => kind.name == name

end TokenKind

structure Token where
  kind : TokenKind
  lexeme : String
  literal : Option Value
  line : UInt32
deriving BEq

namespace Token

def identifier (lexeme : String) (line : UInt32) : Token := ⟨.identifier, lexeme, none, line⟩

def operator (kind : TokenKind) (lexeme : String) (line : UInt32) : Token :=
  ⟨kind, lexeme, none, line⟩

def text (token : Token) : String :=
  let named := token.kind.name ++ " " ++ token.lexeme
  match token.literal with
  | some value => named ++ " " ++ value.text
  | none => named

end Token

end LoxForms
