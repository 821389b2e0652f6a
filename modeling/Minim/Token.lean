import Minim.Position
import Minim.Text.Decimal
import Minim.Text.Quoted

/-!
Tokens: the words of the language. A token has a kind, a value and the position of its first
character. In a text its value is the word as it was written, or the number for an integer, or
nothing for the end of the text; a list of tokens made by hand may pair any kind with any value.
-/

namespace Minim

/-- The kinds of words. -/
inductive TokenKind
  | integer | string | identifier
  | plus | minus | star | slash | increment | decrement
  | lparen | rparen | lbrace | rbrace
  | comma | dot | assign | semicolon
  | readOp | writeOp
  | eq | neq | lt | gt | lte | gte
  | andOp | orOp | notOp
  | whileWord | ifWord | elseWord | returnWord | inputWord | dispWord | structWord
  | intType | boolType | voidType
  | trueWord | falseWord
  | eof
  deriving DecidableEq, Repr, Inhabited

namespace TokenKind

/-- The name of a kind in messages. -/
def name : TokenKind → String
  | integer => "INTEGER"
  | string => "STRING"
  | identifier => "IDENTIFIER"
  | plus => "PLUS"
  | minus => "MINUS"
  | star => "STAR"
  | slash => "SLASH"
  | increment => "INCREMENT"
  | decrement => "DECREMENT"
  | lparen => "LPAREN"
  | rparen => "RPAREN"
  | lbrace => "LBRACE"
  | rbrace => "RBRACE"
  | comma => "COMMA"
  | dot => "DOT"
  | assign => "ASSIGN"
  | semicolon => "SEMICOLON"
  | readOp => "READ_OP"
  | writeOp => "WRITE_OP"
  | eq => "EQ"
  | neq => "NEQ"
  | lt => "LT"
  | gt => "GT"
  | lte => "LTE"
  | gte => "GTE"
  | andOp => "AND"
  | orOp => "OR"
  | notOp => "NOT"
  | whileWord => "WHILE"
  | ifWord => "IF"
  | elseWord => "ELSE"
  | returnWord => "RETURN"
  | inputWord => "INPUT"
  | dispWord => "DISP"
  | structWord => "STRUCT"
  | intType => "INT_TYPE"
  | boolType => "BOOL_TYPE"
  | voidType => "VOID_TYPE"
  | trueWord => "TRUE"
  | falseWord => "FALSE"
  | eof => "EOF"

/-- Every kind, in the order in which they are introduced. -/
def all : List TokenKind :=
  [integer, string, identifier, plus, minus, star, slash, increment, decrement, lparen, rparen,
    lbrace, rbrace, comma, dot, assign, semicolon, readOp, writeOp, eq, neq, lt, gt, lte, gte,
    andOp, orOp, notOp, whileWord, ifWord, elseWord, returnWord, inputWord, dispWord, structWord,
    intType, boolType, voidType, trueWord, falseWord, eof]

theorem mem_all (kind : TokenKind) : kind ∈ all := by
  cases kind <;> decide

/-- The kind with a given name. -/
def ofName? (name : String) : Option TokenKind :=
  all.find? (·.name == name)

end TokenKind

/-- What a token carries besides its kind. -/
inductive TokenValue
  | none
  | text (written : String)
  | number (value : Int)
  deriving DecidableEq, Repr, Inhabited

/-- A word of the language at its position. -/
structure Token where
  kind : TokenKind
  value : TokenValue := .none
  pos : Position := {}
  deriving DecidableEq, Repr, Inhabited

namespace TokenValue

/-- The text of a value: a number is its decimal notation. -/
def word : TokenValue → String
  | none => "None"
  | text written => written
  | number value => Text.decimal value

/-- How a value is shown in messages. -/
def describe : TokenValue → String
  | none => "None"
  | text written => Text.quoted written
  | number value => Text.decimal value

end TokenValue

namespace Token

/-- The token that stands after the last one of a list. -/
def endOfList : Token := { kind := .eof }

/-- How a token is shown in messages. -/
def describe (token : Token) : String :=
  "Token(" ++ token.kind.name ++ ", " ++ token.value.describe ++ ", " ++
    Text.decimal token.pos.line ++ ":" ++ Text.decimal token.pos.column ++ ")"

/-- The spelling of a token: its value, or the name of its kind if it has none. -/
def lexeme (token : Token) : String :=
  match token.value with
  | .none => token.kind.name
  | value => value.word

end Token

end Minim
