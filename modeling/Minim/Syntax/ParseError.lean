import Minim.Token

/-!
Syntax errors: what a parser misses or does not want at a position.
-/

namespace Minim

/-- The parts of phrases whose absence is reported by name. -/
inductive Missing
  | identifier | structTypeName | fieldName | variableName | structName | parameterName
  | declarationName
  | location | statement
  | variableSemicolon | structBrace | declarationEnd | returnSemicolon
  | readOperator | readSemicolon | writeOperator | writeSemicolon
  | assignmentSemicolon | callSemicolon
  deriving DecidableEq, Repr

/-- The wording of a missing part. -/
def Missing.text : Missing → String
  | identifier => "identifier"
  | structTypeName => "struct type name"
  | fieldName => "field name after '.'"
  | variableName => "variable name"
  | structName => "struct name"
  | parameterName => "parameter name"
  | declarationName => "declaration name"
  | location => "a variable or field"
  | statement => "a statement"
  | variableSemicolon => "';' after variable declaration"
  | structBrace => "'\x7d' after struct fields"
  | declarationEnd => "';' or '(' after declaration name"
  | returnSemicolon => "';' after return"
  | readOperator => "'>>' after 'input'"
  | readSemicolon => "';' after input statement"
  | writeOperator => "'<<' after 'disp'"
  | writeSemicolon => "';' after disp statement"
  | assignmentSemicolon => "';' after assignment"
  | callSemicolon => "';' after call"

/-- Why a phrase cannot go on. -/
inductive SyntaxFault
  | missing (part : Missing)
  | expectedToken (wanted got : TokenKind)
  | expectedType (got : TokenKind)
  | unexpected (token : Token)
  | accessOnValue
  | callOnValue
  | assignmentToValue
  | lateDeclaration
  | custom (text : String)
  deriving DecidableEq, Repr

/-- The wording of a fault. -/
def SyntaxFault.text : SyntaxFault → String
  | missing part => "Expected " ++ part.text
  | expectedToken wanted got => "Expected " ++ wanted.name ++ ", got " ++ got.name
  | expectedType got => "Expected type, got " ++ got.name
  | unexpected token => "Unexpected token: " ++ token.describe
  | accessOnValue => "Field access requires a variable or field on the left"
  | callOnValue => "Only a named function can be called"
  | assignmentToValue => "Can only assign to a variable or field"
  | lateDeclaration => "Declarations must precede statements in a block"
  | custom text => text

/-- A fault at its position. -/
structure ParseError where
  pos : Position
  fault : SyntaxFault
  deriving DecidableEq, Repr

/-- The wording of a syntax error. -/
def ParseError.message (error : ParseError) : String :=
  "Syntax error at line " ++ Text.decimal error.pos.line ++ ", column " ++
    Text.decimal error.pos.column ++ ": " ++ error.fault.text

end Minim
