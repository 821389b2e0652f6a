import Minim.Syntax.Node
import Minim.Syntax.Parser.Statement
import Minim.Token.Lexer

/-!
Reading trees: the parser for each sort of phrase that can be asked for, and programs from tokens
and from texts.
-/

namespace Minim

/-- The sorts of phrases a parser can be asked for. -/
inductive Phrase
  | program | declaration | statement | expression | location | type | formals | variableDecls
  deriving DecidableEq, Repr, Inhabited

/-- The parser of a sort of phrase. What follows the phrase is left unread. -/
def Phrase.parser : Phrase → Parser Node
  | program => do return .program (← Parser.program)
  | declaration => do return .decl (← Parser.declaration)
  | statement => do return .stmt (← Parser.statement)
  | expression => do return .expr (← Parser.expression)
  | location => do return .expr (← Parser.location)
  | type => do return .type (← Parser.type)
  | formals => do return .formals (← Parser.formals)
  | variableDecls => do
    let (pos, decls) ← Parser.variableDecls
    return .declList pos decls

/-- A program from its tokens. -/
def parseTokens (tokens : List Token) : Except ParseError Program :=
  match Parser.program (TokenStream.ofList tokens) with
  | .ok program _ => .ok program
  | .error error _ => .error error

/-- A fault of a text: in its tokens or in its phrases. -/
inductive TextError
  | lex (error : LexError)
  | parse (error : ParseError)
  deriving DecidableEq, Repr

namespace TextError

/-- The wording of a fault of a text. -/
def message : TextError → String
  | lex error => error.message
  | parse error => error.message

/-- Whether the fault is one of a numeral, which has the form of a token but no value. -/
def isNumeral : TextError → Bool
  | lex error => error.isNumeral
  | parse _ => false

end TextError

/-- A phrase at the beginning of a text. -/
def parsePhrase (phrase : Phrase) (text : String) : Except TextError Node :=
  match tokenize text with
  | .error error => .error (.lex error)
  | .ok tokens =>
    match phrase.parser (TokenStream.ofList tokens) with
    | .ok node _ => .ok node
    | .error error _ => .error (.parse error)

/-- A program from its text. -/
def parseText (text : String) : Except TextError Program :=
  match tokenize text with
  | .error error => .error (.lex error)
  | .ok tokens => (parseTokens tokens).mapError .parse

end Minim
