import Minim.Syntax.Parser.Expression

/-!
The parsers of types, declarations and statements. A block is a run of variable declarations and a
run of statements between braces; which of a struct declaration, a variable and a function begins is
told by the two tokens after the keyword, and by what follows the declared name.
-/

namespace Minim.Parser

/-! ## Types and variables -/

/-- A written type. -/
def type : Parser TypeExpr := do
  let token ← current
  match token.kind with
  | .intType =>
    advance
    return .int token.pos
  | .boolType =>
    advance
    return .bool token.pos
  | .voidType =>
    advance
    return .void token.pos
  | .structWord =>
    advance
    let name ← identifier .structTypeName
    return .struct token.pos name
  | got => fail (.expectedType got)

/-- A variable declaration. -/
def variableDecl : Parser Decl := do
  let type ← type
  let name ← identifier .variableName
  let _ ← require .semicolon .variableSemicolon
  return .var type.pos type name

/-- Where a list of declarations begins, and the variable declarations in it. -/
def variableDecls : Parser (Position × List Decl) := do
  let start ← current
  let decls ← many TokenStream.atVariableDecl variableDecl
  return (start.pos, decls)

/-! ## Statements -/

/-- Whether a block goes on with a statement: neither a closing brace nor the end of the text. -/
def atStatement (s : TokenStream) : Bool :=
  s.current.kind != .rbrace && s.current.kind != .eof

/-- A block whose statements are read by `statement`. -/
def blockOf (statement : Parser Stmt) : Parser Block := do
  let _ ← expect .lbrace
  let (declsPos, decls) ← variableDecls
  let start ← current
  let stmts ← many atStatement statement
  let _ ← expect .rbrace
  return .mk declsPos decls start.pos stmts

/-- The condition of a statement, in parentheses. -/
def condition : Parser Expr := do
  let _ ← expect .lparen
  let cond ← expression
  let _ ← expect .rparen
  return cond

/-- A conditional, with blocks read by `block`. -/
def conditional (block : Parser Block) : Parser Stmt := do
  let start ← expect .ifWord
  let cond ← condition
  let yes ← block
  if ← accept .elseWord then
    let no ← block
    return .ifElse start.pos cond yes no
  else return .ifThen start.pos cond yes

/-- A loop, with its body read by `block`. -/
def loop (block : Parser Block) : Parser Stmt := do
  let start ← expect .whileWord
  let cond ← condition
  let body ← block
  return .loop start.pos cond body

/-- A return statement. -/
def returnStatement : Parser Stmt := do
  let start ← expect .returnWord
  if (← current).kind = .semicolon then
    let _ ← require .semicolon .returnSemicolon
    return .ret start.pos none
  else
    let value ← expression
    let _ ← require .semicolon .returnSemicolon
    return .ret start.pos (some value)

/-- An input statement. -/
def readStatement : Parser Stmt := do
  let start ← current
  advance
  let _ ← require .readOp .readOperator
  let place ← location
  let _ ← require .semicolon .readSemicolon
  return .read start.pos place

/-- An output statement. -/
def writeStatement : Parser Stmt := do
  let start ← current
  advance
  let _ ← require .writeOp .writeOperator
  let value ← expression
  let _ ← require .semicolon .writeSemicolon
  return .write start.pos value

/-- A statement that begins with an expression: an assignment, a call, or a location that is
counted up or down. -/
def expressionStatement : Parser Stmt := do
  let start ← current
  let e ← expression
  match e with
  | .assign pos target value =>
    let _ ← require .semicolon .assignmentSemicolon
    return .assign start.pos ⟨pos, target, value⟩
  | .call pos callee argsPos args =>
    let _ ← require .semicolon .callSemicolon
    return .call start.pos ⟨pos, callee, argsPos, args⟩
  | place =>
    match place.isLocation, (← current).kind with
    | true, .increment =>
      advance
      let _ ← expect .semicolon
      return .increment start.pos place
    | true, .decrement =>
      advance
      let _ ← expect .semicolon
      return .decrement start.pos place
    -- Nothing else is a statement, and the fault is where it began.
    | _, _ => failAt start.pos (.missing .statement)

/-- A statement, with at most so many blocks around each other. -/
def statementAt : Nat → Parser Stmt
  | 0 => do fail (.unexpected (← current))
  | depth + 1 => do
    match (← current).kind with
    | .ifWord => conditional (blockOf (statementAt depth))
    | .whileWord => loop (blockOf (statementAt depth))
    | .returnWord => returnStatement
    | .inputWord => readStatement
    | .dispWord => writeStatement
    -- The declarations of a block are over when its first statement is reached.
    | .intType | .boolType | .voidType | .structWord => fail .lateDeclaration
    | _ => expressionStatement

/-- A statement. Every block around another begins with a token of its own, so that the tokens left
bound the depth. -/
def statement : Parser Stmt := do
  statementAt ((← get).rest.length + 1)

/-- A block. -/
def block : Parser Block := blockOf statement

/-! ## Declarations -/

/-- A formal parameter. -/
def formal : Parser Formal := do
  let type ← type
  let name ← identifier .parameterName
  return { pos := type.pos, type, name }

/-- The formal parameters after the first one, each behind a comma. -/
def moreFormals : Nat → Parser (List Formal)
  | 0 => return []
  | limit + 1 => do
    if ← accept .comma then
      let next ← formal
      let others ← moreFormals limit
      return next :: others
    else return []

/-- A parameter list in parentheses. -/
def formals : Parser Formals := do
  let start ← expect .lparen
  if (← current).kind = .rparen then
    let _ ← expect .rparen
    return { pos := start.pos, items := [] }
  else
    let first ← formal
    let others ← moreFormals (← get).rest.length
    let _ ← expect .rparen
    return { pos := start.pos, items := first :: others }

/-- A struct declaration; a semicolon may end it. -/
def structDecl : Parser Decl := do
  let start ← expect .structWord
  let name ← identifier .structName
  let _ ← expect .lbrace
  let (fieldsPos, fields) ← variableDecls
  let _ ← require .rbrace .structBrace
  let _ ← accept .semicolon
  return .struct start.pos name fieldsPos fields

/-- The rest of a function declaration after its type and name. -/
def functionRest (returnType : TypeExpr) (name : Ident) : Parser Decl := do
  let formals ← formals
  let bodyStart ← current
  let body ← block
  return .func returnType.pos returnType name formals bodyStart.pos body

/-- A declaration. -/
def declaration : Parser Decl := do
  if (← get).atStructDecl then structDecl
  else
    let type ← type
    let name ← identifier .declarationName
    if (← current).kind = .lparen then functionRest type name
    else
      let _ ← require .semicolon .declarationEnd
      return .var type.pos type name

/-- A program: declarations up to the end of the text. -/
def program : Parser Program := do
  let start ← current
  let decls ← many (·.current.kind != .eof) declaration
  return { pos := start.pos, declsPos := start.pos, decls }

end Minim.Parser
