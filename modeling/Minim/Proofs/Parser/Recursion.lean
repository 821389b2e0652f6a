import Minim.Proofs.Parser.Run
import Minim.Syntax.Parser.Statement

/-!
# The recursions of the parser

The parsers call themselves and each other, down to a depth that they are given. Here are the calls
without the depth: what each parser does, given parsers for the calls that it makes.
-/

namespace Minim.Parser

variable {α : Type}

/-! ## Expressions -/

/-- Parsers for the phrases of expressions. -/
structure ExprParsers where
  primary : Parser Expr
  operand : Parser Expr
  suffixes : Expr → Parser Expr
  arguments : Parser (List Expr)
  moreArguments : Parser (List Expr)
  operators : Nat → Expr → Parser Expr
  expression : Parser Expr

namespace ExprParsers

/-- The parsers of expressions that go down to a depth. -/
def ofDepth (depth : Nat) : ExprParsers where
  primary := Parser.primary depth
  operand := operandAt depth
  suffixes := Parser.suffixes depth
  arguments := Parser.arguments depth
  moreArguments := Parser.moreArguments depth
  operators := Parser.operators depth
  expression := expressionAt depth

variable (calls : ExprParsers)

/-- A primary expression, in terms of the calls that it makes. -/
def primaryOf : Parser Expr := do
  let token ← current
  match token.kind with
  | .integer =>
    advance
    return .int token.pos token.value
  | .string =>
    advance
    return .string token.pos token.value
  | .trueWord =>
    advance
    return .bool token.pos true
  | .falseWord =>
    advance
    return .bool token.pos false
  | .identifier => return .ident (← identifier .identifier)
  | .lparen =>
    advance
    let inner ← calls.expression
    let _ ← expect .rparen
    return inner
  | .minus | .notOp =>
    advance
    let operand ← calls.operand
    return .unary token.pos token.value operand
  | _ => fail (.unexpected token)

/-- The suffixes of an expression, in terms of the calls that they make. -/
def suffixesOf (left : Expr) : Parser Expr := do
  match (← current).kind with
  | .dot =>
    if left.isLocation then
      advance
      let field ← identifier .fieldName
      calls.suffixes (.dot left.pos left field)
    else fail .accessOnValue
  | .lparen =>
    match left with
    | .ident callee =>
      advance
      let args ← calls.arguments
      let _ ← expect .rparen
      calls.suffixes (.call callee.pos callee callee.pos args)
    | _ => fail .callOnValue
  | _ => return left

/-- The arguments of a call, in terms of the calls that they make. -/
def argumentsOf : Parser (List Expr) := do
  if (← current).kind = .rparen then return []
  else
    let first ← calls.expression
    let others ← calls.moreArguments
    return first :: others

/-- The further arguments of a call, in terms of the calls that they make. -/
def moreArgumentsOf : Parser (List Expr) := do
  if ← accept .comma then
    let next ← calls.expression
    let others ← calls.moreArguments
    return next :: others
  else return []

/-- The operators after an expression, in terms of the calls that they make. -/
def operatorsOf (minimum : Nat) (left : Expr) : Parser Expr := do
  let token ← current
  match operatorFrom minimum token with
  | none => return left
  | some precedence =>
    if token.kind = .assign then
      if left.isLocation then
        advance
        let head ← calls.operand
        let value ← calls.operators precedence head
        calls.operators minimum (.assign left.pos left value)
      else failAt token.pos .assignmentToValue
    else
      advance
      let head ← calls.operand
      let right ← calls.operators (precedence + 1) head
      calls.operators minimum (.binary left.pos left token.value right)

/-- The parsers that make these calls. -/
def next : ExprParsers where
  primary := calls.primaryOf
  operand := calls.primary >>= calls.suffixes
  suffixes := calls.suffixesOf
  arguments := calls.argumentsOf
  moreArguments := calls.moreArgumentsOf
  operators := calls.operatorsOf
  expression := calls.operand >>= calls.operators 0

/-- The parsers of a depth call those of the depth below. -/
theorem ofDepth_succ (depth : Nat) : ofDepth (depth + 1) = (ofDepth depth).next := rfl

variable {left : Expr} {s : TokenStream}

theorem suffixesOf_dot (kind : s.current.kind = .dot) :
    calls.suffixesOf left s =
      if left.isLocation then
        (identifier .fieldName >>= fun field => calls.suffixes (.dot left.pos left field)) s.advance
      else (fail .accessOnValue : Parser Expr) s := by
  show (current >>= _) s = _
  rw [current_bind]
  simp only [kind]
  split <;> rfl

theorem suffixesOf_call (kind : s.current.kind = .lparen) (callee : Ident) :
    calls.suffixesOf (.ident callee) s =
      (calls.arguments >>= fun args => expect .rparen >>= fun _ =>
        calls.suffixes (.call callee.pos callee callee.pos args)) s.advance := by
  show (current >>= _) s = _
  rw [current_bind]
  simp only [kind]
  rfl

theorem suffixesOf_value (kind : s.current.kind = .lparen)
    (value : ∀ callee, left ≠ .ident callee) :
    calls.suffixesOf left s = (fail .callOnValue : Parser Expr) s := by
  show (current >>= _) s = _
  rw [current_bind]
  cases left with
  | ident callee => exact absurd rfl (value callee)
  | _ => simp only [kind]

theorem suffixesOf_stop (dot : s.current.kind ≠ .dot) (call : s.current.kind ≠ .lparen) :
    calls.suffixesOf left s = .ok left s := by
  show (current >>= _) s = _
  rw [current_bind]
  simp only
  rfl

end ExprParsers

/-! ## Statements and lists -/

/-- A statement, in terms of the statements in its blocks. -/
def statementOf (inner : Parser Stmt) : Parser Stmt := do
  match (← current).kind with
  | .ifWord => conditional (blockOf inner)
  | .whileWord => loop (blockOf inner)
  | .returnWord => returnStatement
  | .inputWord => readStatement
  | .dispWord => writeStatement
  | .intType | .boolType | .voidType | .structWord => fail .lateDeclaration
  | _ => expressionStatement

theorem statementAt_succ (depth : Nat) :
    statementAt (depth + 1) = statementOf (statementAt depth) :=
  rfl

end Minim.Parser
