import Minim.Syntax
import Minim.Syntax.Parser.Basic

/-!
The expression parser. Operators bind by precedence: assignment the least and from right to left,
the others from left to right. What an assignment assigns to, and what a field is taken from, has to
be a location; what is called has to be a name.

The functions recurse on a number that bounds how deep they may go. Where it runs out they fail like
at an unexpected token; `Parser.expression` starts them with more than the tokens left can use up.
-/

namespace Minim.Parser

/-- How tightly an operator binds; none for any other kind of token. -/
def precedence? : TokenKind → Option Nat
  | .assign => some 0
  | .orOp => some 1
  | .andOp => some 2
  | .eq | .neq => some 3
  | .lt | .gt | .lte | .gte => some 4
  | .plus | .minus => some 5
  | .star | .slash => some 6
  | _ => none

/-- A name, whose absence is reported as the missing part. -/
def identifier (part : Missing) : Parser Ident := do
  let token ← require .identifier part
  return { pos := token.pos, value := token.value }

/-- The operator at hand if it binds at least as tightly as asked. -/
def operatorFrom (minimum : Nat) (token : Token) : Option Nat :=
  (precedence? token.kind).filter (minimum ≤ ·)

mutual

/-- A literal, a name, an expression in parentheses, or a sign and its operand. -/
def primary : Nat → Parser Expr
  | 0 => do fail (.unexpected (← current))
  | depth + 1 => do
    let token ← current
    match token.kind with
    | .integer =>
      advance
      return .int token.pos token.value
    | .string =>
      advance
      return .string token.pos token.value
    | .trueWord =>
      advance
      return .bool token.pos true
    | .falseWord =>
      advance
      return .bool token.pos false
    | .identifier => return .ident (← identifier .identifier)
    | .lparen =>
      advance
      let inner ← expressionAt depth
      let _ ← expect .rparen
      return inner
    | .minus | .notOp =>
      advance
      let operand ← operandAt depth
      return .unary token.pos token.value operand
    | _ => fail (.unexpected token)

/-- A primary expression with the field accesses and the call that follow it. -/
def operandAt : Nat → Parser Expr
  | 0 => do fail (.unexpected (← current))
  | depth + 1 => do
    let head ← primary depth
    suffixes depth head

/-- The field accesses and calls that follow an expression. -/
def suffixes : Nat → Expr → Parser Expr
  | 0, _ => do fail (.unexpected (← current))
  | depth + 1, left => do
    match (← current).kind with
    | .dot =>
      if left.isLocation then
        advance
        let field ← identifier .fieldName
        suffixes depth (.dot left.pos left field)
      else fail .accessOnValue
    | .lparen =>
      match left with
      | .ident callee =>
        advance
        let args ← arguments depth
        let _ ← expect .rparen
        suffixes depth (.call callee.pos callee callee.pos args)
      | _ => fail .callOnValue
    | _ => return left

/-- The arguments of a call, none if the closing parenthesis follows. -/
def arguments : Nat → Parser (List Expr)
  | 0 => do fail (.unexpected (← current))
  | depth + 1 => do
    if (← current).kind = .rparen then return []
    else
      let first ← expressionAt depth
      let others ← moreArguments depth
      return first :: others

/-- The arguments after the first one, each behind a comma. -/
def moreArguments : Nat → Parser (List Expr)
  | 0 => do fail (.unexpected (← current))
  | depth + 1 => do
    if ← accept .comma then
      let next ← expressionAt depth
      let others ← moreArguments depth
      return next :: others
    else return []

/-- The operators from `minimum` on that follow an expression, with their right operands. -/
def operators : Nat → Nat → Expr → Parser Expr
  | 0, _, _ => do fail (.unexpected (← current))
  | depth + 1, minimum, left => do
    let token ← current
    match operatorFrom minimum token with
    | none => return left
    | some precedence =>
      if token.kind = .assign then
        if left.isLocation then
          advance
          let head ← operandAt depth
          -- What is assigned may be an assignment itself.
          let value ← operators depth precedence head
          operators depth minimum (.assign left.pos left value)
        else failAt token.pos .assignmentToValue
      else
        advance
        let head ← operandAt depth
        -- An operator of the same level stays for the whole of what is read so far.
        let right ← operators depth (precedence + 1) head
        operators depth minimum (.binary left.pos left token.value right)

/-- An expression. -/
def expressionAt : Nat → Parser Expr
  | 0 => do fail (.unexpected (← current))
  | depth + 1 => do
    let head ← operandAt depth
    operators depth 0 head

end

/-- More than any parser of expressions can use up on the tokens left. -/
def depthFor (s : TokenStream) : Nat := 3 * s.rest.length + 4

/-- An expression. -/
def expression : Parser Expr := do
  expressionAt (depthFor (← get))

/-- An operand that is a location. -/
def location : Parser Expr := do
  let operand ← operandAt (depthFor (← get))
  if operand.isLocation then return operand
  else fail (.missing .location)

end Minim.Parser
