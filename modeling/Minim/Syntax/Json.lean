import Minim.Json.Value
import Minim.Syntax.Node

/-!
Trees as JSON: an object for each node with its kind, its position and its parts. The structural
form leaves out positions and annotations, so that two trees have the same one exactly when they
differ in nothing else.
-/

namespace Minim

open Json (Value)

/-- How much of a tree its JSON form shows. -/
inductive JsonForm
  | full
  | structural
  deriving DecidableEq, Repr

/-- The object of a node with the given parts. -/
def nodeObject (form : JsonForm) (kind : NodeKind) (pos : Position)
    (parts : List (String × Value)) : Value :=
  match form with
  | .full =>
    .object (("node_type", .string kind.name) :: ("line", .int pos.line) ::
      ("column", .int pos.column) :: parts)
  | .structural => .object (("node_type", .string kind.name) :: parts)

/-- The value of a token. -/
def TokenValue.toJson : TokenValue → Value
  | .none => .null
  | .text written => .string written
  | .number value => .int value

/-- An identifier: its name and, in the full form, its annotation. -/
def Ident.toJson (form : JsonForm) (name : Ident) : Value :=
  nodeObject form .identifier name.pos
    (("name", name.value.toJson) ::
      match form with
      | .full => [("symbol", .ofOption name.symbol)]
      | .structural => [])

/-- A written type. -/
def TypeExpr.toJson (form : JsonForm) (type : TypeExpr) : Value :=
  nodeObject form type.kind type.pos <|
    match type with
    | .struct _ name => [("name", name.toJson form)]
    | _ => []

mutual

/-- An expression. -/
def Expr.toJson (form : JsonForm) : Expr → Value
  | .int pos value => nodeObject form .intLiteral pos [("value", value.toJson)]
  | .string pos written => nodeObject form .stringLiteral pos [("value", written.toJson)]
  | .bool pos value => nodeObject form .boolLiteral pos [("value", .bool value)]
  | .ident name => name.toJson form
  | .dot pos base field =>
    nodeObject form .dotAccess pos [("loc", base.toJson form), ("field", field.toJson form)]
  | .assign pos target value =>
    nodeObject form .assignment pos [("left", target.toJson form), ("right", value.toJson form)]
  | .call pos callee argsPos args =>
    nodeObject form .funcCall pos
      [("function", callee.toJson form),
        ("arguments",
          nodeObject form .expList argsPos [("expressions", .array (Expr.toJsonAll form args))])]
  | .unary pos op operand =>
    nodeObject form .unaryOp pos [("operator", op.toJson), ("operand", operand.toJson form)]
  | .binary pos left op right =>
    nodeObject form .binaryOp pos
      [("operator", op.toJson), ("left", left.toJson form), ("right", right.toJson form)]

/-- Expressions one after the other. -/
def Expr.toJsonAll (form : JsonForm) : List Expr → List Value
  | [] => []
  | e :: es => e.toJson form :: Expr.toJsonAll form es

end

/-- A formal parameter. -/
def Formal.toJson (form : JsonForm) (formal : Formal) : Value :=
  nodeObject form .formalDecl formal.pos
    [("var_type", formal.type.toJson form), ("name", formal.name.toJson form)]

/-- A parameter list. -/
def Formals.toJson (form : JsonForm) (formals : Formals) : Value :=
  nodeObject form .formalsList formals.pos
    [("formals", .array (formals.items.map (Formal.toJson form)))]

mutual

/-- A declaration. -/
def Decl.toJson (form : JsonForm) : Decl → Value
  | .var pos type name =>
    nodeObject form .varDecl pos [("var_type", type.toJson form), ("name", name.toJson form)]
  | .func pos returnType name formals bodyPos body =>
    nodeObject form .funcDecl pos
      [("return_type", returnType.toJson form), ("name", name.toJson form),
        ("formals", formals.toJson form),
        ("body", nodeObject form .funcBody bodyPos (body.toJson form "decls" "stmts"))]
  | .struct pos name fieldsPos fields =>
    nodeObject form .structDecl pos
      [("name", name.toJson form),
        ("fields",
          nodeObject form .declList fieldsPos [("decls", .array (Decl.toJsonAll form fields))])]

/-- A statement. -/
def Stmt.toJson (form : JsonForm) : Stmt → Value
  | .assign pos assignment =>
    nodeObject form .assignStmt pos [("assignment", assignment.expr.toJson form)]
  | .increment pos place =>
    nodeObject form .postIncStmt pos [("expression", place.toJson form)]
  | .decrement pos place =>
    nodeObject form .postDecStmt pos [("expression", place.toJson form)]
  | .read pos place => nodeObject form .readStmt pos [("expression", place.toJson form)]
  | .write pos value => nodeObject form .writeStmt pos [("expression", value.toJson form)]
  | .ifThen pos cond body =>
    nodeObject form .ifStmt pos
      (("condition", cond.toJson form) :: body.toJson form "decls" "stmts")
  | .ifElse pos cond yes no =>
    nodeObject form .ifElseStmt pos
      (("condition", cond.toJson form) ::
        (yes.toJson form "then_decls" "then_stmts" ++ no.toJson form "else_decls" "else_stmts"))
  | .loop pos cond body =>
    nodeObject form .whileStmt pos
      (("condition", cond.toJson form) :: body.toJson form "decls" "stmts")
  | .call pos call => nodeObject form .callStmt pos [("call", call.expr.toJson form)]
  | .ret pos none => nodeObject form .returnStmt pos [("expression", .null)]
  | .ret pos (some value) =>
    nodeObject form .returnStmt pos [("expression", value.toJson form)]

/-- The two lists of a block, under the given names. -/
def Block.toJson (form : JsonForm) (declsName stmtsName : String) :
    Block → List (String × Value)
  | .mk declsPos decls stmtsPos stmts =>
    [(declsName,
        nodeObject form .declList declsPos [("decls", .array (Decl.toJsonAll form decls))]),
      (stmtsName,
        nodeObject form .stmtList stmtsPos [("statements", .array (Stmt.toJsonAll form stmts))])]

/-- Declarations one after the other. -/
def Decl.toJsonAll (form : JsonForm) : List Decl → List Value
  | [] => []
  | d :: ds => d.toJson form :: Decl.toJsonAll form ds

/-- Statements one after the other. -/
def Stmt.toJsonAll (form : JsonForm) : List Stmt → List Value
  | [] => []
  | s :: ss => s.toJson form :: Stmt.toJsonAll form ss

end

/-- A list of declarations. -/
def declListJson (form : JsonForm) (pos : Position) (decls : List Decl) : Value :=
  nodeObject form .declList pos [("decls", .array (Decl.toJsonAll form decls))]

/-- A program. -/
def Program.toJson (form : JsonForm) (program : Program) : Value :=
  nodeObject form .program program.pos
    [("decls", declListJson form program.declsPos program.decls)]

/-- Any node. -/
def Node.toJson (form : JsonForm) : Node → Value
  | .program p => p.toJson form
  | .declList pos decls => declListJson form pos decls
  | .decl d => d.toJson form
  | .formals fs => fs.toJson form
  | .formal f => f.toJson form
  | .body pos block => nodeObject form .funcBody pos (block.toJson form "decls" "stmts")
  | .stmtList pos stmts =>
    nodeObject form .stmtList pos [("statements", .array (Stmt.toJsonAll form stmts))]
  | .stmt s => s.toJson form
  | .exprList pos exprs =>
    nodeObject form .expList pos [("expressions", .array (Expr.toJsonAll form exprs))]
  | .expr e => e.toJson form
  | .type t => t.toJson form

end Minim
