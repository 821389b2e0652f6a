import Minim.Syntax

/-!
Nodes: any part of a syntax tree that has a kind and a position of its own. Lists of declarations,
statements and expressions are nodes too.
-/

namespace Minim

/-- The kinds of nodes. -/
inductive NodeKind
  | program | declList | varDecl | funcDecl | formalDecl | structDecl | formalsList | funcBody
  | stmtList | expList
  | intType | boolType | voidType | structType
  | assignStmt | postIncStmt | postDecStmt | readStmt | writeStmt | ifStmt | ifElseStmt | whileStmt
  | callStmt | returnStmt
  | intLiteral | stringLiteral | boolLiteral | identifier | dotAccess | assignment | funcCall
  | unaryOp | binaryOp
  deriving DecidableEq, Repr, Inhabited

/-- The name of a kind in messages, graphs and JSON. -/
def NodeKind.name : NodeKind → String
  | program => "PROGRAM"
  | declList => "DECL_LIST"
  | varDecl => "VAR_DECL"
  | funcDecl => "FUNC_DECL"
  | formalDecl => "FORMAL_DECL"
  | structDecl => "STRUCT_DECL"
  | formalsList => "FORMALS_LIST"
  | funcBody => "FUNC_BODY"
  | stmtList => "STMT_LIST"
  | expList => "EXP_LIST"
  | intType => "INT_TYPE"
  | boolType => "BOOL_TYPE"
  | voidType => "VOID_TYPE"
  | structType => "STRUCT_TYPE"
  | assignStmt => "ASSIGN_STMT"
  | postIncStmt => "POST_INC_STMT"
  | postDecStmt => "POST_DEC_STMT"
  | readStmt => "READ_STMT"
  | writeStmt => "WRITE_STMT"
  | ifStmt => "IF_STMT"
  | ifElseStmt => "IF_ELSE_STMT"
  | whileStmt => "WHILE_STMT"
  | callStmt => "CALL_STMT"
  | returnStmt => "RETURN_STMT"
  | intLiteral => "INT_LITERAL"
  | stringLiteral => "STRING_LITERAL"
  | boolLiteral => "BOOL_LITERAL"
  | identifier => "IDENTIFIER"
  | dotAccess => "DOT_ACCESS"
  | assignment => "ASSIGNMENT"
  | funcCall => "FUNC_CALL"
  | unaryOp => "UNARY_OP"
  | binaryOp => "BINARY_OP"

/-- Every kind, in the order in which they are introduced. -/
def NodeKind.all : List NodeKind :=
  [program, declList, varDecl, funcDecl, formalDecl, structDecl, formalsList, funcBody, stmtList,
    expList, intType, boolType, voidType, structType, assignStmt, postIncStmt, postDecStmt,
    readStmt, writeStmt, ifStmt, ifElseStmt, whileStmt, callStmt, returnStmt, intLiteral,
    stringLiteral, boolLiteral, identifier, dotAccess, assignment, funcCall, unaryOp, binaryOp]

/-- The kind with a given name. -/
def NodeKind.ofName? (name : String) : Option NodeKind :=
  all.find? (·.name == name)

@[simp] theorem NodeKind.ofName?_name (kind : NodeKind) : ofName? kind.name = some kind := by
  cases kind <;> decide

/-- A kind is known by its name. -/
theorem NodeKind.name_inj {kind kind' : NodeKind} : kind.name = kind'.name ↔ kind = kind' := by
  refine ⟨fun same => ?_, congrArg name⟩
  rw [← Option.some.injEq, ← ofName?_name kind, same, ofName?_name]

/-! ## Kinds -/

/-- The kind of a written type. -/
def TypeExpr.kind : TypeExpr → NodeKind
  | int _ => .intType
  | bool _ => .boolType
  | void _ => .voidType
  | struct _ _ => .structType

/-- The kind of an expression. -/
def Expr.kind : Expr → NodeKind
  | int _ _ => .intLiteral
  | string _ _ => .stringLiteral
  | bool _ _ => .boolLiteral
  | ident _ => .identifier
  | dot _ _ _ => .dotAccess
  | assign _ _ _ => .assignment
  | call _ _ _ _ => .funcCall
  | unary _ _ _ => .unaryOp
  | binary _ _ _ _ => .binaryOp

namespace Stmt

/-- The kind of a statement. -/
def kind : Stmt → NodeKind
  | assign _ _ => .assignStmt
  | increment _ _ => .postIncStmt
  | decrement _ _ => .postDecStmt
  | read _ _ => .readStmt
  | write _ _ => .writeStmt
  | ifThen _ _ _ => .ifStmt
  | ifElse _ _ _ _ => .ifElseStmt
  | loop _ _ _ => .whileStmt
  | call _ _ => .callStmt
  | ret _ _ => .returnStmt

/-- Where a statement begins. -/
def pos : Stmt → Position
  | assign pos _ | increment pos _ | decrement pos _ | read pos _ | write pos _ | ifThen pos _ _
  | ifElse pos _ _ _ | loop pos _ _ | call pos _ | ret pos _ => pos

end Stmt

namespace Decl

/-- The kind of a declaration. -/
def kind : Decl → NodeKind
  | var _ _ _ => .varDecl
  | func _ _ _ _ _ _ => .funcDecl
  | struct _ _ _ _ => .structDecl

/-- Where a declaration begins. -/
def pos : Decl → Position
  | var pos _ _ | func pos _ _ _ _ _ | struct pos _ _ _ => pos

/-- The name a declaration introduces. -/
def name : Decl → Ident
  | var _ _ name | func _ _ name _ _ _ | struct _ name _ _ => name

end Decl

/-! ## Nodes -/

/-- Any part of a syntax tree. -/
inductive Node
  | program (program : Program)
  | declList (pos : Position) (decls : List Decl)
  | decl (decl : Decl)
  | formals (formals : Formals)
  | formal (formal : Formal)
  | body (pos : Position) (block : Block)
  | stmtList (pos : Position) (stmts : List Stmt)
  | stmt (stmt : Stmt)
  | exprList (pos : Position) (exprs : List Expr)
  | expr (expr : Expr)
  | type (type : TypeExpr)
  deriving Inhabited

namespace Node

/-- The kind of a node. -/
def kind : Node → NodeKind
  | program _ => .program
  | declList _ _ => .declList
  | decl d => d.kind
  | formals _ => .formalsList
  | formal _ => .formalDecl
  | body _ _ => .funcBody
  | stmtList _ _ => .stmtList
  | stmt s => s.kind
  | exprList _ _ => .expList
  | expr e => e.kind
  | type t => t.kind

/-- Where a node begins. -/
def pos : Node → Position
  | program p => p.pos
  | declList pos _ | body pos _ | stmtList pos _ | exprList pos _ => pos
  | decl d => d.pos
  | formals fs => fs.pos
  | formal f => f.pos
  | stmt s => s.pos
  | expr e => e.pos
  | type t => t.pos

/-- Whether a node names a place. -/
def isLocation : Node → Bool
  | expr e => e.isLocation
  | _ => false

/-- The identifier that a node is, if it is one. -/
def ident? : Node → Option Ident
  | expr (.ident name) => some name
  | _ => none

/-- A declaration list as a node. -/
def declsOf (block : Block) : Node := .declList block.declsPos block.decls

/-- A statement list as a node. -/
def stmtsOf (block : Block) : Node := .stmtList block.stmtsPos block.stmts

end Node

end Minim
