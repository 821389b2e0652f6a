import Minim.Token

/-!
Syntax trees of the language. Every node carries the position where its phrase begins; identifiers
also carry the arena index of the symbol they stand for, once name analysis has found one. Names,
literals and operators keep the value of the token they were read from.

The trees are wider than the grammar: a dot access may have any expression as its base, and a block
or a struct may hold any declaration. The parser builds only trees within the grammar, and name
analysis refuses the others.
-/

namespace Minim

/-- A name at its position, with the arena index of its symbol where one is known. -/
structure Ident where
  pos : Position := {}
  value : TokenValue := .text ""
  symbol : Option Int := none
  deriving DecidableEq, Repr, Inhabited

/-- The name of an identifier. -/
def Ident.name (name : Ident) : String := name.value.word

/-- A written type. -/
inductive TypeExpr
  | int (pos : Position)
  | bool (pos : Position)
  | void (pos : Position)
  | struct (pos : Position) (name : Ident)
  deriving DecidableEq, Repr, Inhabited

/-- Where a written type begins. -/
def TypeExpr.pos : TypeExpr → Position
  | int pos | bool pos | void pos | struct pos _ => pos

/-- An expression. A call's argument list has a position of its own. -/
inductive Expr
  | int (pos : Position) (value : TokenValue)
  | string (pos : Position) (written : TokenValue)
  | bool (pos : Position) (value : Bool)
  | ident (name : Ident)
  | dot (pos : Position) (base : Expr) (field : Ident)
  | assign (pos : Position) (target value : Expr)
  | call (pos : Position) (callee : Ident) (argsPos : Position) (args : List Expr)
  | unary (pos : Position) (op : TokenValue) (operand : Expr)
  | binary (pos : Position) (left : Expr) (op : TokenValue) (right : Expr)
  deriving Inhabited

namespace Expr

/-- Where an expression begins. -/
def pos : Expr → Position
  | int pos _ | string pos _ | bool pos _ | dot pos _ _ | assign pos _ _ | call pos _ _ _
  | unary pos _ _ | binary pos _ _ _ => pos
  | ident name => name.pos

/-- Whether an expression names a place: a variable, or a field of a place. -/
def isLocation : Expr → Bool
  | ident _ | dot _ _ _ => true
  | _ => false

end Expr

/-- An assignment used as a statement. -/
structure Assignment where
  pos : Position := {}
  target : Expr := .ident {}
  value : Expr := .int {} (.number 0)
  deriving Inhabited

/-- A call used as a statement. -/
structure Call where
  pos : Position := {}
  callee : Ident := {}
  argsPos : Position := {}
  args : List Expr := []
  deriving Inhabited

/-- An assignment as an expression. -/
def Assignment.expr (a : Assignment) : Expr := .assign a.pos a.target a.value

/-- A call as an expression. -/
def Call.expr (c : Call) : Expr := .call c.pos c.callee c.argsPos c.args

/-- A formal parameter. -/
structure Formal where
  pos : Position := {}
  type : TypeExpr := .int {}
  name : Ident := {}
  deriving DecidableEq, Repr, Inhabited

/-- A parameter list. -/
structure Formals where
  pos : Position := {}
  items : List Formal := []
  deriving DecidableEq, Repr, Inhabited

mutual

/-- A declaration. -/
inductive Decl
  | var (pos : Position) (type : TypeExpr) (name : Ident)
  | func (pos : Position) (returnType : TypeExpr) (name : Ident) (formals : Formals)
      (bodyPos : Position) (body : Block)
  | struct (pos : Position) (name : Ident) (fieldsPos : Position) (fields : List Decl)

/-- A statement. -/
inductive Stmt
  | assign (pos : Position) (assignment : Assignment)
  | increment (pos : Position) (place : Expr)
  | decrement (pos : Position) (place : Expr)
  | read (pos : Position) (place : Expr)
  | write (pos : Position) (value : Expr)
  | ifThen (pos : Position) (cond : Expr) (body : Block)
  | ifElse (pos : Position) (cond : Expr) (yes no : Block)
  | loop (pos : Position) (cond : Expr) (body : Block)
  | call (pos : Position) (call : Call)
  | ret (pos : Position) (value : Option Expr)

/-- Declarations and the statements after them. -/
inductive Block
  | mk (declsPos : Position) (decls : List Decl) (stmtsPos : Position) (stmts : List Stmt)

end

namespace Block

/-- Where the declarations begin. -/
def declsPos : Block → Position
  | mk pos _ _ _ => pos

/-- The declarations of a block. -/
def decls : Block → List Decl
  | mk _ decls _ _ => decls

/-- Where the statements begin. -/
def stmtsPos : Block → Position
  | mk _ _ pos _ => pos

/-- The statements of a block. -/
def stmts : Block → List Stmt
  | mk _ _ _ stmts => stmts

end Block

instance : Inhabited Block := ⟨.mk {} [] {} []⟩
instance : Inhabited Decl := ⟨.var {} (.int {}) {}⟩
instance : Inhabited Stmt := ⟨.ret {} none⟩

/-- A program. -/
structure Program where
  pos : Position := {}
  declsPos : Position := {}
  decls : List Decl := []
  deriving Inhabited

end Minim
