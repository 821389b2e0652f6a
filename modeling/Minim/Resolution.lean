import Minim.Resolution.State
import Minim.Syntax.Legend

/-!
Name analysis: one walk over a tree, from left to right, that declares the names it declares and
annotates the names it uses. Function bodies, branches and loop bodies have scopes of their own;
what a struct declares goes into its own table.

Two rules are narrower than one might expect. The base of a dot access is looked up in the innermost
scope only. And of a chained access `a.b.c`, after `a.b` is resolved `c` is looked up like any other
name, whatever the type of `a.b`.

The walk gives back the tree with its annotations. Where an analysis fails on the way, what was
annotated before stays annotated.
-/

namespace Minim

open Resolution

/-- The type that a declaration records. -/
def TypeExpr.dataType : TypeExpr → DataType
  | int _ => .int
  | bool _ => .bool
  | void _ => .void
  | struct _ name => .struct name.name

/-! ## Expressions -/

/-- Resolve the base of an innermost dot access and its field. -/
def Ident.resolveMember (base field : Ident) : Resolve (Ident × Ident) := do
  let (base, found) ← useBase base
  match found with
  | none => return (base, field)
  | some structName =>
    let field ← useField structName field
    return (base, field)

mutual

/-- Resolve an expression. -/
def Expr.resolve : Expr → Resolve Expr
  | .int pos value => return .int pos value
  | .string pos written => return .string pos written
  | .bool pos value => return .bool pos value
  | .ident name => do
    let name ← useName name
    return .ident name
  | .dot pos base field => do
    match base with
    | .dot _ _ _ =>
      -- The type of the base plays no part.
      let base ← base.resolve
      let field ← useName field
      return .dot pos base field
    | .ident name =>
      let (name, field) ← name.resolveMember field
      return .dot pos (.ident name) field
    | other =>
      fail (.dotBase other.kind)
      return .dot pos other field
  | .assign pos target value => do
    let target ← target.resolve
    let value ← value.resolve
    return .assign pos target value
  | .call pos callee argsPos args => do
    let callee ← useName callee
    let args ← Expr.resolveAll args
    return .call pos callee argsPos args
  | .unary pos op operand => do
    let operand ← operand.resolve
    return .unary pos op operand
  | .binary pos left op right => do
    let left ← left.resolve
    let right ← right.resolve
    return .binary pos left op right

/-- Resolve expressions one after the other. -/
def Expr.resolveAll : List Expr → Resolve (List Expr)
  | [] => return []
  | e :: es => do
    let e ← e.resolve
    let es ← Expr.resolveAll es
    return e :: es

end

/-- Resolve an assignment. -/
def Assignment.resolve (a : Assignment) : Resolve Assignment := do
  let target ← a.target.resolve
  let value ← a.value.resolve
  return { a with target, value }

/-- Resolve a call. -/
def Call.resolve (c : Call) : Resolve Call := do
  let callee ← useName c.callee
  let args ← Expr.resolveAll c.args
  return { c with callee, args }

/-! ## Variables -/

/-- Declare a variable, a formal parameter or a field. One of type void is reported and not
declared; one of a struct type is declared even if the struct's name is not. The answer is the type
with its struct name annotated. -/
def TypeExpr.declare (target : Target) (name : Ident) : TypeExpr → Resolve TypeExpr
  | .void pos => do
    report name .voidVariable
    return .void pos
  | .struct pos structName => do
    let structName ← useStructName structName name
    let _ ← Resolution.declare target name (.structVar structName.name)
    return .struct pos structName
  | type => do
    let _ ← Resolution.declare target name (.var type.dataType)
    return type

/-- Declare a formal parameter in the innermost scope. -/
def Formal.resolve (formal : Formal) : Resolve Formal := do
  let type ← formal.type.declare .scope formal.name
  return { formal with type }

/-- Declare formal parameters one after the other. -/
def Formal.resolveAll : List Formal → Resolve (List Formal)
  | [] => return []
  | f :: fs => do
    let f ← f.resolve
    let fs ← Formal.resolveAll fs
    return f :: fs

/-- Declare a parameter list. -/
def Formals.resolve (formals : Formals) : Resolve Formals := do
  let items ← Formal.resolveAll formals.items
  return { formals with items }

/-- Declare a member of a struct. Only variables can be members. -/
def Decl.resolveField (structName : String) (struct : SymbolId) : Decl → Resolve Decl
  | .var pos type name => do
    let type ← type.declare (.fields struct) name
    return .var pos type name
  | other => do
    fail (.structMember structName other.kind)
    return other

/-- Declare the members of a struct one after the other. -/
def Decl.resolveFields (structName : String) (struct : SymbolId) :
    List Decl → Resolve (List Decl)
  | [] => return []
  | d :: ds => do
    let d ← d.resolveField structName struct
    let ds ← Decl.resolveFields structName struct ds
    return d :: ds

/-! ## Declarations and statements -/

mutual

/-- Resolve a declaration. The name of a function is declared before its body is walked; the fields
of a struct are walked only if its name could be declared. -/
def Decl.resolve : Decl → Resolve Decl
  | .var pos type name => do
    let type ← type.declare .scope name
    return .var pos type name
  | .func pos returnType name formals bodyPos body => do
    let _ ← Resolution.declare .scope name
      (.func returnType.dataType (formals.items.map (·.type.dataType)))
    -- The formal parameters and the body share one scope.
    openScope
    let formals ← formals.resolve
    let body ← body.resolveInside
    closeScope
    return .func pos returnType name formals bodyPos body
  | .struct pos name fieldsPos fields => do
    match ← Resolution.declare .scope name (.structDef .root) with
    -- There is no table for the fields of a struct that was not declared.
    | none => return .struct pos name fieldsPos fields
    | some struct =>
      let fields ← Decl.resolveFields name.name struct fields
      return .struct pos name fieldsPos fields

/-- Resolve a statement. -/
def Stmt.resolve : Stmt → Resolve Stmt
  | .assign pos assignment => do
    let assignment ← assignment.resolve
    return .assign pos assignment
  | .increment pos place => do
    let place ← place.resolve
    return .increment pos place
  | .decrement pos place => do
    let place ← place.resolve
    return .decrement pos place
  | .read pos place => do
    let place ← place.resolve
    return .read pos place
  | .write pos value => do
    let value ← value.resolve
    return .write pos value
  | .ifThen pos cond body => do
    let cond ← cond.resolve
    openScope
    let body ← body.resolveInside
    closeScope
    return .ifThen pos cond body
  | .ifElse pos cond yes no => do
    let cond ← cond.resolve
    openScope
    let yes ← yes.resolveInside
    closeScope
    openScope
    let no ← no.resolveInside
    closeScope
    return .ifElse pos cond yes no
  | .loop pos cond body => do
    let cond ← cond.resolve
    openScope
    let body ← body.resolveInside
    closeScope
    return .loop pos cond body
  | .call pos call => do
    let call ← call.resolve
    return .call pos call
  | .ret pos none => return .ret pos none
  | .ret pos (some value) => do
    let value ← value.resolve
    return .ret pos (some value)

/-- Resolve the declarations of a block and then its statements, in the innermost scope. -/
def Block.resolveInside : Block → Resolve Block
  | .mk declsPos decls stmtsPos stmts => do
    let decls ← Decl.resolveAll decls
    let stmts ← Stmt.resolveAll stmts
    return .mk declsPos decls stmtsPos stmts

/-- Resolve declarations one after the other. -/
def Decl.resolveAll : List Decl → Resolve (List Decl)
  | [] => return []
  | d :: ds => do
    let d ← d.resolve
    let ds ← Decl.resolveAll ds
    return d :: ds

/-- Resolve statements one after the other. -/
def Stmt.resolveAll : List Stmt → Resolve (List Stmt)
  | [] => return []
  | s :: ss => do
    let s ← s.resolve
    let ss ← Stmt.resolveAll ss
    return s :: ss

end

/-- Resolve a program in the scope that is open. -/
def Program.resolve (program : Program) : Resolve Program := do
  let decls ← Decl.resolveAll program.decls
  return { program with decls }

/-- Resolve a program, a list of declarations, a declaration, a statement or an expression; the
other nodes are left alone. -/
def Node.resolve : Node → Resolve Node
  | .program p => do
    let p ← p.resolve
    return .program p
  | .declList pos decls => do
    let decls ← Decl.resolveAll decls
    return .declList pos decls
  | .decl d => do
    let d ← d.resolve
    return .decl d
  | .stmt s => do
    let s ← s.resolve
    return .stmt s
  | .expr e => do
    let e ← e.resolve
    return .expr e
  | node => return node

/-! ## Whole programs -/

/-- A program with the outcome of its analysis. -/
structure Resolution where
  program : Program
  state : Resolution.State

namespace Resolution

/-- Whether no fault was found. -/
def isClean (resolution : Resolution) : Bool := resolution.state.log.isClean

/-- The symbol that an identifier is annotated with. -/
def symbolOf? (resolution : Resolution) (name : Ident) : Option SymbolId :=
  name.symbol.bind resolution.state.arena.get?

/-- The texts of the symbols of an analysis. -/
def State.legend (s : State) : Legend := some (s.arena.textAt s.store)

end Resolution

/-- Analyse a program from a fresh state. -/
def Program.analyze (program : Program) : Resolution :=
  let (program, state) := program.resolve {}
  { program, state }

end Minim
