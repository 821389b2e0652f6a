import Minim.Proofs.Grammar.Expression
import Minim.Proofs.Token.Words

/-!
# Well-formed trees

Trees can hold more than the language has: any value for a name, any expression as the base of a dot
access, any declaration in a block. A tree is well-formed if every value in it is a word of the
language and every part is of the sort that the grammar has in its place. Erasure forgets where the
nodes of a tree stand and what name analysis noted at its identifiers; trees with the same erasure
have the same structure.
-/

namespace Minim

open Lexeme

/-! ## Erasure -/

/-- A name by itself. -/
def Ident.erase (name : Ident) : Ident := { value := name.value }

/-- A written type without positions. -/
def TypeExpr.erase : TypeExpr → TypeExpr
  | .int _ => .int {}
  | .bool _ => .bool {}
  | .void _ => .void {}
  | .struct _ name => .struct {} name.erase

mutual

/-- An expression without positions and symbols. -/
def Expr.erase : Expr → Expr
  | .int _ value => .int {} value
  | .string _ written => .string {} written
  | .bool _ value => .bool {} value
  | .ident name => .ident name.erase
  | .dot _ base field => .dot {} base.erase field.erase
  | .assign _ target value => .assign {} target.erase value.erase
  | .call _ callee _ args => .call {} callee.erase {} (Expr.eraseAll args)
  | .unary _ op operand => .unary {} op operand.erase
  | .binary _ left op right => .binary {} left.erase op right.erase

/-- Expressions without positions and symbols. -/
def Expr.eraseAll : List Expr → List Expr
  | [] => []
  | e :: es => e.erase :: Expr.eraseAll es

end

/-- An assignment without positions and symbols. -/
def Assignment.erase (a : Assignment) : Assignment :=
  { target := a.target.erase, value := a.value.erase }

/-- A call without positions and symbols. -/
def Call.erase (c : Call) : Call :=
  { callee := c.callee.erase, args := Expr.eraseAll c.args }

/-- A formal parameter without positions and symbols. -/
def Formal.erase (f : Formal) : Formal :=
  { type := f.type.erase, name := f.name.erase }

/-- A parameter list without positions and symbols. -/
def Formals.erase (fs : Formals) : Formals :=
  { items := fs.items.map Formal.erase }

mutual

/-- A declaration without positions and symbols. -/
def Decl.erase : Decl → Decl
  | .var _ type name => .var {} type.erase name.erase
  | .func _ returnType name formals _ body =>
    .func {} returnType.erase name.erase formals.erase {} body.erase
  | .struct _ name _ fields => .struct {} name.erase {} (Decl.eraseAll fields)

/-- A statement without positions and symbols. -/
def Stmt.erase : Stmt → Stmt
  | .assign _ assignment => .assign {} assignment.erase
  | .increment _ place => .increment {} place.erase
  | .decrement _ place => .decrement {} place.erase
  | .read _ place => .read {} place.erase
  | .write _ value => .write {} value.erase
  | .ifThen _ cond body => .ifThen {} cond.erase body.erase
  | .ifElse _ cond yes no => .ifElse {} cond.erase yes.erase no.erase
  | .loop _ cond body => .loop {} cond.erase body.erase
  | .call _ call => .call {} call.erase
  | .ret _ value => .ret {} (value.map Expr.erase)

/-- A block without positions and symbols. -/
def Block.erase : Block → Block
  | .mk _ decls _ stmts => .mk {} (Decl.eraseAll decls) {} (Stmt.eraseAll stmts)

/-- Declarations without positions and symbols. -/
def Decl.eraseAll : List Decl → List Decl
  | [] => []
  | d :: ds => d.erase :: Decl.eraseAll ds

/-- Statements without positions and symbols. -/
def Stmt.eraseAll : List Stmt → List Stmt
  | [] => []
  | s :: ss => s.erase :: Stmt.eraseAll ss

end

/-- A program without positions and symbols. -/
def Program.erase (T : Program) : Program := { decls := Decl.eraseAll T.decls }

theorem Expr.isLocation_erase (e : Expr) : e.erase.isLocation = e.isLocation := by
  cases e <;> rfl

/-! ## Well-formedness -/

/-- The value of an identifier is a name of the language. -/
def Ident.WellFormed (name : Ident) : Prop :=
  Legal (.identifier, name.value)

/-- A written type names a struct by a name of the language. -/
def TypeExpr.WellFormed : TypeExpr → Prop
  | .struct _ name => name.WellFormed
  | _ => True

mutual

/-- Literals, names and operators are words of the language, and what is assigned to and what a
field is taken from are locations. -/
def Expr.WellFormed : Expr → Prop
  | .int _ value => Legal (.integer, value)
  | .string _ written => Legal (.string, written)
  | .bool _ _ => True
  | .ident name => name.WellFormed
  | .dot _ base field => base.isLocation = true ∧ base.WellFormed ∧ field.WellFormed
  | .assign _ target value => target.isLocation = true ∧ target.WellFormed ∧ value.WellFormed
  | .call _ callee _ args => callee.WellFormed ∧ Expr.AllWellFormed args
  | .unary _ op operand =>
    (op = .text (spelling .minus) ∨ op = .text (spelling .notOp)) ∧ operand.WellFormed
  | .binary _ left op right =>
    (∃ n, ∃ kind ∈ Grammar.operatorsAt n, op = .text (spelling kind)) ∧
      left.WellFormed ∧ right.WellFormed

/-- Every expression of a list is well-formed. -/
def Expr.AllWellFormed : List Expr → Prop
  | [] => True
  | e :: es => e.WellFormed ∧ Expr.AllWellFormed es

end

/-- A formal parameter has a type and a name of the language. -/
def Formal.WellFormed (f : Formal) : Prop :=
  f.type.WellFormed ∧ f.name.WellFormed

/-- A variable declaration, with a type and a name of the language. -/
def Decl.IsVariable : Decl → Prop
  | .var _ type name => type.WellFormed ∧ name.WellFormed
  | _ => False

mutual

/-- The expressions and blocks of a statement are well-formed, and what is counted or read is a
location. -/
def Stmt.WellFormed : Stmt → Prop
  | .assign _ assignment => assignment.expr.WellFormed
  | .increment _ place | .decrement _ place | .read _ place =>
    place.isLocation = true ∧ place.WellFormed
  | .write _ value => value.WellFormed
  | .ifThen _ cond body | .loop _ cond body => cond.WellFormed ∧ body.WellFormed
  | .ifElse _ cond yes no => cond.WellFormed ∧ yes.WellFormed ∧ no.WellFormed
  | .call _ call => call.expr.WellFormed
  | .ret _ value => ∀ e ∈ value, e.WellFormed

/-- A block declares variables only, and its statements are well-formed. -/
def Block.WellFormed : Block → Prop
  | .mk _ decls _ stmts => (∀ d ∈ decls, d.IsVariable) ∧ Stmt.AllWellFormed stmts

/-- Every statement of a list is well-formed. -/
def Stmt.AllWellFormed : List Stmt → Prop
  | [] => True
  | s :: ss => s.WellFormed ∧ Stmt.AllWellFormed ss

end

/-- A struct has variables for fields, and the parts of a function are well-formed. -/
def Decl.WellFormed : Decl → Prop
  | .var _ type name => type.WellFormed ∧ name.WellFormed
  | .func _ returnType name formals _ body =>
    returnType.WellFormed ∧ name.WellFormed ∧ (∀ f ∈ formals.items, f.WellFormed) ∧
      body.WellFormed
  | .struct _ name _ fields => name.WellFormed ∧ ∀ d ∈ fields, d.IsVariable

/-- Every declaration of a program is well-formed. -/
def Program.WellFormed (T : Program) : Prop :=
  ∀ d ∈ T.decls, d.WellFormed

end Minim
