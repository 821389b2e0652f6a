import Minim.Syntax.Outline

/-!
Legends: what the printers of trees write about the symbol of an identifier. Without a legend,
annotations are not shown at all.
-/

namespace Minim

/-- The texts of symbols by arena index, if they are to be shown. -/
abbrev Legend := Option (Int → String)

/-- The index and the text of an identifier's symbol, where there is something to show. -/
def Legend.note? (legend : Legend) (name : Ident) : Option (Int × String) :=
  match legend, name.symbol with
  | some text, some index => some (index, text index)
  | _, _ => none

@[simp] theorem Legend.note?_none (name : Ident) : Legend.note? none name = none := rfl

theorem Legend.note?_of_none {legend : Legend} {name : Ident} (bare : name.symbol = none) :
    legend.note? name = none := by
  cases legend with
  | none => rfl
  | some text => simp only [note?, bare]

theorem Legend.note?_of_some {text : Int → String} {name : Ident} {index : Int}
    (noted : name.symbol = some index) :
    Legend.note? (some text) name = some (index, text index) := by
  simp only [note?, noted]

/-! ## Uses

The identifiers that stand in expressions, as opposed to those that a declaration or a written type
introduces.
-/

/-- The identifiers of an expression. -/
def Expr.uses (e : Expr) : List Ident := (Node.expr e).identifiers

mutual

/-- The identifiers in the expressions of a declaration. -/
def Decl.uses : Decl → List Ident
  | .var _ _ _ => []
  | .func _ _ _ _ _ body => body.uses
  | .struct _ _ _ fields => Decl.usesAll fields

/-- The identifiers in the expressions of a statement. -/
def Stmt.uses : Stmt → List Ident
  | .assign _ assignment => assignment.expr.uses
  | .increment _ e | .decrement _ e | .read _ e | .write _ e => e.uses
  | .ifThen _ cond body | .loop _ cond body => cond.uses ++ body.uses
  | .ifElse _ cond yes no => cond.uses ++ yes.uses ++ no.uses
  | .call _ call => call.expr.uses
  | .ret _ none => []
  | .ret _ (some value) => value.uses

/-- The identifiers in the expressions of a block. -/
def Block.uses : Block → List Ident
  | .mk _ decls _ stmts => Decl.usesAll decls ++ Stmt.usesAll stmts

/-- The identifiers in the expressions of several declarations. -/
def Decl.usesAll : List Decl → List Ident
  | [] => []
  | d :: ds => d.uses ++ Decl.usesAll ds

/-- The identifiers in the expressions of several statements. -/
def Stmt.usesAll : List Stmt → List Ident
  | [] => []
  | s :: ss => s.uses ++ Stmt.usesAll ss

end

/-- The identifiers in the expressions of a tree. -/
def Node.uses : Node → List Ident
  | .program p => Decl.usesAll p.decls
  | .declList _ decls => Decl.usesAll decls
  | .decl d => d.uses
  | .body _ block => block.uses
  | .stmtList _ stmts => Stmt.usesAll stmts
  | .stmt s => s.uses
  | .exprList _ exprs => exprs.flatMap Expr.uses
  | .expr e => e.uses
  | .formals _ | .formal _ | .type _ => []

end Minim
