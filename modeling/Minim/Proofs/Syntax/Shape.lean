import Minim.Proofs.Parser.Program
import Minim.Syntax.Node

/-!
# The shape of trees that are read

Trees are wider than the grammar. Those that are read from tokens, whatever their values, have
locations where something is assigned, counted or read, and where a field is taken, and they have
variables only for the fields of a struct and the declarations of a block.
-/

namespace Minim

/-! ## Shape -/

mutual

/-- What is assigned to, and what a field is taken from, is a location. -/
def Expr.Shaped : Expr → Prop
  | .int _ _ | .string _ _ | .bool _ _ | .ident _ => True
  | .dot _ base _ => base.isLocation = true ∧ base.Shaped
  | .assign _ target value => target.isLocation = true ∧ target.Shaped ∧ value.Shaped
  | .call _ _ _ args => Expr.AllShaped args
  | .unary _ _ operand => operand.Shaped
  | .binary _ left _ right => left.Shaped ∧ right.Shaped

/-- Every expression of a list is shaped so. -/
def Expr.AllShaped : List Expr → Prop
  | [] => True
  | e :: es => e.Shaped ∧ Expr.AllShaped es

end

mutual

/-- What is counted or read is a location, and the expressions and blocks are shaped so. -/
def Stmt.Shaped : Stmt → Prop
  | .assign _ assignment => assignment.expr.Shaped
  | .increment _ place | .decrement _ place | .read _ place =>
    place.isLocation = true ∧ place.Shaped
  | .write _ value => value.Shaped
  | .ifThen _ cond body | .loop _ cond body => cond.Shaped ∧ body.Shaped
  | .ifElse _ cond yes no => cond.Shaped ∧ yes.Shaped ∧ no.Shaped
  | .call _ call => call.expr.Shaped
  | .ret _ value => ∀ e ∈ value, e.Shaped

/-- A block declares variables only, and its statements are shaped so. -/
def Block.Shaped : Block → Prop
  | .mk _ decls _ stmts => (∀ d ∈ decls, d.kind = .varDecl) ∧ Stmt.AllShaped stmts

/-- Every statement of a list is shaped so. -/
def Stmt.AllShaped : List Stmt → Prop
  | [] => True
  | s :: ss => s.Shaped ∧ Stmt.AllShaped ss

end

/-- A struct has variables for fields, and the body of a function is shaped so. -/
def Decl.Shaped : Decl → Prop
  | .var _ _ _ => True
  | .func _ _ _ _ _ body => body.Shaped
  | .struct _ _ _ fields => ∀ d ∈ fields, d.kind = .varDecl

/-- Every declaration of a program is shaped so. -/
def Program.Shaped (T : Program) : Prop :=
  ∀ d ∈ T.decls, d.Shaped

theorem Decl.shaped_of_kind {d : Decl} (isVar : d.kind = .varDecl) : d.Shaped := by
  cases d with
  | var => trivial
  | func => cases isVar
  | struct => cases isVar

/-! ## Derivations -/

namespace Grammar

theorem Exp.shaped {n : Nat} {u : List Token} {e : Expr} (h : Exp n u e) : e.Shaped := by
  induction h using Exp.rec (motive_2 := fun _ e _ => e.Shaped)
    (motive_3 := fun _ e _ => e.Shaped) (motive_4 := fun _ es _ => Expr.AllShaped es)
    (motive_5 := fun _ es _ => Expr.AllShaped es) with
  | assign _ location _ _ ih ih' => exact ⟨location, ih, ih'⟩
  | binary _ _ _ ih ih' => exact ⟨ih, ih'⟩
  | tighter _ _ ih => exact ih
  | unary _ ih => exact ih
  | sign _ _ ih => exact ih
  | suffixed _ ih => exact ih
  | int => trivial
  | string => trivial
  | yes => trivial
  | no => trivial
  | ident => trivial
  | paren _ _ _ ih => exact ih
  | dot _ location _ _ ih => exact ⟨location, ih⟩
  | call _ _ _ _ _ ih' => exact ih'
  | none => trivial
  | some _ _ ih ih' => exact ⟨ih, ih'⟩
  | done => trivial
  | more _ _ _ ih ih' => exact ⟨ih, ih'⟩

theorem Unary.shaped {u : List Token} {e : Expr} (h : Unary u e) : e.Shaped :=
  (Exp.unary h).shaped

theorem Variable.kind {u : List Token} {d : Decl} (h : Variable u d) : d.kind = .varDecl := by
  cases h
  rfl

theorem Variables.kind {u : List Token} {ds : List Decl} (h : Variables u ds) :
    ∀ d ∈ ds, d.kind = .varDecl := by
  induction h with
  | nil => exact List.forall_mem_nil _
  | cons first _ ih => exact List.forall_mem_cons.mpr ⟨first.kind, ih⟩

theorem Block.shaped {u : List Token} {b : Minim.Block} (h : Block u b) : b.Shaped := by
  induction h using Block.rec (motive_1 := fun _ s _ => s.Shaped)
    (motive_2 := fun _ ss _ => Stmt.AllShaped ss) with
  | assign e | call e => exact e.shaped
  | increment e location | decrement e location => exact ⟨location, e.shaped⟩
  | read _ _ e location => exact ⟨location, e.shaped⟩
  | write _ _ e => exact e.shaped
  | ret => exact nofun
  | retValue _ e =>
    rintro value ⟨⟩
    exact e.shaped
  | ifThen _ _ e _ _ ih | loop _ _ e _ _ ih => exact ⟨e.shaped, ih⟩
  | ifElse _ _ e _ _ _ _ ih ih' => exact ⟨e.shaped, ih, ih'⟩
  | nil => trivial
  | cons _ _ ih ih' => exact ⟨ih, ih'⟩
  | mk _ decls _ _ ih => exact ⟨decls.kind, ih⟩

theorem Declaration.shaped {u : List Token} {d : Decl} (h : Declaration u d) : d.Shaped := by
  cases h with
  | var decl => exact Decl.shaped_of_kind decl.kind
  | func _ _ _ _ _ block => exact block.shaped
  | struct _ _ _ fields | structEnded _ _ _ fields => exact fields.kind

theorem Declarations.shaped {u : List Token} {ds : List Decl} (h : Declarations u ds) :
    ∀ d ∈ ds, d.Shaped := by
  induction h with
  | nil => exact List.forall_mem_nil _
  | cons first _ ih => exact List.forall_mem_cons.mpr ⟨first.shaped, ih⟩

theorem Program.shaped {next : Token} {u : List Token} {T : Minim.Program}
    (h : Program next u T) : T.Shaped := by
  obtain ⟨decls⟩ := h
  exact decls.shaped

end Grammar

/-- What is read from tokens has the shape that the grammar gives. -/
theorem shaped_of_parseTokens {tokens : List Token} {T : Program}
    (read : parseTokens tokens = .ok T) : T.Shaped := by
  obtain ⟨derived⟩ := Parser.parseTokens_sound read
  exact derived.shaped

end Minim
