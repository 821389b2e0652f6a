import Mathlib.Data.List.TakeWhile
import Minim.Syntax.Graph

/-!
# Roles and their texts

The text of an item's role is the name of its list with the number of the item in brackets. The
names of fields and lists in a tree are not empty and have no brackets of their own, so a role is
known by its text.
-/

namespace Minim

/-! ## Texts of roles -/

namespace Graph

/-- The role with a text: a bracket ends the name of a list, and the digits behind it are the number
of the item. -/
def roleOf (text : String) : Role :=
  if text = "" then .root
  else
    match text.toList.dropWhile (· ≠ '[') with
    | [] => .field text
    | _ :: index =>
      .item (String.ofList (text.toList.takeWhile (· ≠ '[')))
        (Nat.ofDigitChars 10 (index.takeWhile (· ≠ ']')) 0)

end Graph

/-- The name in a role is not empty and has no bracket. -/
def Role.IsPlain : Role → Prop
  | root => True
  | field name => name ≠ "" ∧ '[' ∉ name.toList
  | item list _ => list ≠ "" ∧ '[' ∉ list.toList

instance : DecidablePred Role.IsPlain
  | .root => inferInstanceAs (Decidable True)
  | .field name => inferInstanceAs (Decidable (name ≠ "" ∧ '[' ∉ name.toList))
  | .item list _ => inferInstanceAs (Decidable (list ≠ "" ∧ '[' ∉ list.toList))

theorem Role.isPlain_root : root.IsPlain := trivial

/-- An item has no name but that of its list. -/
theorem Role.isPlain_item {list : String} (plain : (field list).IsPlain) (index : Nat) :
    (item list index).IsPlain :=
  plain

namespace Graph

theorem ne_bracket_of_mem {name : String} (plain : '[' ∉ name.toList) :
    ∀ c ∈ name.toList, decide (c ≠ '[') = true :=
  fun _ mem => decide_eq_true (ne_of_mem_of_not_mem mem plain)

/-- A plain role is known by its text. -/
theorem roleOf_roleText {role : Role} (plain : role.IsPlain) : roleOf (roleText role) = role := by
  cases role with
  | root => rfl
  | field name =>
    obtain ⟨nonempty, plain⟩ := plain
    rw [roleText, roleOf, if_neg nonempty,
      List.dropWhile_eq_nil_iff.mpr (ne_bracket_of_mem plain)]
  | item list index =>
    obtain ⟨nonempty, plain⟩ := plain
    have digits : ∀ c ∈ Nat.toDigits 10 index, decide (c ≠ ']') = true := by
      intro c mem
      refine decide_eq_true ?_
      rintro rfl
      exact absurd (Nat.isDigit_of_mem_toDigits (by decide) (by decide) mem) (by decide)
    have shown : (roleText (.item list index)).toList =
        list.toList ++ '[' :: (Nat.toDigits 10 index ++ [']']) := by
      simp [roleText, Text.decimalNat]
    have some_ : roleText (.item list index) ≠ "" := fun none_ => by simp [none_] at shown
    rw [roleOf, if_neg some_, shown, List.dropWhile_append_of_pos (ne_bracket_of_mem plain),
      List.takeWhile_append_of_pos (ne_bracket_of_mem plain),
      List.dropWhile_cons_of_neg (by decide), List.takeWhile_cons_of_neg (by decide)]
    simp only [List.takeWhile_append_of_pos digits]
    rw [List.takeWhile_cons_of_neg (by decide), List.append_nil, List.append_nil,
      Nat.ofDigitChars_ten_toDigits, String.ofList_toList]

end Graph

/-! ## The roles in a tree -/

namespace Outline

mutual

/-- All roles in an outline are plain. -/
def IsPlain : Outline → Prop
  | mk role _ children => role.IsPlain ∧ ArePlain children

/-- All roles in several outlines are plain. -/
def ArePlain : List Outline → Prop
  | [] => True
  | o :: os => o.IsPlain ∧ ArePlain os

end

theorem IsPlain.children {o : Outline} (plain : o.IsPlain) : ArePlain o.children := by
  cases o
  exact plain.right

theorem arePlain_iff {os : List Outline} : ArePlain os ↔ ∀ o ∈ os, o.IsPlain := by
  induction os with
  | nil => simp [ArePlain]
  | cons o os ih => simp [ArePlain, ih]

theorem arePlain_append {os os' : List Outline} :
    ArePlain (os ++ os') ↔ ArePlain os ∧ ArePlain os' := by
  simp only [arePlain_iff, List.mem_append, or_imp, forall_and]

end Outline

open Outline

theorem Ident.isPlain_outline {role : Role} (plain : role.IsPlain) (name : Ident) :
    (name.outline role).IsPlain :=
  ⟨plain, trivial⟩

theorem TypeExpr.isPlain_outline {role : Role} (plain : role.IsPlain) (type : TypeExpr) :
    (type.outline role).IsPlain := by
  cases type with
  | struct pos name => exact ⟨plain, name.isPlain_outline (by decide), trivial⟩
  | _ => exact ⟨plain, trivial⟩

mutual

theorem Expr.isPlain_outline {role : Role} (plain : role.IsPlain) (e : Expr) :
    (e.outline role).IsPlain := by
  cases e with
  | int | string | bool | ident => exact ⟨plain, trivial⟩
  | dot pos base field =>
    exact ⟨plain, base.isPlain_outline (by decide), field.isPlain_outline (by decide), trivial⟩
  | assign pos target value =>
    exact ⟨plain, target.isPlain_outline (by decide), value.isPlain_outline (by decide), trivial⟩
  | call pos callee argsPos args =>
    exact ⟨plain, callee.isPlain_outline (by decide),
      ⟨by decide, Expr.arePlain_outlines 0 args⟩, trivial⟩
  | unary pos op operand => exact ⟨plain, operand.isPlain_outline (by decide), trivial⟩
  | binary pos left op right =>
    exact ⟨plain, left.isPlain_outline (by decide), right.isPlain_outline (by decide), trivial⟩

theorem Expr.arePlain_outlines (index : Nat) (es : List Expr) :
    ArePlain (Expr.outlines index es) := by
  cases es with
  | nil => trivial
  | cons e es =>
    exact ⟨e.isPlain_outline (Role.isPlain_item (by decide) index),
      Expr.arePlain_outlines (index + 1) es⟩

end

theorem Formal.isPlain_outline {role : Role} (plain : role.IsPlain) (f : Formal) :
    (f.outline role).IsPlain :=
  ⟨plain, f.type.isPlain_outline (by decide), f.name.isPlain_outline (by decide), trivial⟩

theorem Formals.isPlain_outline {role : Role} (plain : role.IsPlain) (fs : Formals) :
    (fs.outline role).IsPlain := by
  refine ⟨plain, arePlain_iff.mpr fun o mem => ?_⟩
  obtain ⟨index, small, rfl⟩ := List.mem_mapIdx.mp mem
  exact Formal.isPlain_outline (Role.isPlain_item (by decide) index) _

mutual

theorem Decl.isPlain_outline {role : Role} (plain : role.IsPlain) (d : Decl) :
    (d.outline role).IsPlain := by
  cases d with
  | var pos type name =>
    exact ⟨plain, type.isPlain_outline (by decide), name.isPlain_outline (by decide), trivial⟩
  | func pos returnType name formals bodyPos body =>
    exact ⟨plain, returnType.isPlain_outline (by decide), name.isPlain_outline (by decide),
      formals.isPlain_outline (by decide),
      ⟨by decide, body.arePlain_outlines (by decide) (by decide)⟩, trivial⟩
  | struct pos name fieldsPos fields =>
    exact ⟨plain, name.isPlain_outline (by decide),
      ⟨by decide, Decl.arePlain_outlines 0 fields⟩, trivial⟩

theorem Stmt.isPlain_outline {role : Role} (plain : role.IsPlain) (s : Stmt) :
    (s.outline role).IsPlain := by
  cases s with
  | assign pos assignment =>
    exact ⟨plain, assignment.expr.isPlain_outline (by decide), trivial⟩
  | increment pos e | decrement pos e | read pos e | write pos e =>
    exact ⟨plain, e.isPlain_outline (by decide), trivial⟩
  | ifThen pos cond body | loop pos cond body =>
    exact ⟨plain, cond.isPlain_outline (by decide),
      body.arePlain_outlines (by decide) (by decide)⟩
  | ifElse pos cond yes no =>
    exact ⟨plain, cond.isPlain_outline (by decide),
      arePlain_append.mpr ⟨yes.arePlain_outlines (by decide) (by decide),
        no.arePlain_outlines (by decide) (by decide)⟩⟩
  | call pos call => exact ⟨plain, call.expr.isPlain_outline (by decide), trivial⟩
  | ret pos value =>
    cases value with
    | none => exact ⟨plain, trivial⟩
    | some value => exact ⟨plain, value.isPlain_outline (by decide), trivial⟩

theorem Block.arePlain_outlines {declsRole stmtsRole : String}
    (decls_ : (Role.field declsRole).IsPlain) (stmts_ : (Role.field stmtsRole).IsPlain)
    (b : Block) : ArePlain (b.outlines declsRole stmtsRole) := by
  cases b with
  | mk declsPos decls stmtsPos stmts =>
    exact ⟨⟨decls_, Decl.arePlain_outlines 0 decls⟩, ⟨stmts_, Stmt.arePlain_outlines 0 stmts⟩,
      trivial⟩

theorem Decl.arePlain_outlines (index : Nat) (ds : List Decl) :
    ArePlain (Decl.outlines index ds) := by
  cases ds with
  | nil => trivial
  | cons d ds =>
    exact ⟨d.isPlain_outline (Role.isPlain_item (by decide) index),
      Decl.arePlain_outlines (index + 1) ds⟩

theorem Stmt.arePlain_outlines (index : Nat) (ss : List Stmt) :
    ArePlain (Stmt.outlines index ss) := by
  cases ss with
  | nil => trivial
  | cons s ss =>
    exact ⟨s.isPlain_outline (Role.isPlain_item (by decide) index),
      Stmt.arePlain_outlines (index + 1) ss⟩

end

/-- All roles in a tree are known by their texts. -/
theorem Node.isPlain_outline (node : Node) : node.outline.IsPlain := by
  cases node with
  | program p => exact ⟨trivial, ⟨by decide, Decl.arePlain_outlines 0 p.decls⟩, trivial⟩
  | declList pos decls => exact ⟨trivial, Decl.arePlain_outlines 0 decls⟩
  | decl d => exact d.isPlain_outline Role.isPlain_root
  | formals fs => exact fs.isPlain_outline Role.isPlain_root
  | formal f => exact f.isPlain_outline Role.isPlain_root
  | body pos block => exact ⟨trivial, block.arePlain_outlines (by decide) (by decide)⟩
  | stmtList pos stmts => exact ⟨trivial, Stmt.arePlain_outlines 0 stmts⟩
  | stmt s => exact s.isPlain_outline Role.isPlain_root
  | exprList pos exprs => exact ⟨trivial, Expr.arePlain_outlines 0 exprs⟩
  | expr e => exact e.isPlain_outline Role.isPlain_root
  | type t => exact t.isPlain_outline Role.isPlain_root

end Minim
