import Minim.Proofs.Syntax.Edits
import Minim.Proofs.Syntax.Namings
import Minim.Syntax.Dump
import Minim.Syntax.Graph

/-!
# What the printers read of a legend

A printer that shows symbols looks up the texts of the symbols that the identifiers of the tree are
annotated with, and no others: source text and graphs those of all identifiers, dumps those of the
identifiers in expressions. So two legends that say the same of these make the same text.
-/

namespace Minim

/-- Two legends say the same of some identifiers. -/
def Legend.SameOn (legend legend' : Legend) (names : List Ident) : Prop :=
  ∀ name ∈ names, legend.note? name = legend'.note? name

namespace Legend.SameOn

variable {legend legend' : Legend} {names names' : List Ident} {name : Ident}

theorem of_texts {text text' : Int → String}
    (same : ∀ name ∈ names, ∀ index, name.symbol = some index → text index = text' index) :
    Legend.SameOn (some text) (some text') names := by
  intro name mem
  cases annotated : name.symbol with
  | none => rw [note?_of_none annotated, note?_of_none annotated]
  | some index =>
    rw [note?_of_some annotated, note?_of_some annotated, same name mem index annotated]

theorem mono (h : legend.SameOn legend' names) (fewer : names' ⊆ names) :
    legend.SameOn legend' names' :=
  fun name mem => h name (fewer mem)

theorem head (h : legend.SameOn legend' (name :: names)) : legend.note? name = legend'.note? name :=
  h name (List.mem_cons_self ..)

theorem tail (h : legend.SameOn legend' (name :: names)) : legend.SameOn legend' names :=
  h.mono (List.subset_cons_self ..)

theorem left (h : legend.SameOn legend' (names ++ names')) : legend.SameOn legend' names :=
  h.mono (List.subset_append_left ..)

theorem right (h : legend.SameOn legend' (names ++ names')) : legend.SameOn legend' names' :=
  h.mono (List.subset_append_right ..)

end Legend.SameOn

variable {legend legend' : Legend}

/-! ## Source text -/

/-- The identifiers that stand in place of some identifiers are written with one legend as these are
with the other. -/
def Edit.WritesAs (f : Edit) (legend legend' : Legend) (names : List Ident) : Prop :=
  ∀ name ∈ names, (f.ident name).source legend' = name.source legend

section

variable {f : Edit}

theorem Edit.WritesAs.split {names names' : List Ident}
    (h : f.WritesAs legend legend' (names ++ names')) :
    f.WritesAs legend legend' names ∧ f.WritesAs legend legend' names' :=
  List.forall_mem_append.mp h

theorem Edit.WritesAs.cons {name : Ident} {names : List Ident}
    (h : f.WritesAs legend legend' (name :: names)) :
    (f.ident name).source legend' = name.source legend ∧ f.WritesAs legend legend' names :=
  List.forall_mem_cons.mp h

theorem TypeExpr.source_edit (type : TypeExpr) (h : f.WritesAs legend legend' type.idents) :
    (type.edit f).source legend' = type.source legend := by
  cases type with
  | struct pos name => rw [edit, source, source, h.cons.1]
  | _ => rfl

mutual

theorem Expr.source_edit (e : Expr) (h : f.WritesAs legend legend' e.idents) (nested : Bool) :
    (e.edit f).source legend' nested = e.source legend nested := by
  cases e with
  | int | string | bool => rfl
  | ident name => exact h.cons.1
  | dot pos base field =>
    obtain ⟨inBase, inField⟩ := h.split
    rw [edit, source, source, base.source_edit inBase, inField.cons.1]
  | assign pos target value =>
    obtain ⟨inTarget, inValue⟩ := h.split
    rw [edit, source, source, target.source_edit inTarget, value.source_edit inValue]
  | call pos callee argsPos args =>
    obtain ⟨atCallee, inArgs⟩ := h.cons
    rw [edit, source, source, atCallee, Expr.sourceArgs_edit args inArgs]
  | unary pos op operand => rw [edit, source, source, operand.source_edit h]
  | binary pos left op right =>
    obtain ⟨inLeft, inRight⟩ := h.split
    rw [edit, source, source, left.source_edit inLeft, right.source_edit inRight]

theorem Expr.sourceArgs_edit (es : List Expr)
    (h : f.WritesAs legend legend' (Expr.identsAll es)) :
    Expr.sourceArgs legend' (Expr.editAll f es) = Expr.sourceArgs legend es := by
  cases es with
  | nil => rfl
  | cons e es =>
    obtain ⟨first, others⟩ := h.split
    cases es with
    | nil => exact e.source_edit first true
    | cons e' es =>
      show (e.edit f).source legend' true ++ ", " ++
          Expr.sourceArgs legend' (Expr.editAll f (e' :: es)) =
        e.source legend true ++ ", " ++ Expr.sourceArgs legend (e' :: es)
      rw [e.source_edit first, Expr.sourceArgs_edit (e' :: es) others]

end

theorem Formal.source_edit (formal : Formal) (h : f.WritesAs legend legend' formal.idents) :
    (formal.edit f).source legend' = formal.source legend := by
  obtain ⟨inType, atName⟩ := h.split
  rw [source, source, edit, formal.type.source_edit inType, atName.cons.1]

theorem Formals.source_edit (formals : Formals)
    (h : f.WritesAs legend legend' (formals.items.flatMap Formal.idents)) :
    (formals.edit f).source legend' = formals.source legend := by
  rw [source, source, edit, List.map_map]
  refine congrArg (", ".intercalate ·) (List.map_congr_left fun formal mem => ?_)
  exact formal.source_edit fun name inside => h name (List.mem_flatMap.mpr ⟨formal, mem, inside⟩)

mutual

theorem Decl.source_edit (indent : Nat) (d : Decl) (h : f.WritesAs legend legend' d.idents) :
    (d.edit f).source legend' indent = d.source legend indent := by
  cases d with
  | var pos type name =>
    obtain ⟨inType, atName⟩ := h.split
    rw [Decl.edit, Decl.source, Decl.source, type.source_edit inType, atName.cons.1]
  | func pos returnType name formals bodyPos body =>
    obtain ⟨inType, others⟩ := h.split
    obtain ⟨atName, others⟩ := others.cons
    obtain ⟨inFormals, inBody⟩ := others.split
    rw [Decl.edit, Decl.source, Decl.source, returnType.source_edit inType, atName,
      formals.source_edit inFormals, Block.source_edit _ body inBody]
  | struct pos name fieldsPos fields =>
    obtain ⟨atName, inFields⟩ := h.cons
    rw [Decl.edit, Decl.source, Decl.source, atName, Decl.sourceAll_edit _ fields inFields]

theorem Stmt.source_edit (indent : Nat) (st : Stmt) (h : f.WritesAs legend legend' st.idents) :
    (st.edit f).source legend' indent = st.source legend indent := by
  cases st with
  | assign pos a =>
    have edited : (a.edit f).expr = a.expr.edit f := rfl
    rw [Stmt.edit, Stmt.source, Stmt.source, edited, a.expr.source_edit h]
  | call pos c =>
    have edited : (c.edit f).expr = c.expr.edit f := rfl
    rw [Stmt.edit, Stmt.source, Stmt.source, edited, c.expr.source_edit h]
  | increment pos e | decrement pos e | read pos e | write pos e =>
    rw [Stmt.edit, Stmt.source, Stmt.source, e.source_edit h]
  | ifThen pos cond body | loop pos cond body =>
    obtain ⟨inCond, inBody⟩ := h.split
    rw [Stmt.edit, Stmt.source, Stmt.source, cond.source_edit inCond,
      Block.source_edit _ body inBody]
  | ifElse pos cond yes no =>
    obtain ⟨inCond, others⟩ := h.split
    obtain ⟨inYes, inNo⟩ := others.split
    rw [Stmt.edit, Stmt.source, Stmt.source, cond.source_edit inCond, Block.source_edit _ yes inYes,
      Block.source_edit _ no inNo]
  | ret pos value =>
    cases value with
    | none => rfl
    | some e => rw [Stmt.edit, Option.map_some, Stmt.source, Stmt.source, e.source_edit h]

theorem Block.source_edit (indent : Nat) (b : Block) (h : f.WritesAs legend legend' b.idents) :
    (b.edit f).source legend' indent = b.source legend indent := by
  obtain ⟨declsPos, decls, stmtsPos, stmts⟩ := b
  obtain ⟨inDecls, inStmts⟩ := h.split
  rw [Block.edit, Block.source, Block.source, Decl.sourceAll_edit _ decls inDecls,
    Stmt.sourceAll_edit _ stmts inStmts]

theorem Decl.sourceAll_edit (indent : Nat) (ds : List Decl)
    (h : f.WritesAs legend legend' (Decl.identsAll ds)) :
    Decl.sourceAll legend' indent (Decl.editAll f ds) = Decl.sourceAll legend indent ds := by
  cases ds with
  | nil => rfl
  | cons d ds =>
    obtain ⟨first, others⟩ := h.split
    rw [Decl.editAll, Decl.sourceAll, Decl.sourceAll, Decl.source_edit _ d first,
      Decl.sourceAll_edit _ ds others]

theorem Stmt.sourceAll_edit (indent : Nat) (ss : List Stmt)
    (h : f.WritesAs legend legend' (Stmt.identsAll ss)) :
    Stmt.sourceAll legend' indent (Stmt.editAll f ss) = Stmt.sourceAll legend indent ss := by
  cases ss with
  | nil => rfl
  | cons s ss =>
    obtain ⟨first, others⟩ := h.split
    rw [Stmt.editAll, Stmt.sourceAll, Stmt.sourceAll, Stmt.source_edit _ s first,
      Stmt.sourceAll_edit _ ss others]

end

/-- The source text of an edited tree, with one legend, is that of the tree, with another one, if
the identifiers of both are written in the same way. -/
theorem Node.source_edit (node : Node) (h : f.WritesAs legend legend' node.idents) :
    (node.edit f).source legend' = node.source legend := by
  cases node with
  | program T => exact Decl.sourceAll_edit 0 T.decls h
  | declList pos decls => exact Decl.sourceAll_edit 0 decls h
  | decl d => exact d.source_edit 0 h
  | formals formals => exact formals.source_edit h
  | formal formal => exact formal.source_edit h
  | body pos block => exact block.source_edit 0 h
  | stmtList pos stmts => exact Stmt.sourceAll_edit 0 stmts h
  | stmt st => exact st.source_edit 0 h
  | exprList pos exprs => exact Expr.sourceArgs_edit exprs h
  | expr e => exact e.source_edit h false
  | type type => exact type.source_edit h

end

theorem Ident.source_congr {name : Ident} (h : legend.note? name = legend'.note? name) :
    name.source legend = name.source legend' := by
  rw [source, source, h]

/-- Source text shows the symbols of the identifiers of a program. -/
theorem Program.source_congr (T : Program) (h : legend.SameOn legend' T.idents) :
    T.source legend = T.source legend' := by
  have same : Decl.editAll { ident := id } T.decls = T.decls :=
    Decl.editAll_of_fixed (fun _ => rfl) T.decls fun _ _ => rfl
  have edited := Decl.sourceAll_edit (f := { ident := id }) 0 T.decls fun name mem =>
    Ident.source_congr (h name mem).symm
  rw [same] at edited
  exact edited.symm

/-! ## Dumps -/

theorem Ident.dumpText_congr {name : Ident} (h : legend.note? name = legend'.note? name) :
    name.dumpText legend = name.dumpText legend' := by
  rw [dumpText, dumpText, h]

mutual

theorem Expr.dump_congr (e : Expr) (h : legend.SameOn legend' e.idents) (indent : Int)
    (label : String) : e.dump legend indent label = e.dump legend' indent label := by
  cases e with
  | int | string | bool => rfl
  | ident name => rw [dump, dump, Ident.dumpText_congr h.head]
  | dot pos base field =>
    rw [dump, dump, base.dump_congr h.left, Ident.dumpText_congr h.right.head]
  | assign pos target value =>
    rw [dump, dump, target.dump_congr h.left, value.dump_congr h.right]
  | call pos callee argsPos args =>
    rw [dump, dump, Ident.dumpText_congr h.head, Expr.dumpItems_congr args h.tail]
  | unary pos op operand => rw [dump, dump, operand.dump_congr h]
  | binary pos left op right => rw [dump, dump, left.dump_congr h.left, right.dump_congr h.right]

theorem Expr.dumpItems_congr (es : List Expr) (h : legend.SameOn legend' (Expr.identsAll es))
    (indent : Int) (list : String) (index : Nat) :
    Expr.dumpItems legend indent list index es = Expr.dumpItems legend' indent list index es := by
  cases es with
  | nil => rfl
  | cons e es =>
    rw [dumpItems, dumpItems, e.dump_congr h.left, Expr.dumpItems_congr es h.right]

end

theorem Expr.uses_eq (e : Expr) : e.uses = e.idents :=
  Node.identifiers_eq_idents (.expr e)

mutual

theorem Decl.dump_congr (d : Decl) (h : legend.SameOn legend' d.uses) (indent : Int)
    (label : String) : d.dump legend indent label = d.dump legend' indent label := by
  cases d with
  | var => rfl
  | func pos returnType name formals bodyPos body =>
    rw [Decl.dump, Decl.dump, Block.dump_congr body h]
  | struct pos name fieldsPos fields => rw [Decl.dump, Decl.dump, Decl.dumpItems_congr fields h]

theorem Stmt.dump_congr (st : Stmt) (h : legend.SameOn legend' st.uses) (indent : Int)
    (label : String) : st.dump legend indent label = st.dump legend' indent label := by
  have ofExpr (e : Expr) (h : legend.SameOn legend' e.uses) (indent : Int) (label : String) :
      e.dump legend indent label = e.dump legend' indent label :=
    e.dump_congr (e.uses_eq ▸ h) indent label
  cases st with
  | assign pos a => rw [Stmt.dump, Stmt.dump, ofExpr a.expr h]
  | increment pos e | decrement pos e | read pos e | write pos e =>
    rw [Stmt.dump, Stmt.dump, ofExpr e h]
  | ifThen pos cond body | loop pos cond body =>
    rw [Stmt.dump, Stmt.dump, ofExpr cond h.left, Block.dump_congr body h.right]
  | ifElse pos cond yes no =>
    rw [Stmt.dump, Stmt.dump, ofExpr cond h.left.left, Block.dump_congr yes h.left.right,
      Block.dump_congr no h.right]
  | call pos c => rw [Stmt.dump, Stmt.dump, ofExpr c.expr h]
  | ret pos value =>
    cases value with
    | none => rfl
    | some e => rw [Stmt.dump, Stmt.dump, ofExpr e h]

theorem Block.dump_congr (b : Block) (h : legend.SameOn legend' b.uses) (indent : Int)
    (declsLabel stmtsLabel : String) :
    b.dump legend indent declsLabel stmtsLabel = b.dump legend' indent declsLabel stmtsLabel := by
  obtain ⟨declsPos, decls, stmtsPos, stmts⟩ := b
  rw [Block.dump, Block.dump, Decl.dumpItems_congr decls h.left, Stmt.dumpItems_congr stmts h.right]

theorem Decl.dumpItems_congr (ds : List Decl) (h : legend.SameOn legend' (Decl.usesAll ds))
    (indent : Int) (index : Nat) :
    Decl.dumpItems legend indent index ds = Decl.dumpItems legend' indent index ds := by
  cases ds with
  | nil => rfl
  | cons d ds =>
    rw [Decl.dumpItems, Decl.dumpItems, Decl.dump_congr d h.left, Decl.dumpItems_congr ds h.right]

theorem Stmt.dumpItems_congr (ss : List Stmt) (h : legend.SameOn legend' (Stmt.usesAll ss))
    (indent : Int) (index : Nat) :
    Stmt.dumpItems legend indent index ss = Stmt.dumpItems legend' indent index ss := by
  cases ss with
  | nil => rfl
  | cons s ss =>
    rw [Stmt.dumpItems, Stmt.dumpItems, Stmt.dump_congr s h.left, Stmt.dumpItems_congr ss h.right]

end

/-- Dumps show the symbols of the identifiers in the expressions of a program. -/
theorem Program.dump_congr (T : Program) (h : legend.SameOn legend' (Node.program T).uses)
    (indent : Int) (label : String) : T.dump legend indent label = T.dump legend' indent label := by
  rw [dump, dump, Decl.dumpItems_congr T.decls h]

mutual

theorem Decl.uses_sublist (d : Decl) : d.uses.Sublist d.idents := by
  cases d with
  | var => exact List.nil_sublist _
  | func pos returnType name formals bodyPos body =>
    have inside := (Block.uses_sublist body).trans (List.sublist_append_right
      (formals.items.flatMap Formal.idents) body.idents)
    exact (inside.cons name).trans (List.sublist_append_right ..)
  | struct pos name fieldsPos fields => exact (Decl.usesAll_sublist fields).cons name

theorem Stmt.uses_sublist (st : Stmt) : st.uses.Sublist st.idents := by
  have ofExpr (e : Expr) : e.uses.Sublist e.idents := e.uses_eq ▸ .refl _
  cases st with
  | assign pos a => exact ofExpr a.expr
  | increment pos e | decrement pos e | read pos e | write pos e => exact ofExpr e
  | ifThen pos cond body | loop pos cond body =>
    exact (ofExpr cond).append (Block.uses_sublist body)
  | ifElse pos cond yes no =>
    rw [Stmt.uses, List.append_assoc]
    exact (ofExpr cond).append ((Block.uses_sublist yes).append (Block.uses_sublist no))
  | call pos c => exact ofExpr c.expr
  | ret pos value =>
    cases value with
    | none => exact List.nil_sublist _
    | some e => exact ofExpr e

theorem Block.uses_sublist (b : Block) : b.uses.Sublist b.idents := by
  obtain ⟨declsPos, decls, stmtsPos, stmts⟩ := b
  exact (Decl.usesAll_sublist decls).append (Stmt.usesAll_sublist stmts)

theorem Decl.usesAll_sublist (ds : List Decl) :
    (Decl.usesAll ds).Sublist (Decl.identsAll ds) := by
  cases ds with
  | nil => exact List.nil_sublist _
  | cons d ds => exact (Decl.uses_sublist d).append (Decl.usesAll_sublist ds)

theorem Stmt.usesAll_sublist (ss : List Stmt) :
    (Stmt.usesAll ss).Sublist (Stmt.identsAll ss) := by
  cases ss with
  | nil => exact List.nil_sublist _
  | cons s ss => exact (Stmt.uses_sublist s).append (Stmt.usesAll_sublist ss)

end

/-! ## Graphs -/

namespace Graph

/-- A node of a graph shows the symbol of the identifier it is. -/
theorem label_congr {node : Node} (h : legend.SameOn legend' node.ident?.toList) :
    label legend node = label legend' node := by
  have shown : shownDetail legend node = shownDetail legend' node := by
    rw [shownDetail, shownDetail]
    cases isIdent : node.ident? with
    | none => rfl
    | some name =>
      rw [isIdent] at h
      rw [Option.bind_some, Option.bind_some, h.head]
  rw [label, label, shown]

theorem fill?_congr {text text' : Int → String} (node : Node) :
    fill? (some text) node = fill? (some text') node := by
  cases isIdent : node.ident? <;> simp only [fill?, isIdent]

variable {text text' : Int → String}

mutual

theorem statements_congr (o : Outline)
    (h : Legend.SameOn (some text) (some text') (Outline.identsOf [o])) (next : Nat) :
    statements (some text) next o = statements (some text') next o := by
  obtain ⟨role, self, children⟩ := o
  rw [Outline.identsOf_cons] at h
  rw [statements_mk, statements_mk, label_congr h.left, fill?_congr,
    childStatements_congr children h.right.left]

theorem childStatements_congr (os : List Outline)
    (h : Legend.SameOn (some text) (some text') (Outline.identsOf os)) (parent next : Nat) :
    childStatements (some text) parent next os = childStatements (some text') parent next os := by
  cases os with
  | nil => rfl
  | cons o os =>
    have parts : Outline.identsOf (o :: os) = Outline.identsOf [o] ++ Outline.identsOf os :=
      Outline.identsOf_append [o] os
    rw [parts] at h
    simp only [childStatements_cons, statements_congr o h.left, childStatements_congr os h.right]

end

/-- Graphs show the symbols of the identifiers of a tree. -/
theorem dot_congr (node : Node)
    (h : Legend.SameOn (some text) (some text') node.identifiers) :
    dot (some text) node = dot (some text') node := by
  rw [Node.identifiers_eq] at h
  rw [dot, dot, ofNode, ofNode, statements_congr node.outline h]

end Graph

end Minim
