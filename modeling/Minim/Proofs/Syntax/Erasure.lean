import Minim.Proofs.Syntax.Idents

/-!
# The words of a tree

A tree without its positions and symbols is made of words alone. What is read off the words of a
tree is the same for all trees of these words: what its nodes are, and how many identifiers there
are.
-/

namespace Minim

@[simp] theorem Ident.erase_erase (name : Ident) : name.erase.erase = name.erase :=
  rfl

@[simp] theorem TypeExpr.erase_erase (type : TypeExpr) : type.erase.erase = type.erase := by
  cases type <;> rfl

/-! ## Identifiers -/

theorem TypeExpr.idents_erase (type : TypeExpr) :
    type.erase.idents = type.idents.map Ident.erase := by
  cases type <;> rfl

mutual

theorem Expr.idents_erase (e : Expr) : e.erase.idents = e.idents.map Ident.erase := by
  cases e with
  | int | string | bool | ident => rfl
  | dot pos base field =>
    rw [erase, idents, idents, Expr.idents_erase base, List.map_append, List.map_singleton]
  | assign pos target value =>
    rw [erase, idents, idents, Expr.idents_erase target, Expr.idents_erase value, List.map_append]
  | call pos callee argsPos args =>
    rw [erase, idents, idents, Expr.identsAll_eraseAll args, List.map_cons]
  | unary pos op operand => rw [erase, idents, idents, Expr.idents_erase operand]
  | binary pos left op right =>
    rw [erase, idents, idents, Expr.idents_erase left, Expr.idents_erase right, List.map_append]

theorem Expr.identsAll_eraseAll (es : List Expr) :
    Expr.identsAll (Expr.eraseAll es) = (Expr.identsAll es).map Ident.erase := by
  cases es with
  | nil => rfl
  | cons e es =>
    rw [eraseAll, identsAll, identsAll, Expr.idents_erase e, Expr.identsAll_eraseAll es,
      List.map_append]

end

theorem Formal.idents_erase (f : Formal) : f.erase.idents = f.idents.map Ident.erase := by
  rw [idents, idents, List.map_append, ← f.type.idents_erase]
  rfl

theorem Formals.idents_erase (fs : Formals) :
    fs.erase.items.flatMap Formal.idents = (fs.items.flatMap Formal.idents).map Ident.erase := by
  rw [erase, List.flatMap_map, List.map_flatMap]
  exact congrArg (List.flatMap · fs.items) (funext Formal.idents_erase)

mutual

theorem Decl.idents_erase (d : Decl) : d.erase.idents = d.idents.map Ident.erase := by
  cases d with
  | var pos type name =>
    rw [Decl.erase, Decl.idents, Decl.idents, type.idents_erase, List.map_append,
      List.map_singleton]
  | func pos returnType name formals bodyPos body =>
    rw [Decl.erase, Decl.idents, Decl.idents, returnType.idents_erase, formals.idents_erase,
      Block.idents_erase body, List.map_append, List.map_cons, List.map_append]
  | struct pos name fieldsPos fields =>
    rw [Decl.erase, Decl.idents, Decl.idents, Decl.identsAll_eraseAll fields, List.map_cons]

theorem Stmt.idents_erase (st : Stmt) : st.erase.idents = st.idents.map Ident.erase := by
  cases st with
  | assign pos a => exact a.expr.idents_erase
  | call pos c => exact c.expr.idents_erase
  | increment pos e | decrement pos e | read pos e | write pos e => exact e.idents_erase
  | ifThen pos cond body | loop pos cond body =>
    rw [Stmt.erase, Stmt.idents, Stmt.idents, cond.idents_erase, Block.idents_erase body,
      List.map_append]
  | ifElse pos cond yes no =>
    rw [Stmt.erase, Stmt.idents, Stmt.idents, cond.idents_erase, Block.idents_erase yes,
      Block.idents_erase no, List.map_append, List.map_append]
  | ret pos value =>
    cases value with
    | none => rfl
    | some e => exact e.idents_erase

theorem Block.idents_erase (b : Block) : b.erase.idents = b.idents.map Ident.erase := by
  obtain ⟨declsPos, decls, stmtsPos, stmts⟩ := b
  rw [Block.erase, Block.idents, Block.idents, Decl.identsAll_eraseAll decls,
    Stmt.identsAll_eraseAll stmts, List.map_append]

theorem Decl.identsAll_eraseAll (ds : List Decl) :
    Decl.identsAll (Decl.eraseAll ds) = (Decl.identsAll ds).map Ident.erase := by
  cases ds with
  | nil => rfl
  | cons d ds =>
    rw [Decl.eraseAll, Decl.identsAll, Decl.identsAll, Decl.idents_erase d,
      Decl.identsAll_eraseAll ds, List.map_append]

theorem Stmt.identsAll_eraseAll (ss : List Stmt) :
    Stmt.identsAll (Stmt.eraseAll ss) = (Stmt.identsAll ss).map Ident.erase := by
  cases ss with
  | nil => rfl
  | cons s ss =>
    rw [Stmt.eraseAll, Stmt.identsAll, Stmt.identsAll, Stmt.idents_erase s,
      Stmt.identsAll_eraseAll ss, List.map_append]

end

theorem Program.idents_erase (T : Program) : T.erase.idents = T.idents.map Ident.erase :=
  Decl.identsAll_eraseAll T.decls

/-! ## Words of words -/

mutual

theorem Expr.erase_erase (e : Expr) : e.erase.erase = e.erase := by
  cases e with
  | int | string | bool | ident => rfl
  | dot pos base field => rw [erase, erase, Expr.erase_erase base, Ident.erase_erase]
  | assign pos target value =>
    rw [erase, erase, Expr.erase_erase target, Expr.erase_erase value]
  | call pos callee argsPos args =>
    rw [erase, erase, Ident.erase_erase, Expr.eraseAll_eraseAll args]
  | unary pos op operand => rw [erase, erase, Expr.erase_erase operand]
  | binary pos left op right => rw [erase, erase, Expr.erase_erase left, Expr.erase_erase right]

theorem Expr.eraseAll_eraseAll (es : List Expr) :
    Expr.eraseAll (Expr.eraseAll es) = Expr.eraseAll es := by
  cases es with
  | nil => rfl
  | cons e es => rw [eraseAll, eraseAll, Expr.erase_erase e, Expr.eraseAll_eraseAll es]

end

theorem Assignment.erase_erase (a : Assignment) : a.erase.erase = a.erase := by
  simp only [erase, Expr.erase_erase]

theorem Call.erase_erase (c : Call) : c.erase.erase = c.erase := by
  simp only [erase, Ident.erase_erase, Expr.eraseAll_eraseAll]

theorem Formals.erase_erase (fs : Formals) : fs.erase.erase = fs.erase := by
  simp [erase, Formal.erase, Function.comp_def]

mutual

theorem Decl.erase_erase (d : Decl) : d.erase.erase = d.erase := by
  cases d with
  | var pos type name => rw [Decl.erase, Decl.erase, type.erase_erase, name.erase_erase]
  | func pos returnType name formals bodyPos body =>
    rw [Decl.erase, Decl.erase, returnType.erase_erase, name.erase_erase, formals.erase_erase,
      Block.erase_erase body]
  | struct pos name fieldsPos fields =>
    rw [Decl.erase, Decl.erase, name.erase_erase, Decl.eraseAll_eraseAll fields]

theorem Stmt.erase_erase (st : Stmt) : st.erase.erase = st.erase := by
  cases st with
  | assign pos a => rw [Stmt.erase, Stmt.erase, a.erase_erase]
  | call pos c => rw [Stmt.erase, Stmt.erase, c.erase_erase]
  | increment pos e | decrement pos e | read pos e | write pos e =>
    rw [Stmt.erase, Stmt.erase, e.erase_erase]
  | ifThen pos cond body | loop pos cond body =>
    rw [Stmt.erase, Stmt.erase, cond.erase_erase, Block.erase_erase body]
  | ifElse pos cond yes no =>
    rw [Stmt.erase, Stmt.erase, cond.erase_erase, Block.erase_erase yes, Block.erase_erase no]
  | ret pos value =>
    cases value with
    | none => rfl
    | some e => rw [Stmt.erase, Stmt.erase, Option.map_some, Option.map_some, e.erase_erase]

theorem Block.erase_erase (b : Block) : b.erase.erase = b.erase := by
  obtain ⟨declsPos, decls, stmtsPos, stmts⟩ := b
  rw [Block.erase, Block.erase, Decl.eraseAll_eraseAll decls, Stmt.eraseAll_eraseAll stmts]

theorem Decl.eraseAll_eraseAll (ds : List Decl) :
    Decl.eraseAll (Decl.eraseAll ds) = Decl.eraseAll ds := by
  cases ds with
  | nil => rfl
  | cons d ds =>
    rw [Decl.eraseAll, Decl.eraseAll, Decl.erase_erase d, Decl.eraseAll_eraseAll ds]

theorem Stmt.eraseAll_eraseAll (ss : List Stmt) :
    Stmt.eraseAll (Stmt.eraseAll ss) = Stmt.eraseAll ss := by
  cases ss with
  | nil => rfl
  | cons s ss =>
    rw [Stmt.eraseAll, Stmt.eraseAll, Stmt.erase_erase s, Stmt.eraseAll_eraseAll ss]

end

theorem Program.erase_erase (T : Program) : T.erase.erase = T.erase :=
  congrArg (Program.mk {} {} ·) (Decl.eraseAll_eraseAll T.decls)

/-! ## Kinds -/

theorem Expr.kind_erase (e : Expr) : e.erase.kind = e.kind := by
  cases e <;> rfl

theorem Decl.kind_erase (d : Decl) : d.erase.kind = d.kind := by
  cases d <;> rfl

end Minim
