import Minim.Proofs.Syntax.Erasure

/-!
# Edits of trees

An edit puts the nodes of a tree at other positions and changes its identifiers one by one. The
shape of the tree, its literals and its operators stay what they are. A tree that is moved in its
text, one with other names and one with other annotations are all edits of the tree.
-/

namespace Minim

/-- What becomes of the positions and of the identifiers of a tree. -/
structure Edit where
  pos : Position → Position := id
  ident : Ident → Ident

/-! ## Editing each sort of node -/

/-- A written type after an edit. -/
def TypeExpr.edit (f : Edit) : TypeExpr → TypeExpr
  | .int pos => .int (f.pos pos)
  | .bool pos => .bool (f.pos pos)
  | .void pos => .void (f.pos pos)
  | .struct pos name => .struct (f.pos pos) (f.ident name)

mutual

/-- An expression after an edit. -/
def Expr.edit (f : Edit) : Expr → Expr
  | .int pos value => .int (f.pos pos) value
  | .string pos written => .string (f.pos pos) written
  | .bool pos value => .bool (f.pos pos) value
  | .ident name => .ident (f.ident name)
  | .dot pos base field => .dot (f.pos pos) (base.edit f) (f.ident field)
  | .assign pos target value => .assign (f.pos pos) (target.edit f) (value.edit f)
  | .call pos callee argsPos args =>
    .call (f.pos pos) (f.ident callee) (f.pos argsPos) (Expr.editAll f args)
  | .unary pos op operand => .unary (f.pos pos) op (operand.edit f)
  | .binary pos left op right => .binary (f.pos pos) (left.edit f) op (right.edit f)

/-- Expressions after an edit. -/
def Expr.editAll (f : Edit) : List Expr → List Expr
  | [] => []
  | e :: es => e.edit f :: Expr.editAll f es

end

/-- An assignment after an edit. -/
def Assignment.edit (f : Edit) (a : Assignment) : Assignment :=
  { pos := f.pos a.pos, target := a.target.edit f, value := a.value.edit f }

/-- A call after an edit. -/
def Call.edit (f : Edit) (c : Call) : Call :=
  { pos := f.pos c.pos, callee := f.ident c.callee, argsPos := f.pos c.argsPos,
    args := Expr.editAll f c.args }

/-- A formal parameter after an edit. -/
def Formal.edit (f : Edit) (formal : Formal) : Formal :=
  { pos := f.pos formal.pos, type := formal.type.edit f, name := f.ident formal.name }

/-- A parameter list after an edit. -/
def Formals.edit (f : Edit) (formals : Formals) : Formals :=
  { pos := f.pos formals.pos, items := formals.items.map (Formal.edit f) }

mutual

/-- A declaration after an edit. -/
def Decl.edit (f : Edit) : Decl → Decl
  | .var pos type name => .var (f.pos pos) (type.edit f) (f.ident name)
  | .func pos returnType name formals bodyPos body =>
    .func (f.pos pos) (returnType.edit f) (f.ident name) (formals.edit f) (f.pos bodyPos)
      (body.edit f)
  | .struct pos name fieldsPos fields =>
    .struct (f.pos pos) (f.ident name) (f.pos fieldsPos) (Decl.editAll f fields)

/-- A statement after an edit. -/
def Stmt.edit (f : Edit) : Stmt → Stmt
  | .assign pos assignment => .assign (f.pos pos) (assignment.edit f)
  | .increment pos place => .increment (f.pos pos) (place.edit f)
  | .decrement pos place => .decrement (f.pos pos) (place.edit f)
  | .read pos place => .read (f.pos pos) (place.edit f)
  | .write pos value => .write (f.pos pos) (value.edit f)
  | .ifThen pos cond body => .ifThen (f.pos pos) (cond.edit f) (body.edit f)
  | .ifElse pos cond yes no => .ifElse (f.pos pos) (cond.edit f) (yes.edit f) (no.edit f)
  | .loop pos cond body => .loop (f.pos pos) (cond.edit f) (body.edit f)
  | .call pos call => .call (f.pos pos) (call.edit f)
  | .ret pos value => .ret (f.pos pos) (value.map (Expr.edit f))

/-- A block after an edit. -/
def Block.edit (f : Edit) : Block → Block
  | .mk declsPos decls stmtsPos stmts =>
    .mk (f.pos declsPos) (Decl.editAll f decls) (f.pos stmtsPos) (Stmt.editAll f stmts)

/-- Declarations after an edit. -/
def Decl.editAll (f : Edit) : List Decl → List Decl
  | [] => []
  | d :: ds => d.edit f :: Decl.editAll f ds

/-- Statements after an edit. -/
def Stmt.editAll (f : Edit) : List Stmt → List Stmt
  | [] => []
  | s :: ss => s.edit f :: Stmt.editAll f ss

end

/-- A program after an edit. -/
def Program.edit (f : Edit) (T : Program) : Program :=
  { pos := f.pos T.pos, declsPos := f.pos T.declsPos, decls := Decl.editAll f T.decls }

/-- Any node after an edit. -/
def Node.edit (f : Edit) : Node → Node
  | .program T => .program (T.edit f)
  | .declList pos decls => .declList (f.pos pos) (Decl.editAll f decls)
  | .decl d => .decl (d.edit f)
  | .formals fs => .formals (fs.edit f)
  | .formal p => .formal (p.edit f)
  | .body pos block => .body (f.pos pos) (block.edit f)
  | .stmtList pos stmts => .stmtList (f.pos pos) (Stmt.editAll f stmts)
  | .stmt st => .stmt (st.edit f)
  | .exprList pos exprs => .exprList (f.pos pos) (Expr.editAll f exprs)
  | .expr e => .expr (e.edit f)
  | .type t => .type (t.edit f)

/-! ## What stays -/

theorem Expr.isLocation_edit (f : Edit) (e : Expr) : (e.edit f).isLocation = e.isLocation := by
  cases e <;> rfl

/-! ## Identifiers -/

theorem TypeExpr.idents_edit (f : Edit) (type : TypeExpr) :
    (type.edit f).idents = type.idents.map f.ident := by
  cases type <;> rfl

mutual

theorem Expr.idents_edit (f : Edit) (e : Expr) : (e.edit f).idents = e.idents.map f.ident := by
  cases e with
  | int | string | bool | ident => rfl
  | dot pos base field =>
    rw [edit, idents, idents, Expr.idents_edit f base, List.map_append, List.map_singleton]
  | assign pos target value =>
    rw [edit, idents, idents, Expr.idents_edit f target, Expr.idents_edit f value, List.map_append]
  | call pos callee argsPos args =>
    rw [edit, idents, idents, Expr.identsAll_editAll f args, List.map_cons]
  | unary pos op operand => rw [edit, idents, idents, Expr.idents_edit f operand]
  | binary pos left op right =>
    rw [edit, idents, idents, Expr.idents_edit f left, Expr.idents_edit f right, List.map_append]

theorem Expr.identsAll_editAll (f : Edit) (es : List Expr) :
    Expr.identsAll (Expr.editAll f es) = (Expr.identsAll es).map f.ident := by
  cases es with
  | nil => rfl
  | cons e es =>
    rw [editAll, identsAll, identsAll, Expr.idents_edit f e, Expr.identsAll_editAll f es,
      List.map_append]

end

theorem Formal.idents_edit (f : Edit) (formal : Formal) :
    (formal.edit f).idents = formal.idents.map f.ident := by
  rw [idents, idents, List.map_append, ← formal.type.idents_edit]
  rfl

theorem Formals.idents_edit (f : Edit) (formals : Formals) :
    (formals.edit f).items.flatMap Formal.idents =
      (formals.items.flatMap Formal.idents).map f.ident := by
  rw [edit, List.flatMap_map, List.map_flatMap]
  exact congrArg (List.flatMap · formals.items) (funext (Formal.idents_edit f))

mutual

theorem Decl.idents_edit (f : Edit) (d : Decl) : (d.edit f).idents = d.idents.map f.ident := by
  cases d with
  | var pos type name =>
    rw [Decl.edit, Decl.idents, Decl.idents, type.idents_edit, List.map_append,
      List.map_singleton]
  | func pos returnType name formals bodyPos body =>
    rw [Decl.edit, Decl.idents, Decl.idents, returnType.idents_edit, formals.idents_edit,
      Block.idents_edit f body, List.map_append, List.map_cons, List.map_append]
  | struct pos name fieldsPos fields =>
    rw [Decl.edit, Decl.idents, Decl.idents, Decl.identsAll_editAll f fields, List.map_cons]

theorem Stmt.idents_edit (f : Edit) (st : Stmt) : (st.edit f).idents = st.idents.map f.ident := by
  cases st with
  | assign pos a => exact a.expr.idents_edit f
  | call pos c => exact c.expr.idents_edit f
  | increment pos e | decrement pos e | read pos e | write pos e => exact e.idents_edit f
  | ifThen pos cond body | loop pos cond body =>
    rw [Stmt.edit, Stmt.idents, Stmt.idents, cond.idents_edit, Block.idents_edit f body,
      List.map_append]
  | ifElse pos cond yes no =>
    rw [Stmt.edit, Stmt.idents, Stmt.idents, cond.idents_edit, Block.idents_edit f yes,
      Block.idents_edit f no, List.map_append, List.map_append]
  | ret pos value =>
    cases value with
    | none => rfl
    | some e => exact e.idents_edit f

theorem Block.idents_edit (f : Edit) (b : Block) : (b.edit f).idents = b.idents.map f.ident := by
  obtain ⟨declsPos, decls, stmtsPos, stmts⟩ := b
  rw [Block.edit, Block.idents, Block.idents, Decl.identsAll_editAll f decls,
    Stmt.identsAll_editAll f stmts, List.map_append]

theorem Decl.identsAll_editAll (f : Edit) (ds : List Decl) :
    Decl.identsAll (Decl.editAll f ds) = (Decl.identsAll ds).map f.ident := by
  cases ds with
  | nil => rfl
  | cons d ds =>
    rw [Decl.editAll, Decl.identsAll, Decl.identsAll, Decl.idents_edit f d,
      Decl.identsAll_editAll f ds, List.map_append]

theorem Stmt.identsAll_editAll (f : Edit) (ss : List Stmt) :
    Stmt.identsAll (Stmt.editAll f ss) = (Stmt.identsAll ss).map f.ident := by
  cases ss with
  | nil => rfl
  | cons s ss =>
    rw [Stmt.editAll, Stmt.identsAll, Stmt.identsAll, Stmt.idents_edit f s,
      Stmt.identsAll_editAll f ss, List.map_append]

end

theorem Node.idents_edit (f : Edit) (node : Node) :
    (node.edit f).idents = node.idents.map f.ident := by
  cases node with
  | program T => exact Decl.identsAll_editAll f T.decls
  | declList pos decls => exact Decl.identsAll_editAll f decls
  | decl d => exact d.idents_edit f
  | formals formals => exact formals.idents_edit f
  | formal formal => exact formal.idents_edit f
  | body pos block => exact block.idents_edit f
  | stmtList pos stmts => exact Stmt.identsAll_editAll f stmts
  | stmt st => exact st.idents_edit f
  | exprList pos exprs => exact Expr.identsAll_editAll f exprs
  | expr e => exact e.idents_edit f
  | type type => exact type.idents_edit f

/-! ## Words -/

/-- The identifiers keep their words. -/
def Edit.KeepsWords (f : Edit) : Prop := ∀ name, (f.ident name).erase = name.erase

section

variable {f : Edit}

theorem TypeExpr.erase_edit (words : f.KeepsWords) (type : TypeExpr) :
    (type.edit f).erase = type.erase := by
  cases type with
  | struct pos name => rw [edit, erase, erase, words]
  | _ => rfl

mutual

theorem Expr.erase_edit (words : f.KeepsWords) (e : Expr) : (e.edit f).erase = e.erase := by
  cases e with
  | int | string | bool => rfl
  | ident name => rw [edit, erase, erase, words]
  | dot pos base field => rw [edit, erase, erase, Expr.erase_edit words base, words]
  | assign pos target value =>
    rw [edit, erase, erase, Expr.erase_edit words target, Expr.erase_edit words value]
  | call pos callee argsPos args => rw [edit, erase, erase, words, Expr.eraseAll_editAll words args]
  | unary pos op operand => rw [edit, erase, erase, Expr.erase_edit words operand]
  | binary pos left op right =>
    rw [edit, erase, erase, Expr.erase_edit words left, Expr.erase_edit words right]

theorem Expr.eraseAll_editAll (words : f.KeepsWords) (es : List Expr) :
    Expr.eraseAll (Expr.editAll f es) = Expr.eraseAll es := by
  cases es with
  | nil => rfl
  | cons e es =>
    rw [editAll, eraseAll, eraseAll, Expr.erase_edit words e, Expr.eraseAll_editAll words es]

end

theorem Assignment.erase_edit (words : f.KeepsWords) (a : Assignment) :
    (a.edit f).erase = a.erase := by
  simp only [edit, erase, Expr.erase_edit words]

theorem Call.erase_edit (words : f.KeepsWords) (c : Call) : (c.edit f).erase = c.erase := by
  simp only [edit, erase, words _, Expr.eraseAll_editAll words]

theorem Formals.erase_edit (words : f.KeepsWords) (formals : Formals) :
    (formals.edit f).erase = formals.erase := by
  simp [edit, erase, Formal.edit, Formal.erase, words _, TypeExpr.erase_edit words]

mutual

theorem Decl.erase_edit (words : f.KeepsWords) (d : Decl) : (d.edit f).erase = d.erase := by
  cases d with
  | var pos type name => rw [Decl.edit, Decl.erase, Decl.erase, type.erase_edit words, words]
  | func pos returnType name formals bodyPos body =>
    rw [Decl.edit, Decl.erase, Decl.erase, returnType.erase_edit words, words,
      formals.erase_edit words, Block.erase_edit words body]
  | struct pos name fieldsPos fields =>
    rw [Decl.edit, Decl.erase, Decl.erase, words, Decl.eraseAll_editAll words fields]

theorem Stmt.erase_edit (words : f.KeepsWords) (st : Stmt) : (st.edit f).erase = st.erase := by
  cases st with
  | assign pos a => rw [Stmt.edit, Stmt.erase, Stmt.erase, a.erase_edit words]
  | call pos c => rw [Stmt.edit, Stmt.erase, Stmt.erase, c.erase_edit words]
  | increment pos e | decrement pos e | read pos e | write pos e =>
    rw [Stmt.edit, Stmt.erase, Stmt.erase, e.erase_edit words]
  | ifThen pos cond body | loop pos cond body =>
    rw [Stmt.edit, Stmt.erase, Stmt.erase, cond.erase_edit words, Block.erase_edit words body]
  | ifElse pos cond yes no =>
    rw [Stmt.edit, Stmt.erase, Stmt.erase, cond.erase_edit words, Block.erase_edit words yes,
      Block.erase_edit words no]
  | ret pos value =>
    cases value with
    | none => rfl
    | some e => exact congrArg (fun e => Stmt.ret {} (some e)) (e.erase_edit words)

theorem Block.erase_edit (words : f.KeepsWords) (b : Block) : (b.edit f).erase = b.erase := by
  obtain ⟨declsPos, decls, stmtsPos, stmts⟩ := b
  rw [Block.edit, Block.erase, Block.erase, Decl.eraseAll_editAll words decls,
    Stmt.eraseAll_editAll words stmts]

theorem Decl.eraseAll_editAll (words : f.KeepsWords) (ds : List Decl) :
    Decl.eraseAll (Decl.editAll f ds) = Decl.eraseAll ds := by
  cases ds with
  | nil => rfl
  | cons d ds =>
    rw [Decl.editAll, Decl.eraseAll, Decl.eraseAll, Decl.erase_edit words d,
      Decl.eraseAll_editAll words ds]

theorem Stmt.eraseAll_editAll (words : f.KeepsWords) (ss : List Stmt) :
    Stmt.eraseAll (Stmt.editAll f ss) = Stmt.eraseAll ss := by
  cases ss with
  | nil => rfl
  | cons s ss =>
    rw [Stmt.editAll, Stmt.eraseAll, Stmt.eraseAll, Stmt.erase_edit words s,
      Stmt.eraseAll_editAll words ss]

end

/-- An edit that keeps the words of the identifiers keeps those of the tree. -/
theorem Program.erase_edit (words : f.KeepsWords) (T : Program) : (T.edit f).erase = T.erase :=
  congrArg (Program.mk {} {} ·) (Decl.eraseAll_editAll words T.decls)

end

/-! ## Edits that do nothing -/

/-- The nodes keep their positions. -/
def Edit.Stays (f : Edit) : Prop := ∀ pos, f.pos pos = pos

section

variable {f : Edit}

theorem TypeExpr.edit_of_fixed (still : f.Stays) {type : TypeExpr}
    (fixed : ∀ name ∈ type.idents, f.ident name = name) :
    type.edit f = type := by
  cases type with
  | struct pos name => rw [edit, still, fixed name (List.mem_singleton_self name)]
  | _ => exact congrArg _ (still _)

mutual

theorem Expr.edit_of_fixed (still : f.Stays) (e : Expr)
    (fixed : ∀ name ∈ e.idents, f.ident name = name) :
    e.edit f = e := by
  cases e with
  | int | string | bool => rw [edit, still]
  | ident name => rw [edit, fixed name (List.mem_singleton_self name)]
  | dot pos base field =>
    obtain ⟨atBase, atField⟩ := List.forall_mem_append.mp fixed
    rw [edit, still, Expr.edit_of_fixed still base atBase,
      atField field (List.mem_singleton_self field)]
  | assign pos target value =>
    obtain ⟨atTarget, atValue⟩ := List.forall_mem_append.mp fixed
    rw [edit, still, Expr.edit_of_fixed still target atTarget,
      Expr.edit_of_fixed still value atValue]
  | call pos callee argsPos args =>
    obtain ⟨atCallee, atArgs⟩ := List.forall_mem_cons.mp fixed
    rw [edit, still, still, atCallee, Expr.editAll_of_fixed still args atArgs]
  | unary pos op operand => rw [edit, still, Expr.edit_of_fixed still operand fixed]
  | binary pos left op right =>
    obtain ⟨atLeft, atRight⟩ := List.forall_mem_append.mp fixed
    rw [edit, still, Expr.edit_of_fixed still left atLeft, Expr.edit_of_fixed still right atRight]

theorem Expr.editAll_of_fixed (still : f.Stays) (es : List Expr)
    (fixed : ∀ name ∈ Expr.identsAll es, f.ident name = name) : Expr.editAll f es = es := by
  cases es with
  | nil => rfl
  | cons e es =>
    obtain ⟨first, others⟩ := List.forall_mem_append.mp fixed
    rw [editAll, Expr.edit_of_fixed still e first, Expr.editAll_of_fixed still es others]

end

theorem Formal.edit_of_fixed (still : f.Stays) {formal : Formal}
    (fixed : ∀ name ∈ formal.idents, f.ident name = name) : formal.edit f = formal := by
  obtain ⟨atType, atName⟩ := List.forall_mem_append.mp fixed
  rw [edit, still, formal.type.edit_of_fixed still atType,
    atName formal.name (List.mem_singleton_self _)]

theorem Formals.edit_of_fixed (still : f.Stays) {formals : Formals}
    (fixed : ∀ name ∈ formals.items.flatMap Formal.idents, f.ident name = name) :
    formals.edit f = formals := by
  have items : formals.items.map (Formal.edit f) = formals.items := by
    refine (List.map_congr_left fun formal mem => ?_).trans (List.map_id _)
    exact Formal.edit_of_fixed still fun name inside =>
      fixed name (List.mem_flatMap.mpr ⟨formal, mem, inside⟩)
  rw [edit, still, items]

mutual

theorem Decl.edit_of_fixed (still : f.Stays) (d : Decl)
    (fixed : ∀ name ∈ d.idents, f.ident name = name) :
    d.edit f = d := by
  cases d with
  | var pos type name =>
    obtain ⟨atType, atName⟩ := List.forall_mem_append.mp fixed
    rw [Decl.edit, still, type.edit_of_fixed still atType,
      atName name (List.mem_singleton_self name)]
  | func pos returnType name formals bodyPos body =>
    obtain ⟨atType, others⟩ := List.forall_mem_append.mp fixed
    obtain ⟨atName, others⟩ := List.forall_mem_cons.mp others
    obtain ⟨atFormals, atBody⟩ := List.forall_mem_append.mp others
    rw [Decl.edit, still, still, returnType.edit_of_fixed still atType, atName,
      formals.edit_of_fixed still atFormals, Block.edit_of_fixed still body atBody]
  | struct pos name fieldsPos fields =>
    obtain ⟨atName, atFields⟩ := List.forall_mem_cons.mp fixed
    rw [Decl.edit, still, still, atName, Decl.editAll_of_fixed still fields atFields]

theorem Stmt.edit_of_fixed (still : f.Stays) (st : Stmt)
    (fixed : ∀ name ∈ st.idents, f.ident name = name) :
    st.edit f = st := by
  cases st with
  | assign pos a =>
    obtain ⟨atTarget, atValue⟩ := List.forall_mem_append.mp fixed
    rw [Stmt.edit, Assignment.edit, still, still, a.target.edit_of_fixed still atTarget,
      a.value.edit_of_fixed still atValue]
  | call pos c =>
    obtain ⟨atCallee, atArgs⟩ := List.forall_mem_cons.mp fixed
    rw [Stmt.edit, Call.edit, still, still, still, atCallee,
      Expr.editAll_of_fixed still c.args atArgs]
  | increment pos e | decrement pos e | read pos e | write pos e =>
    rw [Stmt.edit, still, e.edit_of_fixed still fixed]
  | ifThen pos cond body | loop pos cond body =>
    obtain ⟨atCond, atBody⟩ := List.forall_mem_append.mp fixed
    rw [Stmt.edit, still, cond.edit_of_fixed still atCond, Block.edit_of_fixed still body atBody]
  | ifElse pos cond yes no =>
    obtain ⟨atCond, others⟩ := List.forall_mem_append.mp fixed
    obtain ⟨atYes, atNo⟩ := List.forall_mem_append.mp others
    rw [Stmt.edit, still, cond.edit_of_fixed still atCond, Block.edit_of_fixed still yes atYes,
      Block.edit_of_fixed still no atNo]
  | ret pos value =>
    cases value with
    | none => rw [Stmt.edit, still, Option.map_none]
    | some e => rw [Stmt.edit, still, Option.map_some, e.edit_of_fixed still fixed]

theorem Block.edit_of_fixed (still : f.Stays) (b : Block)
    (fixed : ∀ name ∈ b.idents, f.ident name = name) :
    b.edit f = b := by
  obtain ⟨declsPos, decls, stmtsPos, stmts⟩ := b
  obtain ⟨atDecls, atStmts⟩ := List.forall_mem_append.mp fixed
  rw [Block.edit, still, still, Decl.editAll_of_fixed still decls atDecls,
    Stmt.editAll_of_fixed still stmts atStmts]

theorem Decl.editAll_of_fixed (still : f.Stays) (ds : List Decl)
    (fixed : ∀ name ∈ Decl.identsAll ds, f.ident name = name) : Decl.editAll f ds = ds := by
  cases ds with
  | nil => rfl
  | cons d ds =>
    obtain ⟨first, others⟩ := List.forall_mem_append.mp fixed
    rw [Decl.editAll, Decl.edit_of_fixed still d first, Decl.editAll_of_fixed still ds others]

theorem Stmt.editAll_of_fixed (still : f.Stays) (ss : List Stmt)
    (fixed : ∀ name ∈ Stmt.identsAll ss, f.ident name = name) : Stmt.editAll f ss = ss := by
  cases ss with
  | nil => rfl
  | cons s ss =>
    obtain ⟨first, others⟩ := List.forall_mem_append.mp fixed
    rw [Stmt.editAll, Stmt.edit_of_fixed still s first, Stmt.editAll_of_fixed still ss others]

end

end

end Minim
