import Minim.Proofs.Resolution.Mirrors

/-!
# The analysis of an edited tree

From states that are seen in each other, the analysis of a tree and that of the tree after the edit
of the mirror lead to states that are seen in each other, and the one annotates its tree as the
other does, up to that edit.
-/

namespace Minim

open Resolution

variable (m : Mirror)

/-! ## Expressions -/

theorem Ident.resolveMember_follows (base field : Ident) :
    m.Follows (Prod.map m.ident m.ident) (base.resolveMember field)
      ((m.ident base).resolveMember (m.ident field)) := by
  refine (m.useBase_follows base).bind fun (base, found) => ?_
  cases found with
  | none => exact .pure (base, field)
  | some structName =>
    exact (m.useField_follows structName field).bind fun field => .pure (base, field)

mutual

theorem Expr.resolve_follows (e : Expr) :
    m.Follows (Expr.edit m.edit) e.resolve (e.edit m.edit).resolve := by
  cases e with
  | int pos value => exact .pure (Expr.int pos value)
  | string pos written => exact .pure (Expr.string pos written)
  | bool pos value => exact .pure (Expr.bool pos value)
  | ident name => exact (m.useName_follows name).bind fun name => .pure (Expr.ident name)
  | dot pos base field =>
    cases base with
    | dot pos' base' field' =>
      exact (Expr.resolve_follows (.dot pos' base' field')).bind fun base =>
        (m.useName_follows field).bind fun field => .pure (Expr.dot pos base field)
    | ident name =>
      exact (name.resolveMember_follows m field).bind fun (name, field) =>
        .pure (Expr.dot pos (.ident name) field)
    | _ => exact (m.fail_follows (.dotBase _)).bind fun _ => .pure (Expr.dot pos _ field)
  | assign pos target value =>
    exact (Expr.resolve_follows target).bind fun target =>
      (Expr.resolve_follows value).bind fun value => .pure (Expr.assign pos target value)
  | call pos callee argsPos args =>
    exact (m.useName_follows callee).bind fun callee =>
      (Expr.resolveAll_follows args).bind fun args => .pure (Expr.call pos callee argsPos args)
  | unary pos op operand =>
    exact (Expr.resolve_follows operand).bind fun operand => .pure (Expr.unary pos op operand)
  | binary pos left op right =>
    exact (Expr.resolve_follows left).bind fun left =>
      (Expr.resolve_follows right).bind fun right => .pure (Expr.binary pos left op right)

theorem Expr.resolveAll_follows (es : List Expr) :
    m.Follows (Expr.editAll m.edit) (Expr.resolveAll es)
      (Expr.resolveAll (Expr.editAll m.edit es)) := by
  cases es with
  | nil => exact .pure ([] : List Expr)
  | cons e es =>
    exact (Expr.resolve_follows e).bind fun e =>
      (Expr.resolveAll_follows es).bind fun es => .pure (e :: es)

end

theorem Assignment.resolve_follows (a : Assignment) :
    m.Follows (Assignment.edit m.edit) a.resolve (a.edit m.edit).resolve :=
  (a.target.resolve_follows m).bind fun target =>
    (a.value.resolve_follows m).bind fun value => .pure { a with target, value }

theorem Call.resolve_follows (c : Call) :
    m.Follows (Call.edit m.edit) c.resolve (c.edit m.edit).resolve :=
  (m.useName_follows c.callee).bind fun callee =>
    (Expr.resolveAll_follows m c.args).bind fun args => .pure { c with callee, args }

/-! ## Variables -/

theorem TypeExpr.dataType_edit (type : TypeExpr) :
    (type.edit m.edit).dataType = m.type type.dataType := by
  cases type with
  | struct pos name => exact congrArg DataType.struct (m.name_ident name)
  | _ => rfl

theorem TypeExpr.declare_follows (target : Target) (name : Ident) (type : TypeExpr) :
    m.Follows (TypeExpr.edit m.edit) (type.declare target name)
      ((type.edit m.edit).declare (m.target target) (m.ident name)) := by
  cases type with
  | int pos =>
    exact (m.declare_follows target name (.var .int)).bind fun _ => .pure (TypeExpr.int pos)
  | bool pos =>
    exact (m.declare_follows target name (.var .bool)).bind fun _ => .pure (TypeExpr.bool pos)
  | void pos =>
    exact (m.report_follows name .voidVariable).bind fun _ => .pure (TypeExpr.void pos)
  | struct pos structName =>
    refine (m.useStructName_follows structName name).bind fun structName => ?_
    rw [m.name_ident]
    exact (m.declare_follows target name (.structVar structName.name)).bind fun _ =>
      .pure (TypeExpr.struct pos structName)

theorem Formal.resolve_follows (formal : Formal) :
    m.Follows (Formal.edit m.edit) formal.resolve (formal.edit m.edit).resolve :=
  (formal.type.declare_follows m .scope formal.name).bind fun type => .pure { formal with type }

theorem Formal.resolveAll_follows (formals : List Formal) :
    m.Follows (List.map (Formal.edit m.edit)) (Formal.resolveAll formals)
      (Formal.resolveAll (formals.map (Formal.edit m.edit))) := by
  induction formals with
  | nil => exact .pure ([] : List Formal)
  | cons formal formals ih =>
    exact (formal.resolve_follows m).bind fun formal => ih.bind fun formals =>
      .pure (formal :: formals)

theorem Formals.resolve_follows (formals : Formals) :
    m.Follows (Formals.edit m.edit) formals.resolve (formals.edit m.edit).resolve :=
  (Formal.resolveAll_follows m formals.items).bind fun items => .pure { formals with items }

theorem Decl.resolveField_follows (structName : String) (struct : SymbolId) (d : Decl) :
    m.Follows (Decl.edit m.edit) (d.resolveField structName struct)
      ((d.edit m.edit).resolveField (m.word structName) (m.entry struct)) := by
  cases d with
  | var pos type name =>
    exact (type.declare_follows m (.fields struct) name).bind fun type =>
      .pure (Decl.var pos type name)
  | func | struct =>
    exact (m.fail_follows (.structMember structName _)).bind fun _ => .pure _

theorem Decl.resolveFields_follows (structName : String) (struct : SymbolId) (fields : List Decl) :
    m.Follows (Decl.editAll m.edit) (Decl.resolveFields structName struct fields)
      (Decl.resolveFields (m.word structName) (m.entry struct) (Decl.editAll m.edit fields)) := by
  induction fields with
  | nil => exact .pure ([] : List Decl)
  | cons d fields ih =>
    exact (d.resolveField_follows m structName struct).bind fun d => ih.bind fun fields =>
      .pure (d :: fields)

/-! ## Declarations and statements -/

/-- The meaning of a function of an edited tree. -/
theorem Formals.dataTypes_edit (formals : Formals) :
    (formals.edit m.edit).items.map (·.type.dataType) =
      (formals.items.map (·.type.dataType)).map m.type := by
  rw [edit, List.map_map, List.map_map]
  exact List.map_congr_left fun formal _ => formal.type.dataType_edit m

theorem Formals.declare_follows (returnType : TypeExpr) (name : Ident) (formals : Formals) :
    m.Follows (Option.map m.entry)
      (declare .scope name (.func returnType.dataType (formals.items.map (·.type.dataType))))
      (declare .scope (m.ident name) (.func (returnType.edit m.edit).dataType
        ((formals.edit m.edit).items.map (·.type.dataType)))) := by
  rw [returnType.dataType_edit, formals.dataTypes_edit]
  exact m.declare_follows .scope name _

mutual

theorem Decl.resolve_follows (d : Decl) :
    m.Follows (Decl.edit m.edit) d.resolve (d.edit m.edit).resolve := by
  cases d with
  | var pos type name =>
    exact (type.declare_follows m .scope name).bind fun type => .pure (Decl.var pos type name)
  | func pos returnType name formals bodyPos body =>
    exact (formals.declare_follows m returnType name).bind fun _ =>
      m.openScope_follows.bind fun _ =>
      (formals.resolve_follows m).bind fun formals =>
      (Block.resolveInside_follows body).bind fun body => m.closeScope_follows.bind fun _ =>
      .pure (Decl.func pos returnType name formals bodyPos body)
  | struct pos name fieldsPos fields =>
    refine (m.declare_follows .scope name (.structDef .root)).bind fun declared => ?_
    cases declared with
    | none => exact .pure (Decl.struct pos name fieldsPos fields)
    | some struct =>
      have members := Decl.resolveFields_follows m name.name struct fields
      rw [← m.name_ident] at members
      exact members.bind fun fields => .pure (Decl.struct pos name fieldsPos fields)

theorem Stmt.resolve_follows (st : Stmt) :
    m.Follows (Stmt.edit m.edit) st.resolve (st.edit m.edit).resolve := by
  cases st with
  | assign pos a => exact (a.resolve_follows m).bind fun a => .pure (Stmt.assign pos a)
  | increment pos e => exact (e.resolve_follows m).bind fun e => .pure (Stmt.increment pos e)
  | decrement pos e => exact (e.resolve_follows m).bind fun e => .pure (Stmt.decrement pos e)
  | read pos e => exact (e.resolve_follows m).bind fun e => .pure (Stmt.read pos e)
  | write pos e => exact (e.resolve_follows m).bind fun e => .pure (Stmt.write pos e)
  | ifThen pos cond body =>
    exact (cond.resolve_follows m).bind fun cond => m.openScope_follows.bind fun _ =>
      (Block.resolveInside_follows body).bind fun body => m.closeScope_follows.bind fun _ =>
      .pure (Stmt.ifThen pos cond body)
  | ifElse pos cond yes no =>
    exact (cond.resolve_follows m).bind fun cond => m.openScope_follows.bind fun _ =>
      (Block.resolveInside_follows yes).bind fun yes => m.closeScope_follows.bind fun _ =>
      m.openScope_follows.bind fun _ => (Block.resolveInside_follows no).bind fun no =>
      m.closeScope_follows.bind fun _ => .pure (Stmt.ifElse pos cond yes no)
  | loop pos cond body =>
    exact (cond.resolve_follows m).bind fun cond => m.openScope_follows.bind fun _ =>
      (Block.resolveInside_follows body).bind fun body => m.closeScope_follows.bind fun _ =>
      .pure (Stmt.loop pos cond body)
  | call pos c => exact (c.resolve_follows m).bind fun c => .pure (Stmt.call pos c)
  | ret pos value =>
    cases value with
    | none => exact .pure (Stmt.ret pos none)
    | some e => exact (e.resolve_follows m).bind fun e => .pure (Stmt.ret pos (some e))

theorem Block.resolveInside_follows (b : Block) :
    m.Follows (Block.edit m.edit) b.resolveInside (b.edit m.edit).resolveInside := by
  obtain ⟨declsPos, decls, stmtsPos, stmts⟩ := b
  exact (Decl.resolveAll_follows decls).bind fun decls =>
    (Stmt.resolveAll_follows stmts).bind fun stmts =>
    .pure (Block.mk declsPos decls stmtsPos stmts)

theorem Decl.resolveAll_follows (ds : List Decl) :
    m.Follows (Decl.editAll m.edit) (Decl.resolveAll ds)
      (Decl.resolveAll (Decl.editAll m.edit ds)) := by
  cases ds with
  | nil => exact .pure ([] : List Decl)
  | cons d ds =>
    exact (Decl.resolve_follows d).bind fun d =>
      (Decl.resolveAll_follows ds).bind fun ds => .pure (d :: ds)

theorem Stmt.resolveAll_follows (ss : List Stmt) :
    m.Follows (Stmt.editAll m.edit) (Stmt.resolveAll ss)
      (Stmt.resolveAll (Stmt.editAll m.edit ss)) := by
  cases ss with
  | nil => exact .pure ([] : List Stmt)
  | cons st ss =>
    exact (Stmt.resolve_follows st).bind fun st =>
      (Stmt.resolveAll_follows ss).bind fun ss => .pure (st :: ss)

end

/-- **Equivariance.** The analysis of an edited program is that of the program, as it is seen in the
mirror. -/
theorem Program.resolve_follows (T : Program) :
    m.Follows (Program.edit m.edit) T.resolve (T.edit m.edit).resolve :=
  (Decl.resolveAll_follows m T.decls).bind fun decls => .pure { T with decls }

/-! ## From a fresh state -/

/-- What becomes of a state whose symbols stay where they are. -/
def Resolution.View.state (v : View) (s : State) : State where
  store := ⟨s.store.symbols.map v.symbol⟩
  table := v.table s.table
  arena := s.arena
  log := ⟨s.log.entries.map v.diagnostic⟩
  failure := s.failure.map v.failure

variable {m}

theorem Resolution.Mirror.Shows.eq_of_fresh (entries : m.entry = id) {s t : State}
    (h : m.Shows {} {} s t) : t = m.state s := by
  have store : t.store = ⟨s.store.symbols.map m.symbol⟩ := by
    refine congrArg Store.mk (List.ext_getElem? fun i => ?_)
    have same := h.store ⟨i⟩
    rw [entries] at same
    rw [List.getElem?_map]
    exact same
  have arena : t.arena = s.arena := by
    obtain ⟨made, ⟨-, arena⟩, -, arena'⟩ := h.made
    exact congrArg Arena.mk (arena'.trans arena.symm)
  have log : t.log = ⟨s.log.entries.map m.diagnostic⟩ := by
    obtain ⟨found, log, log'⟩ := h.log
    rw [log]
    exact congrArg Log.mk log'
  obtain ⟨⟩ := t
  cases store
  cases arena
  cases log
  cases h.table
  cases h.failure
  rfl

/-- From a fresh state, the outcome for an edited program is that for the program, seen in the
mirror, if symbols stay where they are. -/
theorem Program.analyze_edit (entries : m.entry = id) (places : m.place = id) (T : Program) :
    (T.edit m.edit).analyze.program = T.analyze.program.edit m.edit ∧
      (T.edit m.edit).analyze.state = m.state T.analyze.state := by
  have start : m.Shows {} {} {} {} :=
    .start (by rw [entries]; exact fun _ => rfl) (by rw [places]; exact fun _ => rfl) rfl rfl
      fun _ => rfl
  obtain ⟨program, shows⟩ := T.resolve_follows m {} {} {} {} start
  exact ⟨program, shows.eq_of_fresh entries⟩

end Minim
