import Minim.Proofs.Scoping.Walk

/-!
# The analysis of programs

Declarations, statements and blocks lead from states that agree with the source to states that agree
with the source after them. A whole program starts from a state that agrees with nothing declared.
-/

namespace Minim

open Resolution

section

variable {made : List Declared} {scopes : List (List Declared)} {s : State}

/-! ## Expressions in statements -/

theorem Expr.map_use_sites (e : Expr) (scopes : List (List Declared)) :
    (e.sites scopes).map Site.use = e.ordinary := by
  rw [Expr.sites, List.map_map]
  exact List.map_id _

theorem Expr.resolve_walks (e : Expr) (shaped : e.Shaped) (h : s.Agrees made scopes)
    (around : List (List Declared)) :
    ∃ e' found, e.resolve s = (e', s.logged found) ∧
      Walks made e.idents (e.sites scopes) ((e'.sites around).map Site.use) s (s.logged found) := by
  obtain ⟨e', found, run, outcome⟩ := e.resolve_settles shaped h
  rw [← e'.map_use_sites around] at outcome
  exact ⟨e', found, run, found, rfl, outcome⟩

theorem Assignment.resolve_expr (a : Assignment) (s : State) :
    a.expr.resolve s = ((a.resolve s).1.expr, (a.resolve s).2) := by
  rw [Assignment.expr, Expr.resolve]
  rfl

theorem Call.resolve_expr (c : Call) (s : State) :
    c.expr.resolve s = ((c.resolve s).1.expr, (c.resolve s).2) := by
  rw [Call.expr, Expr.resolve]
  rfl

/-! ## Structs -/

/-- The name of a struct is new, and the struct has a table for its fields then, or it is
reported. -/
theorem Resolution.State.Agrees.declareStruct {ds : List Declared} {d : Declared}
    (h : s.Agrees made (ds :: scopes)) (means : d.meaning = some (.structDef .root)) :
    (∃ s', Resolution.declare .scope d.name (.structDef .root) s = (some ⟨made.length⟩, s') ∧
      d.IsNew ds ∧ s'.log = s.log ∧
      s'.AgreesAt (.fields ⟨made.length⟩) (made ++ [d]) [] ((ds ++ [d]) :: scopes)) ∨
    (Resolution.declare .scope d.name (.structDef .root) s =
      (none, s.report d.name .duplicateName) ∧ ¬ d.IsNew ds) := by
  have agreesAt : s.AgreesAt .scope made ds scopes := h
  rw [Resolution.declare, unlessFailed_of_running h.stores.running]
  by_cases isNew : d.IsNew ds
  · obtain ⟨s', declared, after, log, meaning⟩ := agreesAt.declare_new isNew means rfl
    have fields? : s'.store.fields? ⟨made.length⟩ = some .root := by
      obtain ⟨symbol, found, same⟩ := Option.map_eq_some_iff.mp meaning
      exact Store.fields?_eq_some.mpr ⟨symbol, found, same⟩
    exact .inl ⟨s', declared, isNew, log, after, [], fields?, .nil _⟩
  · exact .inr ⟨agreesAt.declare_old isNew means, isNew⟩

/-- A struct makes a symbol with a table for its fields, or its fields are passed over. -/
theorem Decl.resolve_struct_walks {ds : List Declared} (pos : Position) (name : Ident)
    (fieldsPos : Position) {fields : List Decl} (shaped : ∀ d ∈ fields, d.kind = .varDecl)
    (h : s.Agrees made (ds :: scopes)) (around : List (List Declared)) :
    let d := Decl.struct pos name fieldsPos fields
    (d.resolve s).2.Agrees (made ++ d.made ds) ((ds ++ [d.declared]) :: scopes) ∧
      Walks (made ++ d.made ds) d.idents [] (((d.resolve s).1.sites around).map Site.use) s
        (d.resolve s).2 := by
  intro d
  have declared := h.declareStruct (d := d.declared) rfl
  rw [show d.declared.name = name from rfl] at declared
  rcases declared with ⟨s', run, isNew, log, opened⟩ | ⟨run, old⟩
  · obtain ⟨inside, walks⟩ := opened.declareFields name.name fields shaped
    have run' : d.resolve s =
        (.struct pos name fieldsPos (Decl.resolveFields name.name ⟨made.length⟩ fields s').1,
          (Decl.resolveFields name.name ⟨made.length⟩ fields s').2) := by
      rw [Decl.resolve, bind_run, run]
      rfl
    rw [run', Decl.made, if_pos isNew, List.append_cons]
    exact ⟨inside.1, (Walks.silent [name] log).append walks⟩
  · have run' : d.resolve s = (d, s.report name .duplicateName) := by
      rw [Decl.resolve, bind_run, run]
      rfl
    rw [run', Decl.made, if_neg old, List.append_nil]
    have agreesAt : s.AgreesAt .scope made ds scopes := h
    have faults : FaultsAt name s (s.logged [Log.entry name.pos .duplicateName]) :=
      .of_logged (List.forall_mem_singleton.mpr rfl)
    exact ⟨(agreesAt.skip old).logged [Log.entry name.pos .duplicateName],
      faults.walks.append (.silent (Decl.identsAll fields) rfl)⟩

/-! ## Declarations, statements and blocks -/

/-- Resolve the formal parameters and the body of a function. -/
def resolveParts (formals : Formals) (body : Block) : Resolve (Formals × Block) := do
  let formals ← formals.resolve
  let body ← body.resolveInside
  return (formals, body)

end

mutual

theorem Decl.resolve_walks {made : List Declared} {scopes : List (List Declared)} {s : State}
    {ds : List Declared} (d : Decl) (shaped : d.Shaped)
    (h : s.Agrees made (ds :: scopes)) (around : List (List Declared)) :
    (d.resolve s).2.Agrees (made ++ d.made ds) ((ds ++ [d.declared]) :: scopes) ∧
      Walks (made ++ d.made ds) d.idents (d.sites ((ds ++ [d.declared]) :: scopes))
        (((d.resolve s).1.sites around).map Site.use) s (d.resolve s).2 := by
  have agreesAt : s.AgreesAt .scope made ds scopes := h
  cases d with
  | var pos type name =>
    obtain ⟨after, faults⟩ := agreesAt.declareVariable type name
    exact ⟨after, (Walks.silent type.idents rfl).append faults.walks⟩
  | struct pos name fieldsPos fields =>
    exact Decl.resolve_struct_walks pos name fieldsPos shaped h around
  | func pos returnType name formals bodyPos body =>
    let d := (Decl.func pos returnType name formals bodyPos body).declared
    obtain ⟨after, faults⟩ := State.AgreesAt.declare (d := d) agreesAt rfl rfl
    obtain ⟨agrees, walks⟩ := State.Agrees.inNewScope after (resolveParts formals body)
      (fun parts => (parts.2.sites (parts.1.items.map Formal.declared) around).map Site.use)
      fun t opened => by
        -- The formal parameters are declared in the scope that the body goes on with.
        have formalsOpened : t.AgreesAt .scope (made ++ d.made ds) [] ((ds ++ [d]) :: scopes) :=
          opened
        obtain ⟨agrees, walks⟩ := formalsOpened.declareFormals formals.items
        obtain ⟨agrees', walks'⟩ := body.resolveInside_walks shaped agrees
          ((Formal.resolveAll formals.items t).1.map Formal.declared) around
        exact ⟨agrees', (walks.mono _).append walks'⟩
    rw [Decl.made, ← List.append_assoc made, ← List.append_assoc]
    exact ⟨agrees, (Walks.silent returnType.idents rfl).append
      (((faults.walks.mono _).mono _).append walks)⟩

theorem Stmt.resolve_walks {made : List Declared} {scopes : List (List Declared)} {s : State}
    (st : Stmt) (shaped : st.Shaped) (h : s.Agrees made scopes)
    (around : List (List Declared)) :
    (st.resolve s).2.Agrees (made ++ st.made) scopes ∧
      Walks (made ++ st.made) st.idents (st.sites scopes)
        (((st.resolve s).1.sites around).map Site.use) s (st.resolve s).2 := by
  cases st with
  | assign pos a =>
    obtain ⟨e', found, run, walks⟩ := a.expr.resolve_walks shaped h around
    rw [a.resolve_expr] at run
    obtain ⟨rfl, same⟩ := Prod.mk.inj run
    rw [← same] at walks
    rw [Stmt.made, List.append_nil]
    exact ⟨same ▸ h.logged found, walks⟩
  | call pos c =>
    obtain ⟨e', found, run, walks⟩ := c.expr.resolve_walks shaped h around
    rw [c.resolve_expr] at run
    obtain ⟨rfl, same⟩ := Prod.mk.inj run
    rw [← same] at walks
    rw [Stmt.made, List.append_nil]
    exact ⟨same ▸ h.logged found, walks⟩
  | increment pos e | decrement pos e | read pos e =>
    obtain ⟨e', found, run, walks⟩ := e.resolve_walks shaped.2 h around
    rw [Stmt.resolve, bind_run, run, Stmt.made, List.append_nil]
    exact ⟨h.logged found, walks⟩
  | write pos e =>
    obtain ⟨e', found, run, walks⟩ := e.resolve_walks shaped h around
    rw [Stmt.resolve, bind_run, run, Stmt.made, List.append_nil]
    exact ⟨h.logged found, walks⟩
  | ret pos value =>
    rw [Stmt.made, List.append_nil]
    cases value with
    | none => exact ⟨h, .silent [] rfl⟩
    | some e =>
      obtain ⟨e', found, run, walks⟩ := e.resolve_walks (shaped e rfl) h around
      rw [Stmt.resolve, bind_run, run]
      exact ⟨h.logged found, walks⟩
  | ifThen pos cond body | loop pos cond body =>
    obtain ⟨cond', found, run, walks⟩ := cond.resolve_walks shaped.1 h around
    obtain ⟨agrees, walks'⟩ := (h.logged found).inNewScope body.resolveInside
      (fun b => (b.sites [] around).map Site.use)
      fun t opened => body.resolveInside_walks shaped.2 opened [] around
    rw [Stmt.resolve, bind_run, run]
    exact ⟨agrees, (walks.mono _).join walks'⟩
  | ifElse pos cond yes no =>
    obtain ⟨cond', found, run, walks⟩ := cond.resolve_walks shaped.1 h around
    obtain ⟨agrees, walks'⟩ := (h.logged found).inNewScope yes.resolveInside
      (fun b => (b.sites [] around).map Site.use)
      fun t opened => yes.resolveInside_walks shaped.2.1 opened [] around
    obtain ⟨agrees', walks''⟩ := agrees.inNewScope no.resolveInside
      (fun b => (b.sites [] around).map Site.use)
      fun t opened => no.resolveInside_walks shaped.2.2 opened [] around
    rw [Stmt.resolve, bind_run, run, Stmt.made, ← List.append_assoc made]
    exact ⟨agrees', ((walks.mono _).mono _).join ((walks'.mono _).join walks'')⟩

theorem Block.resolveInside_walks {made : List Declared} {scopes : List (List Declared)} {s : State}
    {formals : List Declared} (b : Block) (shaped : b.Shaped)
    (h : s.Agrees made (formals :: scopes)) (formals' : List Declared)
    (around : List (List Declared)) :
    (b.resolveInside s).2.Agrees (made ++ b.made formals)
        ((formals ++ b.decls.map Decl.declared) :: scopes) ∧
      Walks (made ++ b.made formals) b.idents (b.sites formals scopes)
        (((b.resolveInside s).1.sites formals' around).map Site.use) s (b.resolveInside s).2 := by
  cases b with
  | mk declsPos decls stmtsPos stmts =>
    obtain ⟨areVariables, shaped⟩ := shaped
    have declsShaped : ∀ d ∈ decls, d.Shaped := fun d mem =>
      Decl.shaped_of_kind (areVariables d mem)
    -- Variables hold no uses, so it does not matter which of them are in scope where.
    let formals₁ := formals' ++ (Decl.resolveAll decls s).1.map Decl.declared
    obtain ⟨agrees, walks⟩ :=
      Decl.resolveAll_walks decls declsShaped h (formals₁ :: around)
    obtain ⟨agrees', walks'⟩ := Stmt.resolveAll_walks stmts shaped agrees (formals₁ :: around)
    rw [Decl.sitesInTurn_of_variables areVariables] at walks
    rw [Block.made, ← List.append_assoc made, Block.sites, Decl.sitesAll_of_variables areVariables]
    exact ⟨agrees', (walks.mono _).join walks'⟩

theorem Decl.resolveAll_walks {made : List Declared} {scopes : List (List Declared)} {s : State}
    {earlier : List Declared} (ds : List Decl)
    (shaped : ∀ d ∈ ds, d.Shaped) (h : s.Agrees made (earlier :: scopes))
    (around : List (List Declared)) :
    (Decl.resolveAll ds s).2.Agrees (made ++ Decl.madeAll earlier ds)
        ((earlier ++ ds.map Decl.declared) :: scopes) ∧
      Walks (made ++ Decl.madeAll earlier ds) (Decl.identsAll ds)
        (Decl.sitesInTurn earlier scopes ds)
        ((Decl.sitesAll around (Decl.resolveAll ds s).1).map Site.use) s
        (Decl.resolveAll ds s).2 := by
  cases ds with
  | nil =>
    rw [Decl.madeAll, List.append_nil, List.map_nil, List.append_nil]
    exact ⟨h, .silent [] rfl⟩
  | cons d ds =>
    obtain ⟨shaped, shaped'⟩ := List.forall_mem_cons.mp shaped
    obtain ⟨agrees, walks⟩ := d.resolve_walks shaped h around
    obtain ⟨agrees', walks'⟩ := Decl.resolveAll_walks ds shaped' agrees around
    rw [List.map_cons, List.append_cons earlier, Decl.madeAll, ← List.append_assoc made,
      Decl.sitesInTurn]
    exact ⟨agrees', (walks.mono _).join walks'⟩

theorem Stmt.resolveAll_walks {made : List Declared} {scopes : List (List Declared)} {s : State}
    (ss : List Stmt) (shaped : Stmt.AllShaped ss)
    (h : s.Agrees made scopes) (around : List (List Declared)) :
    (Stmt.resolveAll ss s).2.Agrees (made ++ Stmt.madeAll ss) scopes ∧
      Walks (made ++ Stmt.madeAll ss) (Stmt.identsAll ss) (Stmt.sitesAll scopes ss)
        ((Stmt.sitesAll around (Stmt.resolveAll ss s).1).map Site.use) s
        (Stmt.resolveAll ss s).2 := by
  cases ss with
  | nil =>
    rw [Stmt.madeAll, List.append_nil]
    exact ⟨h, .silent [] rfl⟩
  | cons st ss =>
    obtain ⟨agrees, walks⟩ := st.resolve_walks shaped.1 h around
    obtain ⟨agrees', walks'⟩ := Stmt.resolveAll_walks ss shaped.2 agrees around
    rw [Stmt.madeAll, ← List.append_assoc made, Stmt.sitesAll]
    exact ⟨agrees', (walks.mono _).join walks'⟩

end

end Minim
