import Mathlib.Data.List.Basic
import Minim.Proofs.Resolution.Steps

/-!
# What an analysis leaves alone

The open scopes are a stack. Whatever a part of a tree opens it closes again, and a declaration
binds its name at the end of the innermost scope, if it binds it at all. So an analysis that gets to
the end gives back the scopes as they were but for new bindings in the innermost one, and the
analysis of a statement gives back all of them as they were. The symbols that were there, structs
with their fields among them, are left alone.
-/

namespace Minim

/-! ## Stacks of scopes -/

/-- The innermost scope gets bindings of some of the given names, in their order, at its end. The
scopes around it stay. -/
def ScopeStack.Grows {α : Type} (names : List String) (stack stack' : ScopeStack α) : Prop :=
  ∃ more : Scope α, stack'.scopes = stack.scopes.modifyHead (· ++ more) ∧ more.names.Sublist names

namespace ScopeStack.Grows

variable {α : Type} {names names' : List String} {stack stack' stack'' : ScopeStack α}

theorem modifyHead_append_nil (scopes : List (Scope α)) : scopes.modifyHead (· ++ []) = scopes := by
  cases scopes with
  | nil => rfl
  | cons scope outer => exact congrArg (· :: outer) (List.append_nil scope)

theorem refl (names : List String) (stack : ScopeStack α) : Grows names stack stack :=
  ⟨[], (modifyHead_append_nil _).symm, List.nil_sublist _⟩

theorem append (h : Grows names stack stack') (h' : Grows names' stack' stack'') :
    Grows (names ++ names') stack stack'' := by
  obtain ⟨more, scopes, order⟩ := h
  obtain ⟨more', scopes', order'⟩ := h'
  refine ⟨more ++ more', ?_, ?_⟩
  · rw [scopes', scopes, List.modifyHead_modifyHead]
    exact congrArg (List.modifyHead · _) (funext fun scope => List.append_assoc scope more more')
  · rw [Scope.names, List.map_append]
    exact order.append order'

theorem bind (scope : Scope α) (outer : List (Scope α)) (name : String) (entry : α) :
    Grows [name] ⟨scope :: outer⟩ ⟨scope.bind name entry :: outer⟩ :=
  ⟨[(name, entry)], rfl, List.Sublist.refl _⟩

theorem depth (h : Grows names stack stack') : stack'.depth = stack.depth := by
  obtain ⟨more, scopes, -⟩ := h
  rw [ScopeStack.depth, scopes, List.length_modifyHead]
  rfl

theorem outer (h : Grows names stack stack') : stack'.scopes.tail = stack.scopes.tail := by
  obtain ⟨more, scopes, -⟩ := h
  rw [scopes, List.tail_modifyHead]

/-- With no name to bind nothing changes. -/
theorem eq_of_nil (h : Grows [] stack stack') : stack' = stack := by
  obtain ⟨more, scopes, order⟩ := h
  obtain rfl : more = [] := List.map_eq_nil_iff.mp (List.sublist_nil.mp order)
  rw [modifyHead_append_nil] at scopes
  exact congrArg ScopeStack.mk scopes

/-- With one name to bind there is at most one binding more. -/
theorem eq_or_bind {name : String} (h : Grows [name] stack stack') :
    stack' = stack ∨ ∃ scope outer entry, stack = ⟨scope :: outer⟩ ∧
      stack' = ⟨scope.bind name entry :: outer⟩ := by
  obtain ⟨scopes⟩ := stack
  obtain ⟨scopes'⟩ := stack'
  obtain ⟨more, same, order⟩ := h
  rcases List.sublist_singleton.mp order with none | one
  · exact .inl (eq_of_nil ⟨more, same, none ▸ List.Sublist.refl _⟩)
  · obtain ⟨⟨key, entry⟩, rfl, rfl⟩ := List.map_eq_singleton_iff.mp one
    cases scopes with
    | nil => exact .inl (congrArg ScopeStack.mk same)
    | cons scope outer => exact .inr ⟨scope, outer, entry, rfl, congrArg ScopeStack.mk same⟩

end ScopeStack.Grows

namespace Resolution

/-! ## Parts of an analysis -/

/-- A step after which the analysis goes on was taken. -/
theorem taken_of_running {α : Type} {s : State} {otherwise : α} {step : State → α × State}
    (running : (unlessFailed otherwise step s).2.failure = none) :
    s.failure = none ∧ unlessFailed otherwise step s = step s := by
  cases failure : s.failure with
  | some failure' =>
    rw [unlessFailed, failure] at running
    cases failure.symm.trans running
  | none => exact ⟨rfl, unlessFailed_of_running failure otherwise step⟩

/-- The name that is bound in the innermost scope where a name is declared. -/
def Target.names (name : String) : Target → List String
  | scope => [name]
  | fields _ => []

namespace State

/-- From one state to another the names are declared, or things are declared among the fields of the
struct of the target. Other symbols are left alone, and an analysis that has not failed then has not
failed before and gives back the scopes with some of the names bound. -/
structure Binds (target : Target) (names : List String) (s s' : State) : Prop where
  running : s'.failure = none → s.failure = none
  symbols : ∀ id symbol, target ≠ .fields id → s.store.get? id = some symbol →
    s'.store.get? id = some symbol
  scopes : s'.failure = none → s.table.Grows names s'.table

variable {target : Target} {names names' : List String} {s s' s'' : State}

namespace Binds

theorem of_alike (alike : s.Alike s') (running : s'.failure = none → s.failure = none)
    (names : List String) : Binds target names s s' where
  running := running
  symbols id symbol _ known := by rw [alike.store, known]
  scopes _ := by
    rw [alike.table]
    exact .refl names s.table

theorem refl (s : State) (names : List String) : Binds target names s s :=
  of_alike ⟨rfl, rfl, rfl⟩ id names

theorem fail (s : State) (failure : Failure) (names : List String) :
    Binds target names s (s.fail failure) :=
  of_alike (Reads.fail s failure).toAlike (fun failed => nomatch failed) names

theorem report (s : State) (name : Ident) (kind : DiagnosticKind) (names : List String) :
    Binds target names s (s.report name kind) :=
  of_alike (show s.Alike (s.report name kind) from ⟨rfl, rfl, rfl⟩) id names

/-- One part after the other. -/
theorem append (h : Binds target names s s') (h' : Binds target names' s' s'') :
    Binds target (names ++ names') s s'' where
  running run := h.running (h'.running run)
  symbols id symbol other known := h'.symbols id symbol other (h.symbols id symbol other known)
  scopes run := (h.scopes (h'.running run)).append (h'.scopes run)

/-- A name is bound to a new symbol. -/
theorem withNew {scope : Scope SymbolId} {outer : List (Scope SymbolId)} (name : String)
    (meaning : Meaning) (table : s.tableOf target = ⟨scope :: outer⟩) :
    Binds target (target.names name) s
      (s.withNew target ⟨scope.bind name s.nextId :: outer⟩ name meaning) where
  running run := by
    cases target <;> exact run
  symbols id symbol other known := by
    obtain ⟨symbol', known', rfl | ⟨same, -⟩⟩ :=
      get?_withNew_old ⟨scope.bind name s.nextId :: outer⟩ name meaning target known
    · exact known'
    · exact absurd same other
  scopes _ := by
    rw [table_withNew]
    cases target with
    | scope =>
      rw [show s.table = ⟨scope :: outer⟩ from table]
      exact .bind scope outer name s.nextId
    | fields struct => exact .refl [] s.table

/-- A part in a scope of its own. -/
theorem inScope (h : Binds .scope names (openScope s).2 s') :
    Binds .scope [] s (closeScope s').2 where
  running run := (taken_of_running (h.running (taken_of_running run).1)).1
  symbols id symbol other known := by
    rw [(closeScope_keeps s').store]
    refine h.symbols id symbol other ?_
    rw [(openScope_keeps s).store, known]
  scopes run := by
    obtain ⟨run', closed⟩ := taken_of_running run
    obtain ⟨run₀, opened⟩ := taken_of_running (h.running run')
    obtain ⟨more, scopes, -⟩ := h.scopes run'
    rw [show (openScope s).2 = s.withTable s.table.push from congrArg (·.2) opened] at scopes
    have popped : s'.table.pop = .ok s.table := by rw [ScopeStack.pop, scopes]; rfl
    rw [closeScope, closed, popped]
    exact .refl [] s.table

/-- Where the struct is a new symbol, what is declared among its fields leaves all symbols alone. -/
theorem ofFields {struct : SymbolId} (h : Binds .scope names s s')
    (h' : Binds (.fields struct) [] s' s'') (isNew : s.store.get? struct = none) :
    Binds .scope names s s'' where
  running run := h.running (h'.running run)
  symbols id symbol other known := by
    refine h'.symbols id symbol ?_ (h.symbols id symbol other known)
    rintro ⟨⟩
    cases isNew.symm.trans known
  scopes run := by
    have both := (h.scopes (h'.running run)).append (h'.scopes run)
    rwa [List.append_nil] at both

/-- What is declared in a scope leaves all symbols alone. -/
theorem symbol (h : Binds .scope names s s') {id : SymbolId} {symbol : Symbol}
    (known : s.store.get? id = some symbol) : s'.store.get? id = some symbol :=
  h.symbols id symbol nofun known

/-- The fields of the structs that were there stay what they were. -/
theorem fields (h : Binds .scope names s s') (id : SymbolId) (table : Table)
    (known : s.store.fields? id = some table) : s'.store.fields? id = some table := by
  obtain ⟨symbol, known, isStruct⟩ := Store.fields?_eq_some.mp known
  exact Store.fields?_eq_some.mpr ⟨symbol, h.symbol known, isStruct⟩

end Binds

end State

/-! ## Steps -/

theorem running_of_fail (failure : Failure) (s : State)
    (running : (fail failure s).2.failure = none) : s.failure = none :=
  (taken_of_running running).1

theorem running_of_useName (name : Ident) (s : State)
    (running : (useName name s).2.failure = none) : s.failure = none :=
  (taken_of_running running).1

theorem running_of_useBase (base : Ident) (s : State)
    (running : (useBase base s).2.failure = none) : s.failure = none :=
  (taken_of_running running).1

theorem running_of_useField (structName : String) (field : Ident) (s : State)
    (running : (useField structName field s).2.failure = none) : s.failure = none :=
  (taken_of_running running).1

theorem report_binds (target : Target) (name : Ident) (kind : DiagnosticKind) (s : State)
    (names : List String) : s.Binds target names (report name kind s).2 :=
  unlessFailed_cases (motive := fun after : Unit × State => s.Binds target names after.2)
    (.refl s names) fun _ => .report s name kind names

theorem useStructName_binds (target : Target) (structName declared : Ident) (s : State) :
    s.Binds target [] (useStructName structName declared s).2 := by
  refine unlessFailed_cases
    (motive := fun after : Ident × State => s.Binds target [] after.2) (.refl s []) fun _ => ?_
  split
  · exact .fail s _ []
  · exact .report s declared _ []
  · split <;> exact .refl s []

theorem declare_binds (target : Target) (name : Ident) (meaning : Meaning) (s : State) :
    s.Binds target (target.names name.name) (declare target name meaning s).2 := by
  refine unlessFailed_cases
    (motive := fun after : Option SymbolId × State =>
      s.Binds target (target.names name.name) after.2) (.refl s _) fun _ => ?_
  cases table : s.tableOf target with | mk scopes
  cases scopes with
  | nil => rw [State.declare_of_unopened table]; exact .fail ..
  | cons scope outer =>
    cases bound : scope.find? name.name with
    | some id => rw [State.declare_of_bound table bound]; exact .report ..
    | none => rw [State.declare_of_free table bound]; exact .withNew name.name meaning table

/-- The answer to a declaration is a symbol that was not there. -/
theorem isNew_of_declare (target : Target) (name : Ident) (meaning : Meaning) (s : State) :
    ∀ id, (declare target name meaning s).1 = some id → s.store.get? id = none := by
  refine unlessFailed_cases (motive := fun after : Option SymbolId × State =>
    ∀ id, after.1 = some id → s.store.get? id = none) (by rintro _ ⟨⟩) fun _ => ?_
  rw [State.declare]
  split
  · rintro _ ⟨⟩
  · rintro _ ⟨⟩
  · rintro _ ⟨⟩
    exact State.get?_nextId s

end Resolution

open Resolution

variable {s : State}

/-! ## Expressions -/

theorem Ident.running_of_resolveMember {base field : Ident}
    (running : (base.resolveMember field s).2.failure = none) : s.failure = none := by
  cases found : (useBase base s).1.2 with
  | none =>
    rw [resolveMember_of_none found] at running
    exact running_of_useBase base s running
  | some structName =>
    rw [resolveMember_of_some found] at running
    exact running_of_useBase base s (running_of_useField structName field _ running)

mutual

/-- An analysis that goes on after an expression has gone on before it. -/
theorem Expr.running_of_resolve (e : Expr) (s : State)
    (running : (e.resolve s).2.failure = none) : s.failure = none := by
  cases e with
  | int | string | bool => exact running
  | ident name => exact running_of_useName name s running
  | dot pos base field =>
    cases base with
    | ident name => exact Ident.running_of_resolveMember running
    | dot pos' base' field' =>
      exact Expr.running_of_resolve (.dot pos' base' field') s
        (running_of_useName field _ running)
    | _ => exact running_of_fail _ s running
  | assign pos target value =>
    exact target.running_of_resolve s (value.running_of_resolve _ running)
  | call pos callee argsPos args =>
    exact running_of_useName callee s (Expr.running_of_resolveAll args _ running)
  | unary pos op operand => exact operand.running_of_resolve s running
  | binary pos left op right =>
    exact left.running_of_resolve s (right.running_of_resolve _ running)

theorem Expr.running_of_resolveAll (es : List Expr) (s : State)
    (running : (Expr.resolveAll es s).2.failure = none) : s.failure = none := by
  cases es with
  | nil => exact running
  | cons e es => exact e.running_of_resolve s (Expr.running_of_resolveAll es _ running)

end

theorem Expr.resolve_binds (target : Target) (e : Expr) (s : State) :
    s.Binds target [] (e.resolve s).2 :=
  .of_alike (e.resolve_reads s).toAlike (e.running_of_resolve s) []

/-! ## Variables -/

theorem TypeExpr.declare_binds (target : Target) (name : Ident) (type : TypeExpr) (s : State) :
    s.Binds target (target.names name.name) (type.declare target name s).2 := by
  cases type with
  | int | bool => exact Resolution.declare_binds target name _ s
  | void pos => exact report_binds target name .voidVariable s _
  | struct pos structName =>
    exact (useStructName_binds target structName name s).append
      (Resolution.declare_binds target name _ _)

theorem Formal.resolveAll_binds (fs : List Formal) (s : State) :
    s.Binds .scope (fs.map (·.name.name)) (Formal.resolveAll fs s).2 := by
  induction fs generalizing s with
  | nil => exact .refl s []
  | cons f fs ih => exact (f.type.declare_binds .scope f.name s).append (ih _)

theorem Decl.resolveField_binds (structName : String) (struct : SymbolId) (d : Decl) (s : State) :
    s.Binds (.fields struct) [] (d.resolveField structName struct s).2 := by
  cases d with
  | var pos type name => exact type.declare_binds (.fields struct) name s
  | func | struct =>
    exact .of_alike (fail_reads _ s).toAlike (running_of_fail _ s) []

theorem Decl.resolveFields_binds (structName : String) (struct : SymbolId) (fields : List Decl)
    (s : State) :
    s.Binds (.fields struct) [] (Decl.resolveFields structName struct fields s).2 := by
  induction fields generalizing s with
  | nil => exact .refl s []
  | cons d fields ih => exact (d.resolveField_binds structName struct s).append (ih _)

/-! ## Declarations, statements and blocks -/

theorem Decl.resolve_struct_binds (pos : Position) (name : Ident) (fieldsPos : Position)
    (fields : List Decl) (s : State) :
    s.Binds .scope [name.name] ((Decl.struct pos name fieldsPos fields).resolve s).2 := by
  have declared := declare_binds .scope name (.structDef .root) s
  cases answer : (Resolution.declare .scope name (.structDef .root) s).1 with
  | none =>
    rw [resolve_struct_of_none answer]
    exact declared
  | some struct =>
    rw [resolve_struct_of_some answer]
    exact declared.ofFields (Decl.resolveFields_binds name.name struct fields _)
      (isNew_of_declare .scope name (.structDef .root) s struct answer)

mutual

theorem Decl.resolve_binds (d : Decl) (s : State) :
    s.Binds .scope [d.name.name] (d.resolve s).2 := by
  cases d with
  | var pos type name => exact type.declare_binds .scope name s
  | struct pos name fieldsPos fields => exact Decl.resolve_struct_binds pos name fieldsPos fields s
  | func pos returnType name formals bodyPos body =>
    have inside (s : State) := ((Formal.resolveAll_binds formals.items (openScope s).2).append
      (body.resolveInside_binds _)).inScope
    exact (declare_binds .scope name _ s).append (inside _)

theorem Stmt.resolve_binds (st : Stmt) (s : State) : s.Binds .scope [] (st.resolve s).2 := by
  cases st with
  | assign pos a => exact a.expr.resolve_binds .scope s
  | call pos c => exact c.expr.resolve_binds .scope s
  | increment pos e | decrement pos e | read pos e | write pos e => exact e.resolve_binds .scope s
  | ret pos value =>
    cases value with
    | none => exact .refl s []
    | some e => exact e.resolve_binds .scope s
  | ifThen pos cond body | loop pos cond body =>
    exact (cond.resolve_binds .scope s).append (body.resolveInside_binds _).inScope
  | ifElse pos cond yes no =>
    exact (cond.resolve_binds .scope s).append
      ((yes.resolveInside_binds _).inScope.append (no.resolveInside_binds _).inScope)

theorem Block.resolveInside_binds (b : Block) (s : State) :
    s.Binds .scope (b.decls.map (·.name.name)) (b.resolveInside s).2 := by
  cases b with
  | mk declsPos decls stmtsPos stmts =>
    have both := (Decl.resolveAll_binds decls s).append (Stmt.resolveAll_binds stmts _)
    rw [List.append_nil] at both
    exact both

theorem Decl.resolveAll_binds (ds : List Decl) (s : State) :
    s.Binds .scope (ds.map (·.name.name)) (Decl.resolveAll ds s).2 := by
  cases ds with
  | nil => exact .refl s []
  | cons d ds => exact (d.resolve_binds s).append (Decl.resolveAll_binds ds _)

theorem Stmt.resolveAll_binds (ss : List Stmt) (s : State) :
    s.Binds .scope [] (Stmt.resolveAll ss s).2 := by
  cases ss with
  | nil => exact .refl s []
  | cons st ss => exact (st.resolve_binds s).append (Stmt.resolveAll_binds ss _)

end

/-! ## Nodes -/

namespace Node

/-- What the analysis of a node leaves of the scopes and the arena, where it gets to the end. -/
def Leaves (s s' : State) : Node → Prop
  | program T =>
    s'.table.depth = s.table.depth ∧ s'.table.scopes.tail = s.table.scopes.tail ∧
      s.table.Grows (T.decls.map (·.name.name)) s'.table
  | declList _ decls =>
    s'.table.depth = s.table.depth ∧ s'.table.scopes.tail = s.table.scopes.tail ∧
      s.table.Grows (decls.map (·.name.name)) s'.table
  | decl d => s'.table = s.table ∨ ∃ scope outer id,
      s.table = ⟨scope :: outer⟩ ∧ s'.table = ⟨scope.bind d.name.name id :: outer⟩
  | stmt _ => s'.table = s.table
  | expr _ => s'.table = s.table ∧ s'.arena = s.arena
  | _ => s' = s

/-- **The stack of scopes.** From any state, the analysis of a node that gets to the end gives back
what was open but for the names that the node declares in the innermost scope, and changes no fields
of a struct that was there. -/
theorem resolve_leaves (node : Node) (s : State) (running : (node.resolve s).2.failure = none) :
    node.Leaves s (node.resolve s).2 ∧
      ∀ id fields, s.store.fields? id = some fields →
        (node.resolve s).2.store.fields? id = some fields := by
  cases node with
  | program T =>
    have binds := Decl.resolveAll_binds T.decls s
    have grows := binds.scopes running
    exact ⟨⟨grows.depth, grows.outer, grows⟩, binds.fields⟩
  | declList pos decls =>
    have binds := Decl.resolveAll_binds decls s
    have grows := binds.scopes running
    exact ⟨⟨grows.depth, grows.outer, grows⟩, binds.fields⟩
  | decl d =>
    have binds := d.resolve_binds s
    exact ⟨(binds.scopes running).eq_or_bind, binds.fields⟩
  | stmt st =>
    have binds := st.resolve_binds s
    exact ⟨(binds.scopes running).eq_of_nil, binds.fields⟩
  | expr e =>
    have alike := (e.resolve_reads s).toAlike
    exact ⟨⟨alike.table, alike.arena⟩, (e.resolve_binds .scope s).fields⟩
  | formals | formal | body | stmtList | exprList | type => exact ⟨rfl, fun _ _ known => known⟩

end Node

/-- Two scopes that bind `f` and, around it, a struct `S` with a field `a`. -/
def nestedState : Resolution.State :=
  { store := ⟨[{ name := "S", meaning := .structDef ⟨[[("a", ⟨1⟩)]]⟩ },
      { name := "a", meaning := .var .int }, { name := "f", meaning := .func .void [] }]⟩
    table := ⟨[[("f", ⟨2⟩)], [("S", ⟨0⟩)]]⟩ }

/-- A function `g` that has a void variable, a struct `S` and a second function `S` among its
declarations, and assigns to a name that is not declared. -/
def nestedDecl : Decl :=
  let name (word : String) : Ident := { value := .text word }
  .func {} (.void {}) (name "g") {} {}
    (.mk {}
      [.var {} (.void {}) (name "v"),
        .struct {} (name "S") {} [.var {} (.int {}) (name "a"), .var {} (.bool {}) (name "a")],
        .func {} (.int {}) (name "S") {} {} (.mk {} [] {} [])]
      {} [.assign {} { target := .ident (name "v"), value := .int {} (.number 1) }])

theorem resolve_leaves_of_nestedDecl :
    ((Node.decl nestedDecl).resolve nestedState).2.failure = none ∧
      ((Node.decl nestedDecl).resolve nestedState).2.log.entries.length = 4 ∧
      (Node.decl nestedDecl).Leaves nestedState ((Node.decl nestedDecl).resolve nestedState).2 :=
  have running : ((Node.decl nestedDecl).resolve nestedState).2.failure = none := by decide
  ⟨running, by decide, (Node.resolve_leaves (.decl nestedDecl) nestedState running).1⟩

end Minim
