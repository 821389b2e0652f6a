import Minim.Resolution

/-!
# What the steps of an analysis do

Each step does nothing if the analysis has failed, and one of a few things otherwise. A use of a
name is only looked up: at worst it adds a fault to the log or ends the analysis.
-/

namespace Minim

/-- Whether faults of a kind are found at declared names, and not at uses of names. -/
def DiagnosticKind.isOfDeclaration : DiagnosticKind → Bool
  | voidVariable | duplicateName | invalidStructType => true
  | undeclaredIdentifier | dotAccessNonStruct | invalidFieldName => false

namespace Resolution

/-! ## Parts of an analysis -/

theorem bind_run {α β : Type} (part : Resolve α) (next : α → Resolve β) (s : State) :
    (part >>= next) s = next (part s).1 (part s).2 :=
  rfl

theorem pure_run {α : Type} (answer : α) (s : State) : (pure answer : Resolve α) s = (answer, s) :=
  rfl

theorem unlessFailed_of_running {α : Type} {s : State} (running : s.failure = none) (otherwise : α)
    (step : State → α × State) : unlessFailed otherwise step s = step s := by
  simp only [unlessFailed, running]

/-- A step does nothing, or what it does where the analysis goes on. -/
theorem unlessFailed_cases {α : Type} {motive : α × State → Prop} {s : State} {otherwise : α}
    {step : State → α × State} (ended : motive (otherwise, s))
    (taken : s.failure = none → motive (step s)) : motive (unlessFailed otherwise step s) := by
  cases failure : s.failure with
  | some failure' =>
    rw [unlessFailed, failure]
    exact ended
  | none =>
    rw [unlessFailed_of_running failure]
    exact taken failure

end Resolution

/-- Declarations are analysed one after the other. -/
theorem Decl.resolveAll_append (ds es : List Decl) (s : Resolution.State) :
    Decl.resolveAll (ds ++ es) s =
      ((Decl.resolveAll ds s).1 ++ (Decl.resolveAll es (Decl.resolveAll ds s).2).1,
        (Decl.resolveAll es (Decl.resolveAll ds s).2).2) := by
  induction ds generalizing s with
  | nil => rfl
  | cons d ds ih =>
    rw [List.cons_append, Decl.resolveAll, Decl.resolveAll]
    simp only [Resolution.bind_run, Resolution.pure_run, ih, List.cons_append]

/-! ## Scopes -/

namespace Scope

variable {α : Type} {scope : Scope α} {name : String}

theorem find?_bind_self (free : scope.find? name = none) (entry : α) :
    (scope.bind name entry).find? name = some entry := by
  rw [find?] at free
  rw [bind, find?, List.lookup_append, free]
  simp

end Scope

namespace Resolution

/-- Scopes are opened and closed: the symbols, the arena and the log stay what they are. -/
structure State.Keeps (s s' : State) : Prop where
  store : s'.store = s.store
  arena : s'.arena = s.arena
  log : s'.log = s.log

theorem openScope_keeps (s : State) : s.Keeps (openScope s).2 :=
  unlessFailed_cases (motive := fun after => s.Keeps after.2) ⟨rfl, rfl, rfl⟩
    fun _ => ⟨rfl, rfl, rfl⟩

theorem closeScope_keeps (s : State) : s.Keeps (closeScope s).2 := by
  refine unlessFailed_cases (motive := fun after => s.Keeps after.2) ⟨rfl, rfl, rfl⟩ fun _ => ?_
  split <;> exact ⟨rfl, rfl, rfl⟩

end Resolution

/-! ## Field tables -/

/-- A meaning without the fields of a struct. -/
def Meaning.outline : Meaning → Meaning
  | .structDef _ => .structDef .root
  | meaning => meaning

theorem Symbol.fields?_eq_some {symbol : Symbol} {table : Table} :
    symbol.fields? = some table ↔ symbol.meaning = .structDef table := by
  obtain ⟨name, meaning, index⟩ := symbol
  cases meaning <;> simp [Symbol.fields?]

namespace Store

variable {store : Store} {id : SymbolId} {symbol : Symbol} {table : Table}

theorem fields?_eq_some :
    store.fields? id = some table ↔
      ∃ symbol, store.get? id = some symbol ∧ symbol.meaning = .structDef table := by
  simp only [fields?, Option.bind_eq_some_iff, Symbol.fields?_eq_some]

theorem fields?_make (h : store.fields? id = some table) (symbol : Symbol) :
    (store.make symbol).2.fields? id = some table := by
  obtain ⟨earlier, found, isStruct⟩ := fields?_eq_some.mp h
  obtain ⟨small, -⟩ := List.getElem?_eq_some_iff.mp found
  exact fields?_eq_some.mpr ⟨earlier, (get?_make_of_lt store symbol small).trans found, isStruct⟩

/-- Fields that are set change no other symbol, and nothing but the fields of a struct. -/
theorem get?_setFields (known : store.get? id = some symbol) (struct : SymbolId) (table : Table) :
    ∃ symbol', (store.setFields struct table).get? id = some symbol' ∧
      (symbol' = symbol ∨ struct = id ∧ ∃ fields, symbol.meaning = .structDef fields ∧
        symbol' = { symbol with meaning := .structDef table }) := by
  rw [setFields]
  by_cases same : id = struct
  · subst same
    rw [get?_modify_self, known]
    refine ⟨_, rfl, ?_⟩
    obtain ⟨name, meaning, index⟩ := symbol
    cases meaning with
    | structDef fields => exact .inr ⟨rfl, fields, rfl, rfl⟩
    | _ => exact .inl rfl
  · rw [get?_modify_of_ne _ _ same]
    exact ⟨symbol, known, .inl rfl⟩

theorem fields?_setFields (h : store.fields? id = some table) (table' : Table) :
    (store.setFields id table').fields? id = some table' := by
  obtain ⟨symbol, found, isStruct⟩ := fields?_eq_some.mp h
  refine fields?_eq_some.mpr ⟨{ symbol with meaning := .structDef table' }, ?_, rfl⟩
  rw [setFields, get?_modify_self, found, Option.map_some]
  simp only [isStruct]

end Store

namespace Resolution

/-! ## Declaring -/

namespace State

variable {s : State} {target : Target}

/-- The state after a name was bound to a new symbol in the table of a target. -/
def withNew (s : State) (target : Target) (table : Table) (name : String) (meaning : Meaning) :
    State :=
  (s.withTableOf target table).record name meaning

section

variable (table : Table) (name : String) (meaning : Meaning)

theorem nextId_withTableOf : (s.withTableOf target table).nextId = s.nextId := by
  cases target with
  | scope => rfl
  | fields struct => exact congrArg SymbolId.mk (List.length_modify ..)

theorem arena_withTableOf : (s.withTableOf target table).arena = s.arena := by
  cases target <;> rfl

theorem log_withNew : (s.withNew target table name meaning).log = s.log := by
  cases target <;> rfl

theorem ids_withNew :
    (s.withNew target table name meaning).arena.ids = s.arena.ids ++ [s.nextId] := by
  show (s.withTableOf target table).arena.ids ++ [(s.withTableOf target table).nextId] = _
  rw [nextId_withTableOf, arena_withTableOf]

theorem get?_withNew :
    (s.withNew target table name meaning).store.get? s.nextId =
      some { name, meaning, index := some s.arena.size } := by
  have made : ((s.withTableOf target table).record name meaning).store.get?
      (s.withTableOf target table).nextId =
        some { name, meaning, index := some (s.withTableOf target table).arena.size } :=
    Store.get?_make_new _ _
  rwa [arena_withTableOf, nextId_withTableOf] at made

theorem table_withNew :
    (s.withNew target table name meaning).table = if target = .scope then table else s.table := by
  cases target <;> rfl

theorem length_withNew :
    (s.withNew target table name meaning).store.symbols.length = s.store.symbols.length + 1 := by
  have length : (s.withTableOf target table).store.symbols.length = s.store.symbols.length :=
    congrArg SymbolId.number (nextId_withTableOf table)
  rw [← length]
  exact List.length_append

/-- The symbols that were there stay, but for the fields of a struct that the name is bound among.
-/
theorem get?_withNew_old (target : Target) {id : SymbolId} {symbol : Symbol}
    (known : s.store.get? id = some symbol) :
    ∃ symbol', (s.withNew target table name meaning).store.get? id = some symbol' ∧
      (symbol' = symbol ∨ target = .fields id ∧ ∃ fields, symbol.meaning = .structDef fields ∧
        symbol' = { symbol with meaning := .structDef table }) := by
  have kept {store : Store} {symbol' : Symbol} (known' : store.get? id = some symbol')
      (new : Symbol) : (store.make new).2.get? id = some symbol' := by
    obtain ⟨small, -⟩ := List.getElem?_eq_some_iff.mp known'
    rw [Store.get?_make_of_lt store new small, known']
  cases target with
  | scope => exact ⟨symbol, kept known _, .inl rfl⟩
  | fields struct =>
    obtain ⟨symbol', known', change⟩ := Store.get?_setFields known struct table
    exact ⟨symbol', kept known' _,
      change.imp_right fun ⟨same, others⟩ => ⟨congrArg Target.fields same, others⟩⟩

/-- The new binding stands where it was put, if there is a table. -/
theorem tableOf_withNew (opened : ∀ struct, target = .fields struct →
    (s.store.fields? struct).isSome = true) :
    (s.withNew target table name meaning).tableOf target = table := by
  cases target with
  | scope => rfl
  | fields struct =>
    obtain ⟨fields, isStruct⟩ := Option.isSome_iff_exists.mp (opened struct rfl)
    have bound := Store.fields?_make (Store.fields?_setFields isStruct table)
      { name, meaning, index := some s.arena.size }
    exact congrArg (·.getD .root) bound

end

variable {scope : Scope SymbolId} {outer : List (Scope SymbolId)} {name : Ident}
  {meaning : Meaning}

theorem get?_nextId (s : State) : s.store.get? s.nextId = none :=
  List.getElem?_eq_none (Nat.le_refl _)

theorem declare_of_bound {id : SymbolId} (table : s.tableOf target = ⟨scope :: outer⟩)
    (bound : scope.find? name.name = some id) :
    s.declare target name meaning = (none, s.report name .duplicateName) := by
  simp only [State.declare, table, ScopeStack.declare, bound]

theorem declare_of_free (table : s.tableOf target = ⟨scope :: outer⟩)
    (free : scope.find? name.name = none) :
    s.declare target name meaning =
      (some s.nextId,
        s.withNew target ⟨scope.bind name.name s.nextId :: outer⟩ name.name meaning) := by
  simp only [State.declare, table, ScopeStack.declare, free, withNew]

theorem declare_of_unopened (table : s.tableOf target = ⟨[]⟩) :
    s.declare target name meaning = (none, s.fail (.scope (.cannotDeclare name.name))) := by
  simp only [State.declare, table, ScopeStack.declare]

end State

/-- A struct name in a type stays the same name. -/
theorem useStructName_name (structName declared : Ident) (s : State) :
    (useStructName structName declared s).1.name = structName.name := by
  refine unlessFailed_cases (motive := fun after : Ident × State => after.1.name = structName.name)
    rfl fun _ => ?_
  split
  · rfl
  · rfl
  · split <;> rfl

/-! ## Reading -/

namespace State

/-- Two states with the same symbols, scopes and arena. -/
structure Alike (s s' : State) : Prop where
  store : s'.store = s.store
  table : s'.table = s.table
  arena : s'.arena = s.arena

/-- From one state to another names were only looked up: the log may have more faults, none of them
at a declared name, and the analysis may have ended. -/
structure Reads (s s' : State) : Prop extends Alike s s' where
  log : ∃ found, s'.log.entries = s.log.entries ++ found ∧
    ∀ fault ∈ found, fault.kind.isOfDeclaration = false

namespace Reads

variable {s s' s'' : State}

theorem refl (s : State) : Reads s s :=
  ⟨⟨rfl, rfl, rfl⟩, [], (List.append_nil _).symm, List.forall_mem_nil _⟩

theorem trans (h : Reads s s') (h' : Reads s' s'') : Reads s s'' := by
  obtain ⟨found, log, kinds⟩ := h.log
  obtain ⟨found', log', kinds'⟩ := h'.log
  refine ⟨⟨h'.store.trans h.store, h'.table.trans h.table, h'.arena.trans h.arena⟩,
    found ++ found', ?_, List.forall_mem_append.mpr ⟨kinds, kinds'⟩⟩
  rw [log', log, List.append_assoc]

theorem fail (s : State) (failure : Failure) : Reads s (s.fail failure) :=
  ⟨⟨rfl, rfl, rfl⟩, [], (List.append_nil _).symm, List.forall_mem_nil _⟩

theorem report (s : State) (name : Ident) {kind : DiagnosticKind}
    (ofUse : kind.isOfDeclaration = false) : Reads s (s.report name kind) :=
  ⟨⟨rfl, rfl, rfl⟩, [Log.entry name.pos kind], rfl, List.forall_mem_singleton.mpr ofUse⟩

end Reads

end State

theorem fail_reads (failure : Failure) (s : State) : s.Reads (fail failure s).2 :=
  unlessFailed_cases (motive := fun after => s.Reads after.2) (.refl s) fun _ => .fail s failure

theorem useName_reads (name : Ident) (s : State) : s.Reads (useName name s).2 := by
  refine unlessFailed_cases (motive := fun after => s.Reads after.2) (.refl s) fun _ => ?_
  split
  · exact .fail s _
  · exact .report s name rfl
  · exact .refl s

theorem useBase_reads (base : Ident) (s : State) : s.Reads (useBase base s).2 := by
  refine unlessFailed_cases (motive := fun after => s.Reads after.2) (.refl s) fun _ => ?_
  split
  · exact .fail s _
  · split
    · exact .report s base rfl
    · exact .refl s

theorem useField_reads (structName : String) (field : Ident) (s : State) :
    s.Reads (useField structName field s).2 := by
  refine unlessFailed_cases (motive := fun after => s.Reads after.2) (.refl s) fun _ => ?_
  split
  · exact .fail s _
  · split
    · exact .refl s
    · split
      · exact .fail s _
      · exact .report s field rfl
      · exact .refl s

end Resolution

open Resolution

/-- A dot access stays one. -/
theorem Expr.resolve_dot (pos : Position) (base : Expr) (field : Ident) (s : State) :
    ∃ base' field', ((Expr.dot pos base field).resolve s).1 = .dot pos base' field' := by
  cases base with
  | ident name => exact ⟨_, _, rfl⟩
  | dot => exact ⟨_, _, rfl⟩
  | _ => exact ⟨_, _, rfl⟩

namespace Ident

variable {base field : Ident} {structName : String} {s : State}

theorem resolveMember_of_none (found : (useBase base s).1.2 = none) :
    base.resolveMember field s = (((useBase base s).1.1, field), (useBase base s).2) := by
  rw [Ident.resolveMember, bind_run]
  simp only [found, pure_run]

theorem resolveMember_of_some (found : (useBase base s).1.2 = some structName) :
    base.resolveMember field s =
      (((useBase base s).1.1, (useField structName field (useBase base s).2).1),
        (useField structName field (useBase base s).2).2) := by
  rw [Ident.resolveMember, bind_run]
  simp only [found, bind_run, pure_run]

theorem resolveMember_reads (base field : Ident) (s : State) :
    s.Reads (base.resolveMember field s).2 := by
  cases found : (useBase base s).1.2 with
  | none =>
    rw [resolveMember_of_none found]
    exact useBase_reads base s
  | some structName =>
    rw [resolveMember_of_some found]
    exact (useBase_reads base s).trans (useField_reads structName field _)

end Ident

mutual

/-- **The analysis of an expression only looks names up.** -/
theorem Expr.resolve_reads (e : Expr) (s : State) : s.Reads (e.resolve s).2 := by
  cases e with
  | int | string | bool => exact .refl s
  | ident name => exact useName_reads name s
  | dot pos base field =>
    cases base with
    | ident name => exact name.resolveMember_reads field s
    | dot pos' base' field' =>
      exact (Expr.resolve_reads (.dot pos' base' field') s).trans (useName_reads field _)
    | _ => exact fail_reads _ s
  | assign pos target value => exact (target.resolve_reads s).trans (value.resolve_reads _)
  | call pos callee argsPos args =>
    exact (useName_reads callee s).trans (Expr.resolveAll_reads args _)
  | unary pos op operand => exact operand.resolve_reads s
  | binary pos left op right => exact (left.resolve_reads s).trans (right.resolve_reads _)

theorem Expr.resolveAll_reads (es : List Expr) (s : State) :
    s.Reads (Expr.resolveAll es s).2 := by
  cases es with
  | nil => exact .refl s
  | cons e es => exact (e.resolve_reads s).trans (Expr.resolveAll_reads es _)

end

theorem Assignment.resolve_reads (a : Assignment) (s : State) : s.Reads (a.resolve s).2 :=
  (a.target.resolve_reads s).trans (a.value.resolve_reads _)

theorem Call.resolve_reads (c : Call) (s : State) : s.Reads (c.resolve s).2 :=
  (useName_reads c.callee s).trans (Expr.resolveAll_reads c.args _)

/-! ## Structs -/

namespace Decl

variable {pos fieldsPos : Position} {name : Ident} {fields : List Decl} {struct : SymbolId}
  {s : State}

/-- The fields of a struct that cannot be declared are not walked. -/
theorem resolve_struct_of_none (declared : (declare .scope name (.structDef .root) s).1 = none) :
    (Decl.struct pos name fieldsPos fields).resolve s =
      (.struct pos name fieldsPos fields, (declare .scope name (.structDef .root) s).2) := by
  rw [Decl.resolve, bind_run]
  simp only [declared, pure_run]

theorem resolve_struct_of_some
    (declared : (declare .scope name (.structDef .root) s).1 = some struct) :
    (Decl.struct pos name fieldsPos fields).resolve s =
      (.struct pos name fieldsPos (Decl.resolveFields name.name struct fields
          (declare .scope name (.structDef .root) s).2).1,
        (Decl.resolveFields name.name struct fields
          (declare .scope name (.structDef .root) s).2).2) := by
  rw [Decl.resolve, bind_run]
  simp only [declared, bind_run, pure_run]

end Decl

end Minim
