import Minim.Proofs.Resolution.Completion
import Minim.Proofs.Resolution.Fates
import Minim.Proofs.Syntax.Idents

/-!
# What an analysis reads of the scopes

An analysis asks the open scopes for the names that it meets in its tree, and for the structs of
variables that it has declared itself on the way. So the outermost scope can be another one at its
start: as long as that binds the names of the tree in the same way, the same things are found, and
the same symbols made.
-/

namespace Minim

theorem Scope.find?_append {α : Type} (scope more : Scope α) (name : String) :
    Scope.find? (scope ++ more) name = (scope.find? name).or (more.find? name) :=
  List.lookup_append

namespace Resolution

/-- Another start of the outermost scope, which binds the names that are shown in the same way. -/
structure Rebasing where
  Shown : String → Prop
  base : Scope SymbolId
  base' : Scope SymbolId
  agree : ∀ name, Shown name → base'.find? name = base.find? name

/-! ## Scopes -/

namespace Rebasing

variable (r : Rebasing)

/-- The scopes of one state and of another, some of them opened inside the outermost one. The
variables of structs in the inner scopes are of structs whose names are shown. -/
structure Opened (depth : Nat) (s : State) (table : Table) : Prop where
  scopes : ∃ inner more, inner.length = depth ∧ s.table = ⟨inner ++ [r.base ++ more]⟩ ∧
    table = ⟨inner ++ [r.base' ++ more]⟩ ∧
    ∀ scope ∈ inner, ∀ binding ∈ scope, ∀ structName,
      s.structOf? binding.2 = some structName → r.Shown structName

/-- Two states that are the same but for the start of the outermost scope, as long as they go on. -/
structure Meets (depth : Nat) (s t : State) : Prop where
  rest : t = s.withTable t.table
  opened : s.failure = none → r.Opened depth s t.table

/-- A part of an analysis does the same in both states, and opens some scopes or closes some. -/
def Ignores {α : Type} (depth depth' : Nat) (part : Resolve α) : Prop :=
  ∀ s t, r.Meets depth s t → (part t).1 = (part s).1 ∧ r.Meets depth' (part s).2 (part t).2

variable {r} {depth depth' depth'' : Nat} {s t : State} {table : Table} {name : String}

theorem find?_append (shown : r.Shown name) (more : Scope SymbolId) :
    Scope.find? (r.base' ++ more) name = Scope.find? (r.base ++ more) name := by
  rw [Scope.find?_append, Scope.find?_append, r.agree name shown]

namespace Opened

theorem lookup (h : r.Opened depth s table) (shown : r.Shown name) :
    table.lookup name = s.table.lookup name := by
  obtain ⟨inner, more, -, scopes, rfl, -⟩ := h.scopes
  have found (outer : Scope SymbolId) : ScopeStack.lookup ⟨inner ++ [outer]⟩ name =
      .ok ((inner.findSome? (·.find? name)).or (outer.find? name)) := by
    rw [ScopeStack.lookup]
    split
    · rename_i none
      exact absurd none (by simp)
    · rw [List.findSome?_append]
      simp
  rw [scopes, found, found, find?_append shown]

/-- The innermost scope is an inner one. -/
theorem lookupLocal (h : r.Opened (depth + 1) s table) (name : String) :
    table.lookupLocal name = s.table.lookupLocal name := by
  obtain ⟨inner, more, length, scopes, rfl, -⟩ := h.scopes
  obtain ⟨scope, inner, rfl⟩ := List.exists_cons_of_length_eq_add_one length
  rw [scopes]
  rfl

/-- The structs of the variables in the innermost scope are shown, if it is an inner one. -/
theorem shown_of_lookupLocal (h : r.Opened (depth + 1) s table) {id : SymbolId}
    {structName : String} (looked : s.table.lookupLocal name = .ok (some id))
    (isVar : s.structOf? id = some structName) : r.Shown structName := by
  obtain ⟨inner, more, length, scopes, rfl, shown⟩ := h.scopes
  obtain ⟨scope, inner, rfl⟩ := List.exists_cons_of_length_eq_add_one length
  rw [scopes] at looked
  obtain ⟨before, after, split, -⟩ := List.lookup_eq_some_iff.mp (Except.ok.inj looked)
  refine shown scope (List.mem_cons_self ..) (name, id) ?_ structName isVar
  rw [split]
  exact List.mem_append_right _ (List.mem_cons_self ..)

theorem push (h : r.Opened depth s table) :
    r.Opened (depth + 1) (s.withTable s.table.push) table.push := by
  obtain ⟨inner, more, length, scopes, rfl, shown⟩ := h.scopes
  refine ⟨[] :: inner, more, congrArg Nat.succ length, ?_, rfl, ?_⟩
  · rw [scopes]
    rfl
  · exact List.forall_mem_cons.mpr ⟨List.forall_mem_nil _, shown⟩

theorem pop (h : r.Opened (depth + 1) s table) : ∃ outer outer', s.table.pop = .ok outer ∧
    table.pop = .ok outer' ∧ r.Opened depth (s.withTable outer) outer' := by
  obtain ⟨inner, more, length, scopes, rfl, shown⟩ := h.scopes
  obtain ⟨scope, inner, rfl⟩ := List.exists_cons_of_length_eq_add_one length
  refine ⟨⟨inner ++ [r.base ++ more]⟩, ⟨inner ++ [r.base' ++ more]⟩, ?_, rfl, inner, more,
    Nat.succ.inj length, rfl, rfl, (List.forall_mem_cons.mp shown).2⟩
  rw [scopes]
  rfl

/-- Only the scopes and what the variables are matters. -/
theorem of_structs (h : r.Opened depth s table) {s' : State} (same : s'.table = s.table)
    (structs : ∀ id structName, s'.structOf? id = some structName →
      s.structOf? id = some structName ∨ r.Shown structName) : r.Opened depth s' table := by
  obtain ⟨inner, more, length, scopes, same', shown⟩ := h.scopes
  refine ⟨inner, more, length, same.trans scopes, same', ?_⟩
  intro scope mem binding inside structName isVar
  rcases structs binding.2 structName isVar with old | new
  · exact shown scope mem binding inside structName old
  · exact new

end Opened

/-- The struct of a variable was its struct before, or the variable is the new symbol. -/
theorem structOf?_withNew {target : Target} {meaning : Meaning} {id : SymbolId}
    {structName : String}
    (isVar : (s.withNew target table name meaning).structOf? id = some structName) :
    s.structOf? id = some structName ∨ meaning = .structVar structName := by
  have isVar' : ∃ symbol, (s.withNew target table name meaning).store.get? id = some symbol ∧
      symbol.meaning = .structVar structName := by
    rw [State.structOf?] at isVar
    split at isVar
    · rename_i found
      obtain ⟨symbol, known, meaning⟩ := Option.map_eq_some_iff.mp found
      exact ⟨symbol, known, meaning.trans (congrArg _ (Option.some.inj isVar))⟩
    · cases isVar
  obtain ⟨symbol', known', isVar'⟩ := isVar'
  cases known : s.store.get? id with
  | some symbol =>
    obtain ⟨symbol'', known'', change⟩ := State.get?_withNew_old table name meaning target known
    cases known'.symm.trans known''
    rcases change with rfl | ⟨-, -, -, rfl⟩
    · left
      rw [State.structOf?, known, Option.map_some, isVar']
    · cases isVar'
  | none =>
    have large : s.store.symbols.length ≤ id.number := List.getElem?_eq_none_iff.mp known
    obtain ⟨small, -⟩ := List.getElem?_eq_some_iff.mp known'
    rw [State.length_withNew] at small
    obtain rfl : id = s.nextId := congrArg SymbolId.mk (by omega)
    cases (State.get?_withNew ..).symm.trans known'
    exact .inr isVar'

namespace Meets

theorem store (h : r.Meets depth s t) : t.store = s.store :=
  (congrArg State.store h.rest :)

theorem nextId (h : r.Meets depth s t) : t.nextId = s.nextId :=
  (congrArg State.nextId h.rest :)

theorem failure (h : r.Meets depth s t) : t.failure = s.failure :=
  (congrArg State.failure h.rest :)

theorem structOf? (h : r.Meets depth s t) (id : SymbolId) : t.structOf? id = s.structOf? id :=
  (congrArg (State.structOf? · id) h.rest :)

theorem fail (h : r.Meets depth s t) (failure : Failure) :
    r.Meets depth' (s.fail failure) (t.fail failure) where
  rest := congrArg (State.fail · failure) h.rest
  opened := nofun

theorem report (h : r.Meets depth s t) (running : s.failure = none) (name : Ident)
    (kind : DiagnosticKind) : r.Meets depth (s.report name kind) (t.report name kind) where
  rest := congrArg (State.report · name kind) h.rest
  opened _ := (h.opened running).of_structs rfl fun _ _ => .inl

theorem withTable (h : r.Meets depth s t) {outer outer' : Table}
    (opened : r.Opened depth' (s.withTable outer) outer') :
    r.Meets depth' (s.withTable outer) (t.withTable outer') where
  rest := (congrArg (State.withTable · outer') h.rest :)
  opened _ := opened

/-- A name is declared among the fields of a struct. -/
theorem withField (h : r.Meets depth s t) (running : s.failure = none) (struct : SymbolId)
    (table : Table) (name : String) {meaning : Meaning}
    (shown : ∀ structName, meaning = .structVar structName → r.Shown structName) :
    r.Meets depth (s.withNew (.fields struct) table name meaning)
      (t.withNew (.fields struct) table name meaning) where
  rest := congrArg (State.withNew · (.fields struct) table name meaning) h.rest
  opened _ := (h.opened running).of_structs rfl fun _ structName isVar =>
    (structOf?_withNew isVar).imp_right (shown structName)

/-- A name that is shown is declared in the innermost scope, in both states or in none. -/
theorem declare (h : r.Meets depth s t) (running : s.failure = none) {name : Ident}
    (shownName : r.Shown name.name) {meaning : Meaning}
    (shown : ∀ structName, meaning = .structVar structName → r.Shown structName) :
    (t.declare .scope name meaning).1 = (s.declare .scope name meaning).1 ∧
      r.Meets depth (s.declare .scope name meaning).2 (t.declare .scope name meaning).2 := by
  obtain ⟨inner, more, length, scopes, scopes', structs⟩ := (h.opened running).scopes
  have bound {table table' : Table}
      (opened : ∃ inner more, inner.length = depth ∧ table = ⟨inner ++ [r.base ++ more]⟩ ∧
        table' = ⟨inner ++ [r.base' ++ more]⟩ ∧ ∀ scope ∈ inner, ∀ binding ∈ scope,
          ∀ structName, s.structOf? binding.2 = some structName ∨ meaning = .structVar structName →
            r.Shown structName) :
      r.Meets depth (s.withNew .scope table name.name meaning)
        (t.withNew .scope table' name.name meaning) := by
    obtain ⟨inner, more, length, rfl, rfl, structs⟩ := opened
    refine ⟨(congrArg (State.withNew · .scope _ name.name meaning) h.rest :), fun _ =>
      ⟨inner, more, length, rfl, rfl, fun scope mem binding inside structName isVar => ?_⟩⟩
    exact structs scope mem binding inside structName (structOf?_withNew isVar)
  have structs' : ∀ scope ∈ inner, ∀ binding ∈ scope, ∀ structName,
      s.structOf? binding.2 = some structName ∨ meaning = .structVar structName →
        r.Shown structName := by
    rintro scope mem binding inside structName (old | new)
    · exact structs scope mem binding inside structName old
    · exact shown structName new
  cases inner with
  | nil =>
    have agree := find?_append shownName more
    have opened : s.tableOf .scope = ⟨[r.base ++ more]⟩ := scopes
    have opened' : t.tableOf .scope = ⟨[r.base' ++ more]⟩ := scopes'
    cases found : Scope.find? (r.base ++ more) name.name with
    | some id =>
      rw [State.declare_of_bound opened found, State.declare_of_bound opened' (agree.trans found)]
      exact ⟨rfl, h.report running name .duplicateName⟩
    | none =>
      rw [State.declare_of_free opened found, State.declare_of_free opened' (agree.trans found),
        h.nextId]
      refine ⟨rfl, bound ⟨[], more ++ [(name.name, s.nextId)], length, ?_, ?_, structs'⟩⟩
      · rw [Scope.bind, List.append_assoc]
        rfl
      · rw [Scope.bind, List.append_assoc]
        rfl
  | cons scope inner =>
    have opened : s.tableOf .scope = ⟨scope :: (inner ++ [r.base ++ more])⟩ := scopes
    have opened' : t.tableOf .scope = ⟨scope :: (inner ++ [r.base' ++ more])⟩ := scopes'
    cases found : scope.find? name.name with
    | some id =>
      rw [State.declare_of_bound opened found, State.declare_of_bound opened' found]
      exact ⟨rfl, h.report running name .duplicateName⟩
    | none =>
      rw [State.declare_of_free opened found, State.declare_of_free opened' found, h.nextId]
      refine ⟨rfl, bound ⟨scope.bind name.name s.nextId :: inner, more, length, rfl, rfl, ?_⟩⟩
      obtain ⟨first, others⟩ := List.forall_mem_cons.mp structs'
      refine List.forall_mem_cons.mpr ⟨List.forall_mem_append.mpr ⟨first, ?_⟩, others⟩
      refine List.forall_mem_singleton.mpr fun structName isVar => ?_
      rcases isVar with old | new
      · rw [State.structOf?, State.get?_nextId] at old
        cases old
      · exact shown structName new

end Meets

/-! ## Parts of an analysis -/

namespace Ignores

variable {α β : Type} {part : Resolve α} {next : α → Resolve β}

theorem pure (answer : α) : r.Ignores depth depth (pure answer) :=
  fun _ _ meets => ⟨rfl, meets⟩

/-- One part after the other. -/
theorem bind (h : r.Ignores depth depth' part)
    (h' : ∀ answer, r.Ignores depth' depth'' (next answer)) :
    r.Ignores depth depth'' (part >>= next) := by
  intro s t meets
  obtain ⟨answers, after⟩ := h s t meets
  rw [bind_run, bind_run, answers]
  exact h' _ _ _ after

/-- A step is taken in both analyses or in none. -/
theorem unlessFailed {otherwise : α} {step : State → α × State}
    (taken : ∀ s t, s.failure = none → r.Meets depth s t →
      (step t).1 = (step s).1 ∧ r.Meets depth' (step s).2 (step t).2) :
    r.Ignores depth depth' (unlessFailed otherwise step) := by
  intro s t meets
  cases running : s.failure with
  | none =>
    rw [unlessFailed_of_running running, unlessFailed_of_running (meets.failure.trans running)]
    exact taken s t running meets
  | some failure =>
    rw [Resolution.unlessFailed, Resolution.unlessFailed, meets.failure, running]
    refine ⟨rfl, meets.rest, fun running' => ?_⟩
    cases running.symm.trans running'

end Ignores

/-! ## Steps -/

theorem fail_ignores (failure : Failure) : r.Ignores depth depth' (fail failure) :=
  .unlessFailed fun _ _ _ meets => ⟨rfl, meets.fail failure⟩

theorem report_ignores (name : Ident) (kind : DiagnosticKind) :
    r.Ignores depth depth (report name kind) :=
  .unlessFailed fun _ _ running meets => ⟨rfl, meets.report running name kind⟩

theorem openScope_ignores : r.Ignores depth (depth + 1) openScope :=
  .unlessFailed fun _ _ running meets => ⟨rfl, meets.withTable (meets.opened running).push⟩

theorem closeScope_ignores : r.Ignores (depth + 1) depth closeScope := by
  refine .unlessFailed fun s t running meets => ?_
  obtain ⟨outer, outer', popped, popped', opened⟩ := (meets.opened running).pop
  rw [popped, popped']
  exact ⟨rfl, meets.withTable opened⟩

theorem declare_ignores {name : Ident} (shownName : r.Shown name.name) {meaning : Meaning}
    (shown : ∀ structName, meaning = .structVar structName → r.Shown structName) :
    r.Ignores depth depth (declare .scope name meaning) :=
  .unlessFailed fun _ _ running meets => meets.declare running shownName shown

theorem declare_fields_ignores (struct : SymbolId) (name : Ident) {meaning : Meaning}
    (shown : ∀ structName, meaning = .structVar structName → r.Shown structName) :
    r.Ignores depth depth (declare (.fields struct) name meaning) := by
  refine .unlessFailed fun s t running meets => ?_
  have table : t.tableOf (.fields struct) = s.tableOf (.fields struct) := by
    rw [State.tableOf, State.tableOf, meets.store]
  rw [State.declare, State.declare, table, meets.nextId]
  split
  · exact ⟨rfl, meets.report running name .duplicateName⟩
  · exact ⟨rfl, meets.fail _⟩
  · exact ⟨rfl, meets.withField running struct _ name.name shown⟩

theorem useName_ignores {name : Ident} (shown : r.Shown name.name) :
    r.Ignores depth depth (useName name) := by
  refine .unlessFailed fun s t running meets => ?_
  rw [(meets.opened running).lookup shown, meets.store]
  split
  · exact ⟨rfl, meets.fail _⟩
  · exact ⟨rfl, meets.report running name _⟩
  · exact ⟨rfl, meets⟩

theorem useStructName_ignores {structName : Ident} (shown : r.Shown structName.name)
    (declared : Ident) : r.Ignores depth depth (useStructName structName declared) := by
  refine .unlessFailed fun s t running meets => ?_
  rw [(meets.opened running).lookup shown, meets.store]
  split
  · exact ⟨rfl, meets.fail _⟩
  · exact ⟨rfl, meets.report running declared _⟩
  · split <;> exact ⟨rfl, meets⟩

theorem useField_ignores {structName : String} (shown : r.Shown structName) (field : Ident) :
    r.Ignores depth depth (useField structName field) := by
  refine .unlessFailed fun s t running meets => ?_
  rw [(meets.opened running).lookup shown, meets.store]
  split
  · exact ⟨rfl, meets.fail _⟩
  · split
    · exact ⟨rfl, meets⟩
    · split
      · exact ⟨rfl, meets.fail _⟩
      · exact ⟨rfl, meets.report running field _⟩
      · exact ⟨rfl, meets⟩

theorem useBase_ignores (base : Ident) : r.Ignores (depth + 1) (depth + 1) (useBase base) := by
  refine .unlessFailed fun s t running meets => ?_
  rw [(meets.opened running).lookupLocal, meets.store]
  simp only [meets.structOf?]
  split
  · exact ⟨rfl, meets.fail _⟩
  · split
    · exact ⟨rfl, meets.report running base _⟩
    · exact ⟨rfl, meets⟩

/-- The struct that the base of a dot access is a variable of is shown. -/
theorem shown_of_useBase {base : Ident} (meets : r.Meets (depth + 1) s t) :
    ∀ structName, (useBase base s).1.2 = some structName → r.Shown structName := by
  refine unlessFailed_cases (motive := fun after : (Ident × Option String) × State =>
    ∀ structName, after.1.2 = some structName → r.Shown structName) (by rintro _ ⟨⟩)
    fun running => ?_
  split
  · rintro _ ⟨⟩
  · rename_i found looked
    split
    · rintro _ ⟨⟩
    · rename_i id structName isVar
      rintro _ ⟨⟩
      obtain ⟨id', rfl, ofStruct⟩ := Option.bind_eq_some_iff.mp isVar
      obtain ⟨structName', isStruct, same⟩ := Option.map_eq_some_iff.mp ofStruct
      obtain ⟨rfl, rfl⟩ := Prod.mk.inj same
      exact (meets.opened running).shown_of_lookupLocal looked isStruct

end Rebasing

end Resolution

open Resolution

variable {r : Rebasing} {depth : Nat}

/-! ## Expressions -/

/-- The base of a dot access is looked up in an inner scope. -/
theorem Ident.resolveMember_ignores (base field : Ident) :
    r.Ignores (depth + 1) (depth + 1) (base.resolveMember field) := by
  intro s t meets
  obtain ⟨answers, after⟩ := Rebasing.useBase_ignores base s t meets
  cases found : (useBase base s).1.2 with
  | none =>
    rw [resolveMember_of_none found, resolveMember_of_none (answers ▸ found), answers]
    exact ⟨rfl, after⟩
  | some structName =>
    have shown := Rebasing.shown_of_useBase meets structName found
    obtain ⟨answers', after'⟩ := Rebasing.useField_ignores shown field _ _ after
    rw [resolveMember_of_some found, resolveMember_of_some (answers ▸ found), answers, answers']
    exact ⟨rfl, after'⟩

mutual

theorem Expr.resolve_ignores (e : Expr) (shown : ∀ name ∈ e.idents, r.Shown name.name) :
    r.Ignores (depth + 1) (depth + 1) e.resolve := by
  cases e with
  | int pos value => exact .pure (Expr.int pos value)
  | string pos written => exact .pure (Expr.string pos written)
  | bool pos value => exact .pure (Expr.bool pos value)
  | ident name =>
    exact (Rebasing.useName_ignores (shown name (.head _))).bind fun name => .pure (Expr.ident name)
  | dot pos base field =>
    rw [Expr.idents, List.forall_mem_append] at shown
    have shownField := shown.2 field (.head _)
    cases base with
    | dot pos' base' field' =>
      exact (Expr.resolve_ignores (.dot pos' base' field') shown.1).bind fun base =>
        (Rebasing.useName_ignores shownField).bind fun field => .pure (Expr.dot pos base field)
    | ident name =>
      exact (name.resolveMember_ignores field).bind fun (name, field) =>
        .pure (Expr.dot pos (.ident name) field)
    | _ => exact (Rebasing.fail_ignores (.dotBase _)).bind fun _ => .pure (Expr.dot pos _ field)
  | assign pos target value =>
    rw [Expr.idents, List.forall_mem_append] at shown
    exact (Expr.resolve_ignores target shown.1).bind fun target =>
      (Expr.resolve_ignores value shown.2).bind fun value => .pure (Expr.assign pos target value)
  | call pos callee argsPos args =>
    rw [Expr.idents, List.forall_mem_cons] at shown
    exact (Rebasing.useName_ignores shown.1).bind fun callee =>
      (Expr.resolveAll_ignores args shown.2).bind fun args =>
      .pure (Expr.call pos callee argsPos args)
  | unary pos op operand =>
    exact (Expr.resolve_ignores operand shown).bind fun operand =>
      .pure (Expr.unary pos op operand)
  | binary pos left op right =>
    rw [Expr.idents, List.forall_mem_append] at shown
    exact (Expr.resolve_ignores left shown.1).bind fun left =>
      (Expr.resolve_ignores right shown.2).bind fun right => .pure (Expr.binary pos left op right)

theorem Expr.resolveAll_ignores (es : List Expr)
    (shown : ∀ name ∈ Expr.identsAll es, r.Shown name.name) :
    r.Ignores (depth + 1) (depth + 1) (Expr.resolveAll es) := by
  cases es with
  | nil => exact .pure ([] : List Expr)
  | cons e es =>
    rw [Expr.identsAll, List.forall_mem_append] at shown
    exact (Expr.resolve_ignores e shown.1).bind fun e =>
      (Expr.resolveAll_ignores es shown.2).bind fun es => .pure (e :: es)

end

theorem Assignment.resolve_ignores (a : Assignment)
    (shown : ∀ name ∈ a.expr.idents, r.Shown name.name) :
    r.Ignores (depth + 1) (depth + 1) a.resolve := by
  have both := List.forall_mem_append.mp (shown : ∀ name ∈ a.target.idents ++ a.value.idents, _)
  exact (a.target.resolve_ignores both.1).bind fun target =>
    (a.value.resolve_ignores both.2).bind fun value => .pure { a with target, value }

theorem Call.resolve_ignores (c : Call) (shown : ∀ name ∈ c.expr.idents, r.Shown name.name) :
    r.Ignores (depth + 1) (depth + 1) c.resolve := by
  have both := List.forall_mem_cons.mp (shown : ∀ name ∈ c.callee :: Expr.identsAll c.args, _)
  exact (Rebasing.useName_ignores both.1).bind fun callee =>
    (Expr.resolveAll_ignores c.args both.2).bind fun args => .pure { c with callee, args }

/-! ## Variables -/

/-- A name is declared with a type, in a scope or among the fields of a struct. -/
theorem TypeExpr.declare_ignores {target : Target} {name : Ident}
    (declares : ∀ meaning, (∀ structName, meaning = .structVar structName → r.Shown structName) →
      r.Ignores depth depth (Resolution.declare target name meaning))
    (type : TypeExpr) (shown : ∀ name ∈ type.idents, r.Shown name.name) :
    r.Ignores depth depth (type.declare target name) := by
  cases type with
  | int pos => exact (declares _ (by rintro _ ⟨⟩)).bind fun _ => .pure (TypeExpr.int pos)
  | bool pos => exact (declares _ (by rintro _ ⟨⟩)).bind fun _ => .pure (TypeExpr.bool pos)
  | void pos =>
    exact (Rebasing.report_ignores name .voidVariable).bind fun _ => .pure (TypeExpr.void pos)
  | struct pos structName =>
    have shownStruct := shown structName (.head _)
    intro s t meets
    obtain ⟨answers, after⟩ := Rebasing.useStructName_ignores shownStruct name s t meets
    obtain ⟨-, after'⟩ := declares (.structVar structName.name)
      (by rintro _ ⟨⟩; exact shownStruct) _ _ after
    rw [TypeExpr.declare_struct, TypeExpr.declare_struct, answers]
    exact ⟨rfl, after'⟩

theorem Formal.resolveAll_ignores (fs : List Formal)
    (shown : ∀ name ∈ fs.flatMap Formal.idents, r.Shown name.name) :
    r.Ignores depth depth (Formal.resolveAll fs) := by
  induction fs with
  | nil => exact .pure ([] : List Formal)
  | cons f fs ih =>
    rw [List.flatMap_cons, List.forall_mem_append, Formal.idents, List.forall_mem_append] at shown
    have first : r.Ignores depth depth f.resolve :=
      (f.type.declare_ignores (fun _ => Rebasing.declare_ignores (shown.1.2 f.name (.head _)))
        shown.1.1).bind fun type => .pure { f with type }
    exact first.bind fun f => (ih shown.2).bind fun fs => .pure (f :: fs)

theorem Formals.resolve_ignores (formals : Formals)
    (shown : ∀ name ∈ formals.items.flatMap Formal.idents, r.Shown name.name) :
    r.Ignores depth depth formals.resolve :=
  (Formal.resolveAll_ignores formals.items shown).bind fun items => .pure { formals with items }

theorem Decl.resolveField_ignores (structName : String) (struct : SymbolId) (d : Decl)
    (shown : ∀ name ∈ d.idents, r.Shown name.name) :
    r.Ignores depth depth (d.resolveField structName struct) := by
  cases d with
  | var pos type name =>
    rw [Decl.idents, List.forall_mem_append] at shown
    exact (type.declare_ignores (fun _ => Rebasing.declare_fields_ignores struct name)
      shown.1).bind fun type => .pure (Decl.var pos type name)
  | func | struct =>
    exact (Rebasing.fail_ignores (.structMember structName _)).bind fun _ => .pure _

theorem Decl.resolveFields_ignores (structName : String) (struct : SymbolId) (fields : List Decl)
    (shown : ∀ name ∈ Decl.identsAll fields, r.Shown name.name) :
    r.Ignores depth depth (Decl.resolveFields structName struct fields) := by
  induction fields with
  | nil => exact .pure ([] : List Decl)
  | cons d fields ih =>
    rw [Decl.identsAll, List.forall_mem_append] at shown
    exact (d.resolveField_ignores structName struct shown.1).bind fun d =>
      (ih shown.2).bind fun fields => .pure (d :: fields)

/-! ## Declarations and statements -/

mutual

theorem Decl.resolve_ignores {depth : Nat} (d : Decl)
    (shown : ∀ name ∈ d.idents, r.Shown name.name) :
    r.Ignores depth depth d.resolve := by
  cases d with
  | var pos type name =>
    rw [Decl.idents, List.forall_mem_append] at shown
    exact (type.declare_ignores (fun _ => Rebasing.declare_ignores (shown.2 name (.head _)))
      shown.1).bind fun type => .pure (Decl.var pos type name)
  | func pos returnType name formals bodyPos body =>
    simp only [Decl.idents, List.forall_mem_append, List.forall_mem_cons] at shown
    obtain ⟨-, shownName, shownFormals, shownBody⟩ := shown
    exact (Rebasing.declare_ignores shownName (by rintro _ ⟨⟩)).bind fun _ =>
      Rebasing.openScope_ignores.bind fun _ =>
      (formals.resolve_ignores shownFormals).bind fun formals =>
      (Block.resolveInside_ignores body shownBody).bind fun body =>
      Rebasing.closeScope_ignores.bind fun _ =>
      .pure (Decl.func pos returnType name formals bodyPos body)
  | struct pos name fieldsPos fields =>
    rw [Decl.idents, List.forall_mem_cons] at shown
    refine (Rebasing.declare_ignores shown.1 (by rintro _ ⟨⟩)).bind fun declared => ?_
    cases declared with
    | none => exact .pure (Decl.struct pos name fieldsPos fields)
    | some struct =>
      exact (Decl.resolveFields_ignores name.name struct fields shown.2).bind fun fields =>
        .pure (Decl.struct pos name fieldsPos fields)

theorem Stmt.resolve_ignores {depth : Nat} (st : Stmt)
    (shown : ∀ name ∈ st.idents, r.Shown name.name) :
    r.Ignores (depth + 1) (depth + 1) st.resolve := by
  cases st with
  | assign pos a => exact (a.resolve_ignores shown).bind fun a => .pure (Stmt.assign pos a)
  | increment pos e => exact (e.resolve_ignores shown).bind fun e => .pure (Stmt.increment pos e)
  | decrement pos e => exact (e.resolve_ignores shown).bind fun e => .pure (Stmt.decrement pos e)
  | read pos e => exact (e.resolve_ignores shown).bind fun e => .pure (Stmt.read pos e)
  | write pos e => exact (e.resolve_ignores shown).bind fun e => .pure (Stmt.write pos e)
  | ifThen pos cond body =>
    rw [Stmt.idents, List.forall_mem_append] at shown
    exact (cond.resolve_ignores shown.1).bind fun cond => Rebasing.openScope_ignores.bind fun _ =>
      (Block.resolveInside_ignores body shown.2).bind fun body =>
      Rebasing.closeScope_ignores.bind fun _ => .pure (Stmt.ifThen pos cond body)
  | ifElse pos cond yes no =>
    simp only [Stmt.idents, List.forall_mem_append] at shown
    exact (cond.resolve_ignores shown.1).bind fun cond => Rebasing.openScope_ignores.bind fun _ =>
      (Block.resolveInside_ignores yes shown.2.1).bind fun yes =>
      Rebasing.closeScope_ignores.bind fun _ => Rebasing.openScope_ignores.bind fun _ =>
      (Block.resolveInside_ignores no shown.2.2).bind fun no =>
      Rebasing.closeScope_ignores.bind fun _ => .pure (Stmt.ifElse pos cond yes no)
  | loop pos cond body =>
    rw [Stmt.idents, List.forall_mem_append] at shown
    exact (cond.resolve_ignores shown.1).bind fun cond => Rebasing.openScope_ignores.bind fun _ =>
      (Block.resolveInside_ignores body shown.2).bind fun body =>
      Rebasing.closeScope_ignores.bind fun _ => .pure (Stmt.loop pos cond body)
  | call pos c => exact (c.resolve_ignores shown).bind fun c => .pure (Stmt.call pos c)
  | ret pos value =>
    cases value with
    | none => exact .pure (Stmt.ret pos none)
    | some e => exact (e.resolve_ignores shown).bind fun e => .pure (Stmt.ret pos (some e))

theorem Block.resolveInside_ignores {depth : Nat} (b : Block)
    (shown : ∀ name ∈ b.idents, r.Shown name.name) :
    r.Ignores (depth + 1) (depth + 1) b.resolveInside := by
  obtain ⟨declsPos, decls, stmtsPos, stmts⟩ := b
  rw [Block.idents, List.forall_mem_append] at shown
  exact (Decl.resolveAll_ignores decls shown.1).bind fun decls =>
    (Stmt.resolveAll_ignores stmts shown.2).bind fun stmts =>
    .pure (Block.mk declsPos decls stmtsPos stmts)

/-- **Declarations.** In both states the same is done for declarations whose names are shown. -/
theorem Decl.resolveAll_ignores {depth : Nat} (ds : List Decl)
    (shown : ∀ name ∈ Decl.identsAll ds, r.Shown name.name) :
    r.Ignores depth depth (Decl.resolveAll ds) := by
  cases ds with
  | nil => exact .pure ([] : List Decl)
  | cons d ds =>
    rw [Decl.identsAll, List.forall_mem_append] at shown
    exact (Decl.resolve_ignores d shown.1).bind fun d =>
      (Decl.resolveAll_ignores ds shown.2).bind fun ds => .pure (d :: ds)

theorem Stmt.resolveAll_ignores {depth : Nat} (ss : List Stmt)
    (shown : ∀ name ∈ Stmt.identsAll ss, r.Shown name.name) :
    r.Ignores (depth + 1) (depth + 1) (Stmt.resolveAll ss) := by
  cases ss with
  | nil => exact .pure ([] : List Stmt)
  | cons st ss =>
    rw [Stmt.identsAll, List.forall_mem_append] at shown
    exact (Stmt.resolve_ignores st shown.1).bind fun st =>
      (Stmt.resolveAll_ignores ss shown.2).bind fun ss => .pure (st :: ss)

end

end Minim
