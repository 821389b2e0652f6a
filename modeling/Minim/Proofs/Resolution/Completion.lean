import Minim.Proofs.Resolution.Frames
import Minim.Proofs.Scoping.Visits
import Minim.Proofs.Syntax.Namings
import Minim.Proofs.Syntax.Shape

/-!
# Analyses that complete

An analysis can fail in three ways: at a member of a struct that is no variable, at a field of what
is no location, and where no scope is open. The shape of a tree that is read excludes the first two.
The third is excluded by the state: some scope is open at the outset, and what is closed was opened
before.
-/

namespace Minim

namespace ScopeStack

variable {α : Type} {stack : ScopeStack α}

theorem lookup_eq_ok (opened : stack.scopes ≠ []) (name : String) :
    ∃ found, stack.lookup name = .ok found := by
  obtain ⟨scopes⟩ := stack
  cases scopes with
  | nil => exact absurd rfl opened
  | cons scope outer => exact ⟨_, rfl⟩

theorem lookupLocal_eq_ok (opened : stack.scopes ≠ []) (name : String) :
    ∃ found, stack.lookupLocal name = .ok found := by
  obtain ⟨scopes⟩ := stack
  cases scopes with
  | nil => exact absurd rfl opened
  | cons scope outer => exact ⟨_, rfl⟩

end ScopeStack

namespace Resolution

/-! ## States in which an analysis goes on -/

namespace State

/-- The analysis has not failed, a scope is open, and so is one in each table of fields. -/
structure Ready (s : State) : Prop where
  running : s.failure = none
  opened : s.table.scopes ≠ []
  fields : ∀ id fields, s.store.fields? id = some fields → fields.scopes ≠ []

variable {s s' : State} {target : Target} {table : Table} {name : String} {meaning : Meaning}

theorem ready_fresh : ({} : State).Ready where
  running := rfl
  opened := nofun
  fields := nofun

theorem fields?_withNew {id : SymbolId} {fields : Table}
    (isStruct : (s.withNew target table name meaning).store.fields? id = some fields) :
    s.store.fields? id = some fields ∨ fields = table ∨ meaning = .structDef fields := by
  obtain ⟨symbol', known', isStruct⟩ := Store.fields?_eq_some.mp isStruct
  cases known : s.store.get? id with
  | some symbol =>
    obtain ⟨symbol'', known'', change⟩ := get?_withNew_old table name meaning target known
    cases known'.symm.trans known''
    rcases change with rfl | ⟨-, -, -, rfl⟩
    · exact .inl (Store.fields?_eq_some.mpr ⟨_, known, isStruct⟩)
    · exact .inr (.inl (Meaning.structDef.inj isStruct).symm)
  | none =>
    have large : s.store.symbols.length ≤ id.number := List.getElem?_eq_none_iff.mp known
    obtain ⟨small, -⟩ := List.getElem?_eq_some_iff.mp known'
    rw [length_withNew] at small
    obtain rfl : id = s.nextId := congrArg SymbolId.mk (by omega)
    cases (get?_withNew ..).symm.trans known'
    exact .inr (.inr isStruct)

namespace Ready

theorem of_alike (h : s.Ready) (alike : s.Alike s') (running : s'.failure = none) : s'.Ready where
  running := running
  opened := alike.table ▸ h.opened
  fields := alike.store ▸ h.fields

theorem report (h : s.Ready) (name : Ident) (kind : DiagnosticKind) : (s.report name kind).Ready :=
  h.of_alike (show s.Alike (s.report name kind) from ⟨rfl, rfl, rfl⟩) h.running

theorem tableOf (h : s.Ready) (target : Target) : (s.tableOf target).scopes ≠ [] := by
  cases target with
  | scope => exact h.opened
  | fields struct =>
    rw [State.tableOf]
    cases isStruct : s.store.fields? struct with
    | some fields => exact h.fields struct fields isStruct
    | none => exact List.cons_ne_nil _ _

theorem withNew (h : s.Ready) (opened : table.scopes ≠ [])
    (plain : ∀ fields, meaning = .structDef fields → fields = .root) :
    (s.withNew target table name meaning).Ready where
  running := by
    cases target <;> exact h.running
  opened := by
    rw [table_withNew]
    split
    · exact opened
    · exact h.opened
  fields id fields isStruct := by
    rcases fields?_withNew isStruct with old | rfl | new
    · exact h.fields id fields old
    · exact opened
    · rw [plain fields new]
      exact List.cons_ne_nil _ _

theorem openScope (h : s.Ready) : (openScope s).2.Ready := by
  rw [Resolution.openScope, unlessFailed_of_running h.running]
  exact ⟨h.running, List.cons_ne_nil _ _, h.fields⟩

/-- A scope that a part was given for itself can be closed after it. -/
theorem inScope (h : s.Ready) {names : List String}
    (binds : Binds .scope names (Resolution.openScope s).2 s')
    (part : (Resolution.openScope s).2.Ready → s'.Ready) :
    (Resolution.closeScope s').2.Ready := by
  have inside := part h.openScope
  have grows := binds.scopes inside.running
  rw [Resolution.openScope, unlessFailed_of_running h.running] at grows
  obtain ⟨more, scopes, -⟩ := grows
  have popped : s'.table.pop = .ok s.table := by rw [ScopeStack.pop, scopes]; rfl
  rw [Resolution.closeScope, unlessFailed_of_running inside.running, popped]
  exact ⟨inside.running, h.opened, inside.fields⟩

end Ready

end State

/-! ## Steps -/

variable {s : State}

theorem useName_ready (name : Ident) (h : s.Ready) : (useName name s).2.Ready := by
  obtain ⟨found, looked⟩ := ScopeStack.lookup_eq_ok h.opened name.name
  rw [useName, unlessFailed_of_running h.running]
  simp only [looked]
  cases found with
  | none => exact h.report name _
  | some id => exact h

theorem useStructName_ready (structName declared : Ident) (h : s.Ready) :
    (useStructName structName declared s).2.Ready := by
  obtain ⟨found, looked⟩ := ScopeStack.lookup_eq_ok h.opened structName.name
  rw [useStructName, unlessFailed_of_running h.running]
  simp only [looked]
  cases found with
  | none => exact h.report declared _
  | some id => dsimp only; split <;> exact h

theorem useBase_ready (base : Ident) (h : s.Ready) : (useBase base s).2.Ready := by
  obtain ⟨found, looked⟩ := ScopeStack.lookupLocal_eq_ok h.opened base.name
  rw [useBase, unlessFailed_of_running h.running]
  simp only [looked]
  split
  · exact h.report base _
  · exact h

theorem useField_ready (structName : String) (field : Ident) (h : s.Ready) :
    (useField structName field s).2.Ready := by
  obtain ⟨found, looked⟩ := ScopeStack.lookup_eq_ok h.opened structName
  rw [useField, unlessFailed_of_running h.running]
  simp only [looked]
  split
  · exact h
  · rename_i fields isStruct
    obtain ⟨struct, -, isStruct⟩ := Option.bind_eq_some_iff.mp isStruct
    obtain ⟨bound, looked⟩ :=
      ScopeStack.lookupLocal_eq_ok (h.fields struct fields isStruct) field.name
    simp only [looked]
    cases bound with
    | none => exact h.report field _
    | some id => exact h

theorem report_ready (name : Ident) (kind : DiagnosticKind) (h : s.Ready) :
    (report name kind s).2.Ready := by
  rw [report, unlessFailed_of_running h.running]
  exact h.report name kind

theorem declare_ready (target : Target) (name : Ident) (meaning : Meaning) (h : s.Ready)
    (plain : ∀ fields, meaning = .structDef fields → fields = .root) :
    (declare target name meaning s).2.Ready := by
  rw [declare, unlessFailed_of_running h.running]
  have opened := h.tableOf target
  cases table : s.tableOf target with | mk scopes
  cases scopes with
  | nil => exact absurd (congrArg ScopeStack.scopes table) opened
  | cons scope outer =>
    cases bound : scope.find? name.name with
    | some id => rw [State.declare_of_bound table bound]; exact h.report name _
    | none => rw [State.declare_of_free table bound]; exact h.withNew (List.cons_ne_nil _ _) plain

end Resolution

open Resolution

variable {s : State}

/-! ## Expressions -/

theorem Ident.resolveMember_ready (base field : Ident) (h : s.Ready) :
    (base.resolveMember field s).2.Ready := by
  have atBase := useBase_ready base h
  cases found : (useBase base s).1.2 with
  | none =>
    rw [resolveMember_of_none found]
    exact atBase
  | some structName =>
    rw [resolveMember_of_some found]
    exact useField_ready structName field atBase

mutual

theorem Expr.resolve_ready (e : Expr) (shaped : e.Shaped) {s : State} (h : s.Ready) :
    (e.resolve s).2.Ready := by
  cases e with
  | int | string | bool => exact h
  | ident name => exact useName_ready name h
  | dot pos base field =>
    obtain ⟨location, shaped⟩ := shaped
    cases base with
    | ident name => exact name.resolveMember_ready field h
    | dot pos' base' field' =>
      exact useName_ready field (Expr.resolve_ready (.dot pos' base' field') shaped h)
    | _ => cases location
  | assign pos target value =>
    obtain ⟨-, target', value'⟩ := shaped
    exact value.resolve_ready value' (target.resolve_ready target' h)
  | call pos callee argsPos args =>
    exact Expr.resolveAll_ready args shaped (useName_ready callee h)
  | unary pos op operand => exact operand.resolve_ready shaped h
  | binary pos left op right =>
    exact right.resolve_ready shaped.2 (left.resolve_ready shaped.1 h)

theorem Expr.resolveAll_ready (es : List Expr) (shaped : Expr.AllShaped es) {s : State}
    (h : s.Ready) : (Expr.resolveAll es s).2.Ready := by
  cases es with
  | nil => exact h
  | cons e es => exact Expr.resolveAll_ready es shaped.2 (e.resolve_ready shaped.1 h)

end

/-! ## Variables -/

theorem TypeExpr.declare_ready (target : Target) (name : Ident) (type : TypeExpr) (h : s.Ready) :
    (type.declare target name s).2.Ready := by
  cases type with
  | int | bool => exact Resolution.declare_ready target name _ h nofun
  | void pos => exact report_ready name .voidVariable h
  | struct pos structName =>
    exact Resolution.declare_ready target name _ (useStructName_ready structName name h) nofun

theorem Formal.resolveAll_ready (fs : List Formal) (h : s.Ready) :
    (Formal.resolveAll fs s).2.Ready := by
  induction fs generalizing s with
  | nil => exact h
  | cons f fs ih => exact ih (f.type.declare_ready .scope f.name h)

theorem Decl.resolveFields_ready (structName : String) (struct : SymbolId) (fields : List Decl)
    (shaped : ∀ d ∈ fields, d.kind = .varDecl) (h : s.Ready) :
    (Decl.resolveFields structName struct fields s).2.Ready := by
  induction fields generalizing s with
  | nil => exact h
  | cons d fields ih =>
    obtain ⟨isVar, others⟩ := List.forall_mem_cons.mp shaped
    cases d with
    | var pos type name => exact ih others (type.declare_ready (.fields struct) name h)
    | func => cases isVar
    | struct => cases isVar

/-! ## Declarations, statements and blocks -/

theorem Decl.resolve_ready_of_kind {d : Decl} (isVar : d.kind = .varDecl) (h : s.Ready) :
    (d.resolve s).2.Ready := by
  cases d with
  | var pos type name => exact type.declare_ready .scope name h
  | func => cases isVar
  | struct => cases isVar

theorem Decl.resolveAll_ready {ds : List Decl}
    (each : ∀ d ∈ ds, ∀ s : State, s.Ready → (d.resolve s).2.Ready) (h : s.Ready) :
    (Decl.resolveAll ds s).2.Ready := by
  induction ds generalizing s with
  | nil => exact h
  | cons d ds ih =>
    obtain ⟨first, others⟩ := List.forall_mem_cons.mp each
    exact ih others (first s h)

mutual

theorem Stmt.resolve_ready (st : Stmt) (shaped : st.Shaped) {s : State} (h : s.Ready) :
    (st.resolve s).2.Ready := by
  cases st with
  | assign pos a => exact a.expr.resolve_ready shaped h
  | call pos c => exact c.expr.resolve_ready shaped h
  | increment pos e | decrement pos e | read pos e => exact e.resolve_ready shaped.2 h
  | write pos e => exact e.resolve_ready shaped h
  | ret pos value =>
    cases value with
    | none => exact h
    | some e => exact e.resolve_ready (shaped e rfl) h
  | ifThen pos cond body | loop pos cond body =>
    exact (cond.resolve_ready shaped.1 h).inScope (body.resolveInside_binds _)
      (body.resolveInside_ready shaped.2)
  | ifElse pos cond yes no =>
    obtain ⟨cond', yes', no'⟩ := shaped
    have first := (cond.resolve_ready cond' h).inScope (yes.resolveInside_binds _)
      (yes.resolveInside_ready yes')
    exact first.inScope (no.resolveInside_binds _) (no.resolveInside_ready no')

theorem Block.resolveInside_ready (b : Block) (shaped : b.Shaped) {s : State} (h : s.Ready) :
    (b.resolveInside s).2.Ready := by
  cases b with
  | mk declsPos decls stmtsPos stmts =>
    obtain ⟨isVar, shaped⟩ := shaped
    exact Stmt.resolveAll_ready stmts shaped
      (Decl.resolveAll_ready (fun d mem _ => Decl.resolve_ready_of_kind (isVar d mem)) h)

theorem Stmt.resolveAll_ready (ss : List Stmt) (shaped : Stmt.AllShaped ss) {s : State}
    (h : s.Ready) : (Stmt.resolveAll ss s).2.Ready := by
  cases ss with
  | nil => exact h
  | cons st ss => exact Stmt.resolveAll_ready ss shaped.2 (st.resolve_ready shaped.1 h)

end

theorem Decl.resolve_ready {d : Decl} (shaped : d.Shaped) (h : s.Ready) :
    (d.resolve s).2.Ready := by
  cases d with
  | var => exact Decl.resolve_ready_of_kind rfl h
  | func pos returnType name formals bodyPos body =>
    have declared := Resolution.declare_ready .scope name
      (.func returnType.dataType (formals.items.map (·.type.dataType))) h nofun
    exact declared.inScope
      ((Formal.resolveAll_binds formals.items _).append (body.resolveInside_binds _))
      fun opened =>
        body.resolveInside_ready shaped (Formal.resolveAll_ready formals.items opened)
  | struct pos name fieldsPos fields =>
    have declared := Resolution.declare_ready .scope name (.structDef .root) h
      (by rintro _ ⟨⟩; rfl)
    cases answer : (Resolution.declare .scope name (.structDef .root) s).1 with
    | none =>
      rw [Decl.resolve_struct_of_none answer]
      exact declared
    | some struct =>
      rw [Decl.resolve_struct_of_some answer]
      exact Decl.resolveFields_ready name.name struct fields shaped declared

/-- **The analysis of a program of the grammar goes on to the end.** -/
theorem Program.resolve_ready {T : Program} (shaped : T.Shaped) (h : s.Ready) :
    (T.resolve s).2.Ready :=
  Decl.resolveAll_ready (fun d mem _ => Decl.resolve_ready (shaped d mem)) h

/-! ## Checks that always pass

Declaring makes a symbol and puts it into the arena without asking whether that can be done: whether
the symbol is no variable of type void, and is in no arena yet.
-/

namespace Store

/-- To change a symbol that was just made is to make it so. -/
theorem modify_make (store : Store) (symbol : Symbol) (change : Symbol → Symbol) :
    (store.make symbol).2.modify (store.make symbol).1 change = (store.make (change symbol)).2 := by
  simp [make, modify, List.modify_eq_take_cons_drop]

end Store

namespace Resolution.State

/-- Put a symbol at the end of the arena, with the check that this has. -/
def recordChecked (s : State) (symbol : Symbol) : Except SymbolError State := do
  let (id, store) := s.store.make symbol
  let (arena, store) ← s.arena.add store id
  return { s with store, arena }

/-- Declare a name, with the checks of making a symbol and of putting it into the arena. -/
def declareChecked (s : State) (target : Target) (name : Ident) (meaning : Meaning) :
    Except SymbolError (Option SymbolId × State) := do
  let symbol ← Symbol.ofMeaning? name.name meaning
  match (s.tableOf target).declare name.name s.nextId with
  | .error (.duplicate _) => return (none, s.report name .duplicateName)
  | .error error => return (none, s.fail (.scope error))
  | .ok table => return (some s.nextId, ← (s.withTableOf target table).recordChecked symbol)

theorem recordChecked_eq (s : State) (name : String) (meaning : Meaning) :
    s.recordChecked { name, meaning } = .ok (s.record name meaning) := by
  have unplaced : (s.store.make { name, meaning }).2.index? s.nextId = none :=
    congrArg (·.bind Symbol.index) (Store.get?_make_new s.store { name, meaning })
  have added : s.arena.add (s.store.make { name, meaning }).2 s.nextId =
      .ok (⟨s.arena.ids ++ [s.nextId]⟩,
        (s.store.make { name, meaning, index := some s.arena.size }).2) := by
    rw [Arena.add, unplaced]
    exact congrArg (fun store => Except.ok (_, store)) (Store.modify_make s.store _ _)
  show (s.arena.add (s.store.make { name, meaning }).2 s.nextId).bind _ = _
  rw [added]
  rfl

theorem declareChecked_eq (s : State) (target : Target) (name : Ident) {meaning : Meaning}
    (notVoid : meaning ≠ .var .void) :
    s.declareChecked target name meaning = .ok (s.declare target name meaning) := by
  have made : Symbol.ofMeaning? name.name meaning = .ok { name := name.name, meaning } := by
    unfold Symbol.ofMeaning?
    split
    · exact absurd rfl notVoid
    · rfl
  rw [declareChecked, State.declare, made]
  cases (s.tableOf target).declare name.name s.nextId with
  | error error => cases error <;> rfl
  | ok table =>
    show ((s.withTableOf target table).recordChecked { name := name.name, meaning }).bind _ = _
    rw [recordChecked_eq]
    rfl

end Resolution.State

theorem TypeExpr.meaning?_ne_void (type : TypeExpr) : type.meaning? ≠ some (.var .void) := by
  cases type <;> exact nofun

theorem Formal.visitsAll_ne_void (fs : List Formal) (s : State) :
    ∀ v ∈ Formal.visitsAll s fs, v.meaning? ≠ some (.var .void) := by
  induction fs generalizing s with
  | nil => exact List.forall_mem_nil _
  | cons f fs ih => exact List.forall_mem_cons.mpr ⟨f.type.meaning?_ne_void, ih _⟩

theorem Decl.fieldVisits_ne_void (structName : String) (struct : SymbolId) (fields : List Decl)
    (s : State) :
    ∀ v ∈ Decl.fieldVisits structName struct s fields, v.meaning? ≠ some (.var .void) := by
  induction fields generalizing s with
  | nil => exact List.forall_mem_nil _
  | cons d fields ih =>
    cases d with
    | var pos type name => exact List.forall_mem_cons.mpr ⟨type.meaning?_ne_void, ih _⟩
    | func | struct => exact List.forall_mem_nil _

mutual

theorem Decl.visits_ne_void (d : Decl) (s : State) :
    ∀ v ∈ d.visits s, v.meaning? ≠ some (.var .void) := by
  cases d with
  | var pos type name => exact List.forall_mem_singleton.mpr type.meaning?_ne_void
  | func pos returnType name formals bodyPos body =>
    refine List.forall_mem_cons.mpr ⟨nofun, List.forall_mem_append.mpr ⟨?_, ?_⟩⟩
    · exact Formal.visitsAll_ne_void formals.items _
    · exact body.visits_ne_void _
  | struct pos name fieldsPos fields =>
    refine List.forall_mem_cons.mpr ⟨nofun, ?_⟩
    generalize Visit.symbol? _ = answer
    cases answer with
    | none => exact List.forall_mem_nil _
    | some struct => exact Decl.fieldVisits_ne_void name.name struct fields _

theorem Stmt.visits_ne_void (st : Stmt) (s : State) :
    ∀ v ∈ st.visits s, v.meaning? ≠ some (.var .void) := by
  cases st with
  | assign | increment | decrement | read | write | call | ret => exact List.forall_mem_nil _
  | ifThen pos cond body | loop pos cond body => exact body.visits_ne_void _
  | ifElse pos cond yes no =>
    exact List.forall_mem_append.mpr ⟨yes.visits_ne_void _, no.visits_ne_void _⟩

theorem Block.visits_ne_void (b : Block) (s : State) :
    ∀ v ∈ b.visits s, v.meaning? ≠ some (.var .void) := by
  cases b with
  | mk declsPos decls stmtsPos stmts =>
    exact List.forall_mem_append.mpr
      ⟨Decl.visitsAll_ne_void decls s, Stmt.visitsAll_ne_void stmts _⟩

theorem Decl.visitsAll_ne_void (ds : List Decl) (s : State) :
    ∀ v ∈ Decl.visitsAll s ds, v.meaning? ≠ some (.var .void) := by
  cases ds with
  | nil => exact List.forall_mem_nil _
  | cons d ds =>
    exact List.forall_mem_append.mpr ⟨d.visits_ne_void s, Decl.visitsAll_ne_void ds _⟩

theorem Stmt.visitsAll_ne_void (ss : List Stmt) (s : State) :
    ∀ v ∈ Stmt.visitsAll s ss, v.meaning? ≠ some (.var .void) := by
  cases ss with
  | nil => exact List.forall_mem_nil _
  | cons st ss =>
    exact List.forall_mem_append.mpr ⟨st.visits_ne_void s, Stmt.visitsAll_ne_void ss _⟩

end

/-! ## Programs that are read -/

/-- The analysis of a program gets to the end, and whatever it declares it could declare with all
checks. -/
structure Program.Completes (T : Program) : Prop where
  running : T.analyze.state.failure = none
  checked : ∀ v ∈ T.visits, ∀ meaning, v.meaning? = some meaning →
    ∀ s : State, s.declareChecked v.target v.name meaning = .ok (s.declare v.target v.name meaning)

/-- **What is read can be analysed.** Whatever the tokens are from which a program is read, it has
the shape that the grammar gives, nothing is noted at its identifiers, and its analysis gets to the
end. -/
theorem parseTokens_completes {tokens : List Token} {T : Program}
    (read : parseTokens tokens = .ok T) :
    T.Shaped ∧ (∀ name ∈ (Node.program T).identifiers, name.symbol = none) ∧ T.Completes := by
  obtain ⟨derived⟩ := Parser.parseTokens_sound read
  refine ⟨derived.shaped, ?_, ?_, ?_⟩
  · rw [T.identifiers_eq]
    exact derived.unannotated
  · exact (Program.resolve_ready derived.shaped State.ready_fresh).running
  · intro v visited meaning written s
    refine s.declareChecked_eq v.target v.name ?_
    rintro rfl
    exact Decl.visitsAll_ne_void T.decls {} v visited written

/-- The tokens of a struct `S` with two fields `a`, one of them of type void, and of a function that
assigns to the field `a` of a `struct S s` and counts the field `b`. -/
def memberTokens : List Token :=
  let word (kind : TokenKind) (w : String) : Token := { kind, value := .text w, pos := {} }
  let mark (kind : TokenKind) : Token := word kind ""
  [mark .structWord, word .identifier "S", mark .lbrace,
    mark .intType, word .identifier "a", mark .semicolon,
    mark .voidType, word .identifier "a", mark .semicolon, mark .rbrace,
    mark .voidType, word .identifier "f", mark .lparen,
    mark .structWord, word .identifier "S", word .identifier "s", mark .rparen, mark .lbrace,
    word .identifier "s", mark .dot, word .identifier "a", mark .assign, word .identifier "s",
    mark .semicolon,
    word .identifier "s", mark .dot, word .identifier "b", mark .increment, mark .semicolon,
    mark .rbrace]

/-- The program in those tokens. -/
def memberProgram : Program :=
  let name (word : String) : Ident := { value := .text word }
  let field (word : String) : Expr := .dot {} (.ident (name "s")) (name word)
  { decls :=
      [.struct {} (name "S") {} [.var {} (.int {}) (name "a"), .var {} (.void {}) (name "a")],
        .func {} (.void {}) (name "f") { items := [⟨{}, .struct {} (name "S"), name "s"⟩] } {}
          (.mk {} [] {}
            [.assign {} { target := field "a", value := .ident (name "s") },
              .increment {} (field "b")])] }

theorem parseTokens_completes_of_memberTokens :
    parseTokens memberTokens = .ok memberProgram ∧ memberProgram.Shaped ∧
      memberProgram.analyze.state.log.entries.length = 2 ∧ memberProgram.Completes :=
  have read : parseTokens memberTokens = .ok memberProgram := rfl
  ⟨read, (parseTokens_completes read).1, by decide, (parseTokens_completes read).2.2⟩

end Minim
