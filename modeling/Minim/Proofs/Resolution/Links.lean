import Minim.Proofs.Resolution.Consistency
import Minim.Proofs.Syntax.Namings

/-!
# Annotations that lead to their symbols

An annotated identifier is linked if it has the place of a symbol in the arena that is called what
the identifier is called, and that is what the identifier is there for: a struct definition where
the struct of a type is named, a variable of a struct at the base of a dot access. An analysis of
any tree that starts from a consistent state with linked identifiers ends in a consistent state with
linked identifiers, also if it fails on the way.
-/

namespace Minim

/-- What a symbol has to be for an identifier. -/
def NameRole.Fits : NameRole → Meaning → Prop
  | .structName, meaning => ∃ fields, meaning = .structDef fields
  | .base, meaning => ∃ structName, meaning = .structVar structName
  | .other, _ => True

theorem NameRole.Fits.of_outline {role : NameRole} {meaning meaning' : Meaning}
    (h : role.Fits meaning) (same : meaning'.outline = meaning.outline) : role.Fits meaning' := by
  cases role with
  | structName =>
    obtain ⟨fields, rfl⟩ := h
    cases meaning' with
    | structDef fields' => exact ⟨fields', rfl⟩
    | _ => cases same
  | base =>
    obtain ⟨structName, rfl⟩ := h
    cases meaning' with
    | structVar structName' => exact ⟨structName', rfl⟩
    | _ => cases same
  | other => trivial

namespace Resolution

namespace State

/-- An identifier is not annotated, or with the place of a symbol that has its name and fits. -/
def Links (s : State) (n : Naming) : Prop :=
  ∀ place, n.name.symbol = some place → ∃ (i : Nat) (id : SymbolId) (symbol : Symbol),
    place = i ∧ s.arena.ids[i]? = some id ∧ s.store.get? id = some symbol ∧
      symbol.name = n.name.name ∧ n.role.Fits symbol.meaning

variable {s s' s'' : State} {names names' names₁ names₁' : List Naming} {role : NameRole}
  {name : Ident} {id : SymbolId}

theorem links_of_unannotated {n : Naming} (unannotated : n.name.symbol = none) : s.Links n := by
  intro place annotated
  rw [unannotated] at annotated
  cases annotated

theorem Extends.links (h : s.Extends s') {n : Naming} (links : s.Links n) : s'.Links n := by
  intro place annotated
  obtain ⟨i, id, symbol, same, stands, known, sameName, fits⟩ := links place annotated
  obtain ⟨symbol', known', name', -, meaning'⟩ := h.symbols id symbol known
  exact ⟨i, id, symbol', same, h.ids stands, known', name'.trans sameName, fits.of_outline meaning'⟩

/-- An identifier that gets the place of an entry with its name is linked. -/
theorem Entry.links_attach (h : s.Entry name.name id)
    (fits : ∀ symbol, s.store.get? id = some symbol → role.Fits symbol.meaning) :
    s.Links ⟨role, name.attach (s.store.index? id)⟩ := by
  obtain ⟨i, symbol, stands, known, sameName, index⟩ := h
  intro place annotated
  rw [Store.index?, known, Option.bind_some, index] at annotated
  exact ⟨i, id, symbol, (Option.some.inj annotated).symm, stands, known, sameName,
    fits symbol known⟩

/-! ## Looking names up -/

theorem Backs.find? {table : Table} {scope : Scope SymbolId} {key : String} (h : s.Backs table)
    (mem : scope ∈ table.scopes) (found : scope.find? key = some id) : s.Entry key id := by
  obtain ⟨before, after, split, -⟩ := List.lookup_eq_some_iff.mp found
  refine h scope mem (key, id) ?_
  rw [split]
  exact List.mem_append_right _ (List.mem_cons_self ..)

theorem Backs.lookup {table : Table} {key : String} (h : s.Backs table)
    (found : table.lookup key = .ok (some id)) : s.Entry key id := by
  rw [ScopeStack.lookup] at found
  split at found
  · cases found
  · obtain ⟨scope, mem, bound⟩ := List.exists_of_findSome?_eq_some (Except.ok.inj found)
    exact h.find? mem bound

theorem Backs.lookupLocal {table : Table} {key : String} (h : s.Backs table)
    (found : table.lookupLocal key = .ok (some id)) : s.Entry key id := by
  rw [ScopeStack.lookupLocal] at found
  split at found
  · cases found
  · rename_i scope outer scopes
    exact h.find? (scopes ▸ List.mem_cons_self ..) (Except.ok.inj found)

/-- The fields of a struct that is bound in the open scopes lead to entries. -/
theorem Consistent.fields_of_lookup (h : s.Consistent) {key : String} {found : Option SymbolId}
    {fields : Table} (looked : s.table.lookup key = .ok found)
    (isStruct : found.bind s.store.fields? = some fields) : s.Backs fields := by
  obtain ⟨struct, rfl, isStruct⟩ := Option.bind_eq_some_iff.mp isStruct
  obtain ⟨i, symbol, stands, -⟩ := h.scopes.lookup looked
  exact h.fields struct (List.mem_of_getElem? stands) fields isStruct

/-! ## Scopes -/

theorem openScope_backs (s : State) (h : s.Backs s.table) : s.Backs (openScope s).2.table :=
  unlessFailed_cases (motive := fun after => s.Backs after.2.table) h
    fun _ => List.forall_mem_cons.mpr ⟨List.forall_mem_nil _, h⟩

theorem closeScope_backs (s : State) (h : s.Backs s.table) : s.Backs (closeScope s).2.table := by
  refine unlessFailed_cases (motive := fun after => s.Backs after.2.table) h fun _ => ?_
  rw [ScopeStack.pop]
  cases scopes : s.table.scopes with
  | nil => exact h
  | cons scope outer =>
    exact fun other mem => h other (scopes ▸ List.mem_cons_of_mem scope mem)

/-! ## Analyses -/

/-- From one state to another the identifiers of a part of a tree are analysed: the arena grows, and
a consistent state with linked identifiers leads to a consistent state with linked identifiers. -/
structure Leads (s : State) (names : List Naming) (s' : State) (names' : List Naming) : Prop where
  grows : s.Extends s'
  consistent : s.Consistent → s'.Consistent
  links : s.Consistent → (∀ n ∈ names, s.Links n) → ∀ n ∈ names', s'.Links n

namespace Leads

/-- Nothing is done. -/
theorem refl (s : State) (names : List Naming) : Leads s names s names :=
  ⟨.refl s, id, fun _ links => links⟩

/-- One part after the other. -/
theorem append (h : Leads s names s' names') (h' : Leads s' names₁ s'' names₁') :
    Leads s (names ++ names₁) s'' (names' ++ names₁') where
  grows := h.grows.trans h'.grows
  consistent start := h'.consistent (h.consistent start)
  links start links := by
    obtain ⟨first, second⟩ := List.forall_mem_append.mp links
    refine List.forall_mem_append.mpr ⟨fun n mem => ?_, ?_⟩
    · exact h'.grows.links (h.links start first n mem)
    · exact h'.links (h.consistent start) fun n mem => h.grows.links (second n mem)

/-- The symbols, the scopes and the arena stay what they are. -/
theorem of_alike (alike : s.Alike s')
    (links : s.Consistent → (∀ n ∈ names, s.Links n) → ∀ n ∈ names', s.Links n) :
    Leads s names s' names' where
  grows := .of_store alike.store alike.arena
  consistent start := start.of_alike alike
  links start linked n mem :=
    (Extends.of_store alike.store alike.arena).links (links start linked n mem)

/-- Nothing is done with the identifiers. -/
theorem unchanged (alike : s.Alike s') (names : List Naming) : Leads s names s' names :=
  of_alike alike fun _ links => links

theorem fail (s : State) (failure : Failure) (names : List Naming) :
    Leads s names (s.fail failure) names :=
  unchanged (Reads.fail s failure).toAlike names

theorem report (s : State) (name : Ident) (kind : DiagnosticKind) (names : List Naming) :
    Leads s names (s.report name kind) names :=
  unchanged (show s.Alike (s.report name kind) from ⟨rfl, rfl, rfl⟩) names

/-- Scopes are opened and closed, and those that are open bind names to entries. -/
theorem of_keeps (keeps : s.Keeps s') (scopes : s.Backs s.table → s.Backs s'.table) :
    Leads s [] s' [] where
  grows := .of_store keeps.store keeps.arena
  consistent start := start.of_store keeps.store keeps.arena
    ((Extends.of_store keeps.store keeps.arena).backs (scopes start.scopes))
  links _ _ := List.forall_mem_nil _

/-- A part in a scope of its own. -/
theorem inScope (h : Leads (openScope s).2 names s' names') :
    Leads s names (closeScope s').2 names' := by
  have opened : Leads s [] (openScope s).2 [] :=
    of_keeps (openScope_keeps s) (openScope_backs s)
  have closed : Leads s' [] (closeScope s').2 [] :=
    of_keeps (closeScope_keeps s') (closeScope_backs s')
  have around := (opened.append h).append closed
  rwa [List.nil_append, List.nil_append, List.append_nil, List.append_nil] at around

end Leads

end State

/-! ## Steps -/

variable {s : State}

theorem useName_leads (name : Ident) (s : State) :
    s.Leads [⟨.other, name⟩] (useName name s).2 [⟨.other, (useName name s).1⟩] := by
  refine unlessFailed_cases
    (motive := fun after => s.Leads [⟨.other, name⟩] after.2 [⟨.other, after.1⟩]) (.refl ..)
    fun _ => ?_
  split
  · exact .fail ..
  · exact .report ..
  · rename_i id found
    refine .of_alike ⟨rfl, rfl, rfl⟩ fun start _ => List.forall_mem_singleton.mpr ?_
    exact (start.scopes.lookup found).links_attach fun _ _ => trivial

theorem useStructName_leads (structName declared : Ident) (s : State) :
    s.Leads [⟨.structName, structName⟩] (useStructName structName declared s).2
      [⟨.structName, (useStructName structName declared s).1⟩] := by
  refine unlessFailed_cases (motive := fun after =>
    s.Leads [⟨.structName, structName⟩] after.2 [⟨.structName, after.1⟩]) (.refl ..) fun _ => ?_
  split
  · exact .fail ..
  · exact .report ..
  · rename_i id found
    split
    · rename_i isStruct
      refine .of_alike ⟨rfl, rfl, rfl⟩ fun start _ => List.forall_mem_singleton.mpr ?_
      refine (start.scopes.lookup found).links_attach fun symbol known => ?_
      obtain ⟨fields, isStruct⟩ := Option.isSome_iff_exists.mp isStruct
      obtain ⟨symbol', known', isStruct⟩ := Store.fields?_eq_some.mp isStruct
      cases known.symm.trans known'
      exact ⟨fields, isStruct⟩
    · exact .refl ..

theorem useField_leads (structName : String) (field : Ident) (s : State) :
    s.Leads [⟨.other, field⟩] (useField structName field s).2
      [⟨.other, (useField structName field s).1⟩] := by
  refine unlessFailed_cases
    (motive := fun after => s.Leads [⟨.other, field⟩] after.2 [⟨.other, after.1⟩]) (.refl ..)
    fun _ => ?_
  split
  · exact .fail ..
  · rename_i found looked
    split
    · exact .refl ..
    · rename_i fields isStruct
      split
      · exact .fail ..
      · exact .report ..
      · rename_i id bound
        refine .of_alike ⟨rfl, rfl, rfl⟩ fun start _ => List.forall_mem_singleton.mpr ?_
        exact ((start.fields_of_lookup looked isStruct).lookupLocal bound).links_attach
          fun _ _ => trivial

theorem useBase_leads (base : Ident) (s : State) :
    s.Leads [⟨.base, base⟩] (useBase base s).2 [⟨.base, (useBase base s).1.1⟩] := by
  refine unlessFailed_cases
    (motive := fun after : (Ident × Option String) × State =>
      s.Leads [⟨.base, base⟩] after.2 [⟨.base, after.1.1⟩]) (.refl ..) fun _ => ?_
  split
  · exact .fail ..
  · rename_i found looked
    split
    · exact .report ..
    · rename_i id structName isStruct
      obtain ⟨id', rfl, ofStruct⟩ := Option.bind_eq_some_iff.mp isStruct
      obtain ⟨structName', ofStruct, same⟩ := Option.map_eq_some_iff.mp ofStruct
      obtain ⟨rfl, rfl⟩ := Prod.mk.inj same
      refine .of_alike ⟨rfl, rfl, rfl⟩ fun start _ => List.forall_mem_singleton.mpr ?_
      refine (start.scopes.lookupLocal looked).links_attach fun symbol known => ?_
      rw [State.structOf?, known, Option.map_some] at ofStruct
      split at ofStruct
      · exact ⟨_, Option.some.inj ‹_›⟩
      · cases ofStruct

theorem report_leads (name : Ident) (kind : DiagnosticKind) (s : State) (names : List Naming) :
    s.Leads names (report name kind s).2 names :=
  unlessFailed_cases (motive := fun after : Unit × State => s.Leads names after.2 names) (.refl ..)
    fun _ => .report ..

/-- The answer to a declaration is a symbol in the arena. -/
theorem mem_arena_of_declare (target : Target) (name : Ident) (meaning : Meaning) (s : State) :
    ∀ id, (declare target name meaning s).1 = some id →
      id ∈ (declare target name meaning s).2.arena.ids := by
  refine unlessFailed_cases (motive := fun after : Option SymbolId × State =>
    ∀ id, after.1 = some id → id ∈ after.2.arena.ids) (by rintro _ ⟨⟩) fun _ => ?_
  rw [State.declare]
  split
  · rintro _ ⟨⟩
  · rintro _ ⟨⟩
  · rintro _ ⟨⟩
    exact State.ids_withNew _ _ _ ▸ List.mem_append_right _ (List.mem_singleton_self _)

theorem declare_leads {target : Target} (name : Ident) {meaning : Meaning}
    (inArena : ∀ struct, target = .fields struct → struct ∈ s.arena.ids)
    (plain : ∀ fields, meaning = .structDef fields → fields = .root) :
    s.Leads [] (declare target name meaning s).2 [] := by
  refine unlessFailed_cases
    (motive := fun after : Option SymbolId × State => s.Leads [] after.2 []) (.refl ..) fun _ => ?_
  cases table : s.tableOf target with | mk scopes
  cases scopes with
  | nil => rw [State.declare_of_unopened table]; exact .fail ..
  | cons scope outer =>
    cases bound : scope.find? name.name with
    | some id => rw [State.declare_of_bound table bound]; exact .report ..
    | none =>
      rw [State.declare_of_free table bound]
      exact ⟨State.extends_withNew _, fun start => start.withNew inArena table plain,
        fun _ _ => List.forall_mem_nil _⟩

end Resolution

open Resolution

/-! ## Expressions -/

theorem Ident.resolveMember_leads (base field : Ident) (s : State) :
    s.Leads [⟨.base, base⟩, ⟨.other, field⟩] (base.resolveMember field s).2
      [⟨.base, (base.resolveMember field s).1.1⟩, ⟨.other, (base.resolveMember field s).1.2⟩] := by
  have atBase := useBase_leads base s
  cases found : (useBase base s).1.2 with
  | none =>
    rw [resolveMember_of_none found]
    exact atBase.append (.refl _ [⟨.other, field⟩])
  | some structName =>
    rw [resolveMember_of_some found]
    exact atBase.append (useField_leads structName field _)

mutual

theorem Expr.resolve_leads (e : Expr) (s : State) :
    s.Leads (e.namings .other) (e.resolve s).2 ((e.resolve s).1.namings .other) := by
  cases e with
  | int | string | bool => exact .refl ..
  | ident name => exact useName_leads name s
  | dot pos base field =>
    cases base with
    | ident name => exact name.resolveMember_leads field s
    | dot pos' base' field' =>
      have atBase := Expr.resolve_leads (.dot pos' base' field') s
      -- An access at the base stays one, and the role that a base has is of no matter to it.
      obtain ⟨base₂, field₂, isDot⟩ := Expr.resolve_dot pos' base' field' s
      have same : ((Expr.dot pos' base' field').resolve s).1.namings .base =
          ((Expr.dot pos' base' field').resolve s).1.namings .other := by
        rw [isDot, Expr.namings, Expr.namings]
      have both := atBase.append (useName_leads field _)
      rw [← same] at both
      exact both
    | _ => exact .unchanged (fail_reads _ s).toAlike _
  | assign pos target value => exact (target.resolve_leads s).append (value.resolve_leads _)
  | call pos callee argsPos args =>
    exact (useName_leads callee s).append (Expr.resolveAll_leads args _)
  | unary pos op operand => exact operand.resolve_leads s
  | binary pos left op right => exact (left.resolve_leads s).append (right.resolve_leads _)

theorem Expr.resolveAll_leads (es : List Expr) (s : State) :
    s.Leads (Expr.namingsAll es) (Expr.resolveAll es s).2
      (Expr.namingsAll (Expr.resolveAll es s).1) := by
  cases es with
  | nil => exact .refl ..
  | cons e es => exact (e.resolve_leads s).append (Expr.resolveAll_leads es _)

end

/-! ## Variables -/

theorem TypeExpr.declare_leads {target : Target} {s : State} (name : Ident) (type : TypeExpr)
    (inArena : ∀ struct, target = .fields struct → struct ∈ s.arena.ids) :
    s.Leads type.namings (type.declare target name s).2
      (type.declare target name s).1.namings := by
  cases type with
  | int | bool => exact Resolution.declare_leads name inArena (fun _ => nofun)
  | void pos =>
    exact report_leads name .voidVariable s []
  | struct pos structName =>
    have first := useStructName_leads structName name s
    exact first.append (Resolution.declare_leads name
      (fun struct isField => first.grows.arena.subset (inArena struct isField)) fun _ => nofun)

theorem Formal.resolve_leads (f : Formal) (s : State) :
    s.Leads f.namings (f.resolve s).2 (f.resolve s).1.namings :=
  (f.type.declare_leads f.name (by nofun)).append (.refl _ [⟨.other, f.name⟩])

theorem Formal.resolveAll_leads (fs : List Formal) (s : State) :
    s.Leads (fs.flatMap Formal.namings) (Formal.resolveAll fs s).2
      ((Formal.resolveAll fs s).1.flatMap Formal.namings) := by
  induction fs generalizing s with
  | nil => exact .refl ..
  | cons f fs ih => exact (f.resolve_leads s).append (ih _)

theorem Decl.resolveField_leads (structName : String) {struct : SymbolId} {s : State}
    (inArena : struct ∈ s.arena.ids) (d : Decl) :
    s.Leads d.namings (d.resolveField structName struct s).2
      (d.resolveField structName struct s).1.namings := by
  cases d with
  | var pos type name =>
    exact (type.declare_leads name (by rintro _ ⟨⟩; exact inArena)).append
      (.refl _ [⟨.other, name⟩])
  | func | struct => exact .unchanged (fail_reads _ s).toAlike _

theorem Decl.resolveFields_leads (structName : String) {struct : SymbolId} (fields : List Decl)
    {s : State} (inArena : struct ∈ s.arena.ids) :
    s.Leads (Decl.namingsAll fields) (Decl.resolveFields structName struct fields s).2
      (Decl.namingsAll (Decl.resolveFields structName struct fields s).1) := by
  induction fields generalizing s with
  | nil => exact .refl ..
  | cons d fields ih =>
    have first := d.resolveField_leads structName inArena
    exact first.append (ih (first.grows.arena.subset inArena))

/-! ## Declarations, statements and blocks -/

theorem Decl.resolve_struct_leads (pos : Position) (name : Ident) (fieldsPos : Position)
    (fields : List Decl) (s : State) :
    let d := Decl.struct pos name fieldsPos fields
    s.Leads d.namings (d.resolve s).2 (d.resolve s).1.namings := by
  intro d
  have declared : s.Leads [] (Resolution.declare .scope name (.structDef .root) s).2 [] :=
    Resolution.declare_leads name (fun _ => nofun) (by rintro _ ⟨⟩; rfl)
  cases answer : (Resolution.declare .scope name (.structDef .root) s).1 with
  | none =>
    rw [resolve_struct_of_none answer]
    exact declared.append (.refl _ d.namings)
  | some struct =>
    rw [resolve_struct_of_some answer]
    exact declared.append ((State.Leads.refl _ [⟨.other, name⟩]).append
      (Decl.resolveFields_leads name.name fields
        (mem_arena_of_declare .scope name (.structDef .root) s struct answer)))

mutual

theorem Decl.resolve_leads (d : Decl) (s : State) :
    s.Leads d.namings (d.resolve s).2 (d.resolve s).1.namings := by
  cases d with
  | var pos type name =>
    exact (type.declare_leads name (by nofun)).append (.refl _ [⟨.other, name⟩])
  | struct pos name fieldsPos fields => exact Decl.resolve_struct_leads pos name fieldsPos fields s
  | func pos returnType name formals bodyPos body =>
    let s' := (Resolution.declare .scope name
      (.func returnType.dataType (formals.items.map (·.type.dataType))) s).2
    have declared : s.Leads [] s' [] :=
      Resolution.declare_leads name (fun _ => nofun) (fun _ => nofun)
    have inside := ((Formal.resolveAll_leads formals.items (openScope s').2).append
      (body.resolveInside_leads _)).inScope
    exact declared.append ((State.Leads.refl s' returnType.namings).append
      ((State.Leads.refl s' [⟨.other, name⟩]).append inside))

theorem Stmt.resolve_leads (st : Stmt) (s : State) :
    s.Leads st.namings (st.resolve s).2 (st.resolve s).1.namings := by
  cases st with
  | assign pos a => exact a.expr.resolve_leads s
  | call pos c => exact c.expr.resolve_leads s
  | increment pos e | decrement pos e | read pos e | write pos e => exact e.resolve_leads s
  | ret pos value =>
    cases value with
    | none => exact .refl ..
    | some e => exact e.resolve_leads s
  | ifThen pos cond body | loop pos cond body =>
    exact (cond.resolve_leads s).append (body.resolveInside_leads _).inScope
  | ifElse pos cond yes no =>
    exact (cond.resolve_leads s).append
      ((yes.resolveInside_leads _).inScope.append (no.resolveInside_leads _).inScope)

theorem Block.resolveInside_leads (b : Block) (s : State) :
    s.Leads b.namings (b.resolveInside s).2 (b.resolveInside s).1.namings := by
  cases b with
  | mk declsPos decls stmtsPos stmts =>
    exact (Decl.resolveAll_leads decls s).append (Stmt.resolveAll_leads stmts _)

theorem Decl.resolveAll_leads (ds : List Decl) (s : State) :
    s.Leads (Decl.namingsAll ds) (Decl.resolveAll ds s).2
      (Decl.namingsAll (Decl.resolveAll ds s).1) := by
  cases ds with
  | nil => exact .refl ..
  | cons d ds => exact (d.resolve_leads s).append (Decl.resolveAll_leads ds _)

theorem Stmt.resolveAll_leads (ss : List Stmt) (s : State) :
    s.Leads (Stmt.namingsAll ss) (Stmt.resolveAll ss s).2
      (Stmt.namingsAll (Stmt.resolveAll ss s).1) := by
  cases ss with
  | nil => exact .refl ..
  | cons st ss => exact (st.resolve_leads s).append (Stmt.resolveAll_leads ss _)

end

/-- **The analysis of a program** leads from a consistent state and linked identifiers to a
consistent state and linked identifiers. -/
theorem Program.resolve_leads (T : Program) (s : State) :
    s.Leads T.namings (T.resolve s).2 (T.resolve s).1.namings :=
  Decl.resolveAll_leads T.decls s

end Minim
