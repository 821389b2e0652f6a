import Minim.Proofs.Scoping.Expression

/-!
# The analysis of declarations and statements

Each part of a program that is analysed in a state that agrees with the source leads to a state that
agrees with the source after it, and settles the uses in it.
-/

namespace Minim

open Resolution

variable {made : List Declared} {scopes : List (List Declared)} {s s' s'' : State}

/-! ## Walks -/

/-- On the way from one state to another the uses in a part of a tree are settled. -/
def Walks (made : List Declared) (names : List Ident) (sites : List Site) (afters : List Ident)
    (s s' : State) : Prop :=
  ∃ found, s'.log.entries = s.log.entries ++ found ∧ Outcome made names sites afters found

namespace Walks

variable {names names' : List Ident} {sites sites' : List Site} {afters afters' : List Ident}

theorem mono (h : Walks made names sites afters s s') (more : List Declared) :
    Walks (made ++ more) names sites afters s s' := by
  obtain ⟨found, log, outcome⟩ := h
  exact ⟨found, log, outcome.mono more⟩

theorem append (h : Walks made names sites afters s s')
    (h' : Walks made names' sites' afters' s' s'') :
    Walks made (names ++ names') (sites ++ sites') (afters ++ afters') s s'' := by
  obtain ⟨found, log, outcome⟩ := h
  obtain ⟨found', log', outcome'⟩ := h'
  refine ⟨found ++ found', ?_, outcome.append outcome'⟩
  rw [log', log, List.append_assoc]

/-- Two parts of a tree, one behind the other. -/
theorem join {left right : List Site} (h : Walks made names sites (left.map Site.use) s s')
    (h' : Walks made names' sites' (right.map Site.use) s' s'') :
    Walks made (names ++ names') (sites ++ sites') ((left ++ right).map Site.use) s s'' := by
  rw [List.map_append]
  exact h.append h'

/-- Nothing is done with some identifiers. -/
theorem silent (names : List Ident) (same : s'.log = s.log) : Walks made names [] [] s s' :=
  ⟨[], by rw [same, List.append_nil], .silent (List.forall_mem_nil _)⟩

/-- Only the logs at the ends of a walk matter. -/
theorem of_log (h : Walks made names sites afters s s') {t t' : State} (start : t.log = s.log)
    (stop : t'.log = s'.log) : Walks made names sites afters t t' := by
  obtain ⟨found, log, outcome⟩ := h
  exact ⟨found, by rw [start, stop, log], outcome⟩

end Walks

/-- On the way from one state to another faults are found at one identifier only. -/
def FaultsAt (name : Ident) (s s' : State) : Prop :=
  ∃ found, s'.log.entries = s.log.entries ++ found ∧ ∀ fault ∈ found, fault.pos = name.pos

theorem FaultsAt.of_logged {name : Ident} {found : List Diagnostic}
    (places : ∀ fault ∈ found, fault.pos = name.pos) : FaultsAt name s (s.logged found) :=
  ⟨found, rfl, places⟩

theorem FaultsAt.trans {name : Ident} (h : FaultsAt name s s') (h' : FaultsAt name s' s'') :
    FaultsAt name s s'' := by
  obtain ⟨found, log, places⟩ := h
  obtain ⟨found', log', places'⟩ := h'
  refine ⟨found ++ found', ?_, List.forall_mem_append.mpr ⟨places, places'⟩⟩
  rw [log', log, List.append_assoc]

theorem FaultsAt.walks {name : Ident} (h : FaultsAt name s s') :
    Walks made [name] [] [] s s' := by
  obtain ⟨found, log, places⟩ := h
  exact ⟨found, log, .silent fun fault mem => ⟨name, List.mem_singleton_self _, places fault mem⟩⟩

/-! ## Declared names -/

namespace Resolution.State

variable {target : Target} {ds : List Declared} {d : Declared}

theorem AgreesAt.logged (h : AgreesAt target made ds scopes s) (found : List Diagnostic) :
    AgreesAt target made ds scopes (s.logged found) := by
  cases target with
  | scope => exact Agrees.logged h found
  | fields struct => exact ⟨h.1.logged found, h.2⟩

/-- A declaration is new and makes a symbol, or it is reported. -/
theorem AgreesAt.declare (h : AgreesAt target made ds scopes s) {meaning : Meaning}
    (means : d.meaning = some meaning) (plain : meaning.outline = meaning) :
    AgreesAt target (made ++ d.made ds) (ds ++ [d]) scopes
        (Resolution.declare target d.name meaning s).2 ∧
      FaultsAt d.name s (Resolution.declare target d.name meaning s).2 := by
  obtain ⟨_, agrees⟩ := h.agrees
  rw [Resolution.declare, unlessFailed_of_running agrees.stores.running, Declared.made]
  by_cases isNew : d.IsNew ds
  · obtain ⟨s', run, after, log, -⟩ := h.declare_new isNew means plain
    rw [run, if_pos isNew]
    exact ⟨after, [], by rw [log, List.append_nil], List.forall_mem_nil _⟩
  · rw [h.declare_old isNew means, if_neg isNew, List.append_nil]
    exact ⟨(h.skip isNew).logged [Log.entry d.name.pos .duplicateName],
      .of_logged (List.forall_mem_singleton.mpr rfl)⟩

/-- A variable is declared, or a formal parameter or a field. -/
theorem AgreesAt.declareVariable (h : AgreesAt target made ds scopes s) (type : TypeExpr)
    (name : Ident) :
    AgreesAt target (made ++ Declared.made ds ⟨name, type.meaning?⟩)
        (ds ++ [⟨name, type.meaning?⟩]) scopes (type.declare target name s).2 ∧
      FaultsAt name s (type.declare target name s).2 := by
  obtain ⟨_, agrees⟩ := h.agrees
  cases type with
  | void pos =>
    -- Nothing of type void is new, not even under a name that is free.
    have old : ¬ Declared.IsNew ds ⟨name, none⟩ := fun isNew => absurd isNew.1 (by simp)
    have run : ((TypeExpr.void pos).declare target name s).2 =
        s.logged [Log.entry name.pos .voidVariable] := by
      rw [TypeExpr.declare, bind_run, Resolution.report,
        unlessFailed_of_running agrees.stores.running]
      rfl
    rw [run, TypeExpr.meaning?, Declared.made, if_neg old, List.append_nil]
    exact ⟨(h.skip old).logged _, .of_logged (List.forall_mem_singleton.mpr rfl)⟩
  | int pos => exact h.declare rfl rfl
  | bool pos => exact h.declare rfl rfl
  | struct pos structName =>
    obtain ⟨structName', found, run, same, places⟩ := agrees.useStructName structName name
    have run' : ((TypeExpr.struct pos structName).declare target name s).2 =
        (Resolution.declare target name (.structVar structName'.name) (s.logged found)).2 := by
      rw [TypeExpr.declare, bind_run, run]
      rfl
    rw [run', TypeExpr.meaning?, ← same]
    obtain ⟨after, faults⟩ :=
      (h.logged found).declare (d := ⟨name, some (.structVar structName'.name)⟩) rfl rfl
    exact ⟨after, (FaultsAt.of_logged places).trans faults⟩

/-! ## Lists of variables -/

theorem AgreesAt.declareFormals (fs : List Formal) (h : AgreesAt .scope made ds scopes s) :
    AgreesAt .scope (made ++ Declared.madeAll ds (fs.map Formal.declared))
        (ds ++ fs.map Formal.declared) scopes (Formal.resolveAll fs s).2 ∧
      Walks (made ++ Declared.madeAll ds (fs.map Formal.declared))
        (fs.flatMap Formal.idents) [] [] s (Formal.resolveAll fs s).2 := by
  induction fs generalizing made ds s with
  | nil =>
    rw [List.map_nil, Declared.madeAll, List.append_nil, List.append_nil]
    exact ⟨h, .silent [] rfl⟩
  | cons f fs ih =>
    obtain ⟨after, faults⟩ := h.declareVariable f.type f.name
    obtain ⟨after', walks⟩ := ih after
    have first : Walks (made ++ f.declared.made ds) f.idents [] [] s (f.resolve s).2 :=
      (Walks.silent f.type.idents rfl).append faults.walks
    rw [List.map_cons, List.append_cons ds, Declared.madeAll, ← List.append_assoc made]
    exact ⟨after', (first.mono _).append walks⟩

theorem AgreesAt.declareFields (structName : String) {struct : SymbolId} (fields : List Decl)
    (shaped : ∀ d ∈ fields, d.kind = .varDecl) (h : AgreesAt (.fields struct) made ds scopes s) :
    AgreesAt (.fields struct) (made ++ Declared.madeAll ds (fields.map Decl.declared))
        (ds ++ fields.map Decl.declared) scopes (Decl.resolveFields structName struct fields s).2 ∧
      Walks (made ++ Declared.madeAll ds (fields.map Decl.declared)) (Decl.identsAll fields) [] []
        s (Decl.resolveFields structName struct fields s).2 := by
  induction fields generalizing made ds s with
  | nil =>
    rw [List.map_nil, Declared.madeAll, List.append_nil, List.append_nil]
    exact ⟨h, .silent [] rfl⟩
  | cons d fields ih =>
    obtain ⟨isVariable, others⟩ := List.forall_mem_cons.mp shaped
    cases d with
    | var pos type name =>
      obtain ⟨after, faults⟩ := h.declareVariable type name
      obtain ⟨after', walks⟩ := ih others after
      have first : Walks (made ++ (Decl.var pos type name).declared.made ds)
          (Decl.var pos type name).idents [] [] s (type.declare (.fields struct) name s).2 :=
        (Walks.silent type.idents rfl).append faults.walks
      rw [List.map_cons, List.append_cons ds, Declared.madeAll, ← List.append_assoc made]
      exact ⟨after', (first.mono _).append walks⟩
    | func => cases isVariable
    | struct => cases isVariable

/-! ## Scopes of their own -/

theorem Agrees.withTable (h : Agrees made scopes s) {table : Table}
    {scopes' : List (List Declared)} (binds : List.Forall₂ (Scope.Binds made) table.scopes scopes')
    (opened : scopes' ≠ []) : Agrees made scopes' (s.withTable table) :=
  ⟨⟨h.stores.running, h.stores.arena, h.stores.count, h.stores.symbols⟩, binds, opened⟩

/-- A scope that was opened holds nothing. -/
theorem Agrees.openScope (h : Agrees made scopes s) :
    ∃ s', Resolution.openScope s = ((), s') ∧ Agrees made ([] :: scopes) s' ∧ s'.log = s.log := by
  rw [Resolution.openScope, unlessFailed_of_running h.stores.running]
  exact ⟨_, rfl, h.withTable (.cons (.nil made) h.binds) (List.cons_ne_nil _ _), rfl⟩

/-- A scope that is closed leaves those around it. -/
theorem Agrees.closeScope {ds : List Declared} (h : Agrees made (ds :: scopes) s)
    (opened : scopes ≠ []) :
    ∃ s', Resolution.closeScope s = ((), s') ∧ Agrees made scopes s' ∧ s'.log = s.log := by
  obtain ⟨scope, outer, -, others, split⟩ := List.forall₂_cons_right_iff.mp h.binds
  rw [Resolution.closeScope, unlessFailed_of_running h.stores.running, ScopeStack.pop, split]
  exact ⟨_, rfl, h.withTable others opened, rfl⟩

end Resolution.State

/-- Take a part of an analysis in a scope of its own. -/
def Resolution.inNewScope {α : Type} (part : Resolve α) : Resolve α := do
  openScope
  let answer ← part
  closeScope
  return answer

/-- What a part of an analysis leaves in a scope of its own is gone afterwards. -/
theorem Resolution.State.Agrees.inNewScope {α : Type} (h : s.Agrees made scopes)
    (part : Resolve α) (afters : α → List Ident) {made' ds : List Declared} {names : List Ident}
    {sites : List Site}
    (inside : ∀ t : State, t.Agrees made ([] :: scopes) →
      (part t).2.Agrees made' (ds :: scopes) ∧
        Walks made' names sites (afters (part t).1) t (part t).2) :
    (Resolution.inNewScope part s).2.Agrees made' scopes ∧
      Walks made' names sites (afters (Resolution.inNewScope part s).1) s
        (Resolution.inNewScope part s).2 := by
  obtain ⟨t, opens, agrees, log⟩ := h.openScope
  obtain ⟨agrees', walks⟩ := inside t agrees
  obtain ⟨s', closes, agrees'', log'⟩ := agrees'.closeScope h.opened
  have run : Resolution.inNewScope part s = ((part t).1, s') := by
    rw [Resolution.inNewScope, bind_run, opens, bind_run, bind_run, closes]
    rfl
  rw [run]
  exact ⟨agrees'', walks.of_log log.symm log'⟩

end Minim
