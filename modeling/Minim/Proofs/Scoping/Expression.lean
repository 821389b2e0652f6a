import Minim.Proofs.Resolution.Steps
import Minim.Proofs.Scoping.Outcome

/-!
# The analysis of expressions

An expression that is analysed in a state that agrees with the source adds faults to the log and
changes nothing else.
-/

namespace Minim

namespace Resolution

namespace State

variable {made : List Declared} {scopes : List (List Declared)} {s : State}

/-- The state with more faults found. -/
def logged (s : State) (found : List Diagnostic) : State :=
  { s with log := ⟨s.log.entries ++ found⟩ }

@[simp] theorem logged_nil (s : State) : s.logged [] = s := by
  simp [logged]

@[simp] theorem logged_logged (s : State) (found found' : List Diagnostic) :
    (s.logged found).logged found' = s.logged (found ++ found') := by
  simp [logged]

theorem Agrees.logged (h : Agrees made scopes s) (found : List Diagnostic) :
    Agrees made scopes (s.logged found) :=
  ⟨⟨h.stores.running, h.stores.arena, h.stores.count, h.stores.symbols⟩, h.binds, h.opened⟩

/-! ## Steps -/

/-- An ordinary use is annotated or reported. -/
theorem Agrees.useName (h : Agrees made scopes s) (name : Ident) :
    ∃ after found, Resolution.useName name s = (after, s.logged found) ∧
      Outcome made [name] [⟨name, scopes⟩] [after] found := by
  obtain ⟨id, looked, stands⟩ := h.lookup name.name
  rw [Resolution.useName, unlessFailed_of_running h.stores.running]
  simp only [looked]
  generalize denoted : Declared.lookup scopes name.name = d at stands
  cases stands with
  | some stands =>
    have settled : Site.Settled made [] ⟨name, scopes⟩ (name.attach _) :=
      .declared denoted stands rfl
    simp only [h.stores.index? stands]
    exact ⟨_, [], by rw [logged_nil], .single settled (List.forall_mem_nil _)⟩
  | none =>
    have settled :
        Site.Settled made [Log.entry name.pos .undeclaredIdentifier] ⟨name, scopes⟩ name :=
      .undeclared denoted (by simp [Log.entry])
    exact ⟨_, _, rfl, .single settled (List.forall_mem_singleton.mpr rfl)⟩

/-- The name of a struct in the type of a declared name is annotated, or a fault is reported at the
declared name. -/
theorem Agrees.useStructName (h : Agrees made scopes s) (structName declared : Ident) :
    ∃ after found, Resolution.useStructName structName declared s = (after, s.logged found) ∧
      after.name = structName.name ∧ ∀ fault ∈ found, fault.pos = declared.pos := by
  obtain ⟨id, looked, -⟩ := h.lookup structName.name
  rw [Resolution.useStructName, unlessFailed_of_running h.stores.running]
  simp only [looked]
  cases id with
  | none =>
    exact ⟨_, [Log.entry declared.pos .invalidStructType], rfl, rfl,
      List.forall_mem_singleton.mpr rfl⟩
  | some id =>
    by_cases isStruct : (s.store.fields? id).isSome = true
    · refine ⟨structName.attach (s.store.index? id), [], ?_, rfl, List.forall_mem_nil _⟩
      simp only [if_pos isStruct, logged_nil]
    · refine ⟨structName, [], ?_, rfl, List.forall_mem_nil _⟩
      simp only [if_neg isStruct, logged_nil]

/-- The base of a dot access is annotated or reported. -/
theorem Agrees.useBase (h : Agrees made scopes s) (base : Ident) :
    ∃ answer found, Resolution.useBase base s = (answer, s.logged found) ∧
      ∀ fault ∈ found, fault.pos = base.pos := by
  rw [Resolution.useBase, unlessFailed_of_running h.stores.running]
  obtain ⟨scope, outer, split⟩ := h.exists_scope
  rw [ScopeStack.lookupLocal, split]
  simp only
  split
  · exact ⟨_, [Log.entry base.pos .dotAccessNonStruct], rfl, List.forall_mem_singleton.mpr rfl⟩
  · exact ⟨_, [], by rw [logged_nil], List.forall_mem_nil _⟩

/-- The field of a dot access is annotated or reported, or its base is no variable of a struct. -/
theorem Agrees.useField (h : Agrees made scopes s) (structName : String) (field : Ident) :
    ∃ after found, Resolution.useField structName field s = (after, s.logged found) ∧
      ∀ fault ∈ found, fault.pos = field.pos := by
  obtain ⟨id, looked, stands⟩ := h.lookup structName
  rw [Resolution.useField, unlessFailed_of_running h.stores.running]
  simp only [looked]
  generalize Declared.lookup scopes structName = d at stands
  cases stands with
  | none => exact ⟨_, [], by rw [logged_nil]; rfl, List.forall_mem_nil _⟩
  | some stands =>
    rw [Option.bind_some]
    cases fields : s.store.fields? _ with
    | none => exact ⟨_, [], by rw [logged_nil], List.forall_mem_nil _⟩
    | some table =>
      have opened := h.stores.fields_opened stands fields
      obtain ⟨scope, outer, split⟩ := List.exists_cons_of_ne_nil opened
      simp only [ScopeStack.lookupLocal, split]
      cases scope.find? field.name with
      | none =>
        exact ⟨_, [Log.entry field.pos .invalidFieldName], rfl, List.forall_mem_singleton.mpr rfl⟩
      | some id => exact ⟨_, [], by rw [logged_nil], List.forall_mem_nil _⟩

/-- Neither name of an innermost dot access is an ordinary use. -/
theorem Agrees.resolveMember (h : Agrees made scopes s) (base field : Ident) :
    ∃ base' field' found, base.resolveMember field s = ((base', field'), s.logged found) ∧
      ∀ fault ∈ found, fault.pos = base.pos ∨ fault.pos = field.pos := by
  obtain ⟨⟨base', structName⟩, found, run, atBase⟩ := h.useBase base
  rw [Ident.resolveMember, bind_run, run]
  cases structName with
  | none => exact ⟨_, _, found, rfl, fun fault mem => .inl (atBase fault mem)⟩
  | some structName =>
    obtain ⟨field', found', run', atField⟩ := (h.logged found).useField structName field
    refine ⟨base', field', found ++ found', ?_, ?_⟩
    · simp only [bind_run, run', pure_run, logged_logged]
    · intro fault mem
      rcases List.mem_append.mp mem with mem | mem
      · exact .inl (atBase fault mem)
      · exact .inr (atField fault mem)

end State

end Resolution

open Resolution

/-! ## Expressions -/

section

variable {made : List Declared} {scopes : List (List Declared)}

mutual

/-- **Expressions.** Every ordinary use in an expression is settled, and only the log changes. -/
theorem Expr.resolve_settles (e : Expr) {s : State} (shaped : e.Shaped)
    (h : s.Agrees made scopes) :
    ∃ after found, e.resolve s = (after, s.logged found) ∧
      Outcome made e.idents (e.sites scopes) after.ordinary found := by
  cases e with
  | int pos value | string pos value | bool pos value =>
    exact ⟨_, [], by rw [State.logged_nil]; rfl, .silent (List.forall_mem_nil _)⟩
  | ident name =>
    obtain ⟨name', found, run, outcome⟩ := h.useName name
    refine ⟨.ident name', found, ?_, outcome⟩
    rw [Expr.resolve, bind_run, run, pure_run]
  | dot pos base field =>
    cases base with
    | ident name =>
      obtain ⟨name', field', found, run, places⟩ := h.resolveMember name field
      refine ⟨.dot pos (.ident name') field', found, ?_, .silent ?_⟩
      · rw [Expr.resolve, bind_run, run]
        rfl
      · intro fault mem
        rcases places fault mem with place | place
        · exact ⟨name, List.mem_cons_self .., place⟩
        · exact ⟨field, List.mem_cons_of_mem _ (List.mem_cons_self ..), place⟩
    | dot pos' base' field' =>
      obtain ⟨after, found, run, outcome⟩ :=
        Expr.resolve_settles (.dot pos' base' field') shaped.2 h
      obtain ⟨field₁, found', run', outcome'⟩ := (h.logged found).useName field
      -- That the field is an ordinary use is told by the base, which has to be an access still.
      obtain ⟨base₂, field₂, isDot⟩ := Expr.resolve_dot pos' base' field' s
      rw [run] at isDot
      obtain rfl : after = .dot pos' base₂ field₂ := isDot
      refine ⟨.dot pos (.dot pos' base₂ field₂) field₁, found ++ found', ?_, ?_⟩
      · rw [Expr.resolve]
        simp only [bind_run, run, run', pure_run, State.logged_logged]
      · rw [Expr.sites, Expr.ordinary, List.map_append]
        exact outcome.append outcome'
    -- Other bases are no locations.
    | _ => cases shaped.1
  | assign pos target value =>
    obtain ⟨target', found, run, outcome⟩ := target.resolve_settles shaped.2.1 h
    obtain ⟨value', found', run', outcome'⟩ :=
      value.resolve_settles shaped.2.2 (h.logged found)
    refine ⟨.assign pos target' value', found ++ found', ?_, ?_⟩
    · rw [Expr.resolve]
      simp only [bind_run, run, run', pure_run, State.logged_logged]
    · rw [Expr.sites, Expr.ordinary, List.map_append]
      exact outcome.append outcome'
  | call pos callee argsPos args =>
    obtain ⟨callee', found, run, outcome⟩ := h.useName callee
    obtain ⟨args', found', run', outcome'⟩ :=
      Expr.resolveAll_settles args shaped (h.logged found)
    refine ⟨.call pos callee' argsPos args', found ++ found', ?_, ?_⟩
    · rw [Expr.resolve]
      simp only [bind_run, run, run', pure_run, State.logged_logged]
    · exact outcome.append outcome'
  | unary pos op operand =>
    obtain ⟨operand', found, run, outcome⟩ := operand.resolve_settles shaped h
    refine ⟨.unary pos op operand', found, ?_, outcome⟩
    rw [Expr.resolve, bind_run, run, pure_run]
  | binary pos left op right =>
    obtain ⟨left', found, run, outcome⟩ := left.resolve_settles shaped.1 h
    obtain ⟨right', found', run', outcome'⟩ :=
      right.resolve_settles shaped.2 (h.logged found)
    refine ⟨.binary pos left' op right', found ++ found', ?_, ?_⟩
    · rw [Expr.resolve]
      simp only [bind_run, run, run', pure_run, State.logged_logged]
    · rw [Expr.sites, Expr.ordinary, List.map_append]
      exact outcome.append outcome'

theorem Expr.resolveAll_settles (es : List Expr) {s : State} (shaped : Expr.AllShaped es)
    (h : s.Agrees made scopes) :
    ∃ after found, Expr.resolveAll es s = (after, s.logged found) ∧
      Outcome made (Expr.identsAll es) ((Expr.ordinaryAll es).map (⟨·, scopes⟩))
        (Expr.ordinaryAll after) found := by
  cases es with
  | nil => exact ⟨[], [], by rw [State.logged_nil]; rfl, .silent (List.forall_mem_nil _)⟩
  | cons e es =>
    obtain ⟨e', found, run, outcome⟩ := e.resolve_settles shaped.1 h
    obtain ⟨es', found', run', outcome'⟩ :=
      Expr.resolveAll_settles es shaped.2 (h.logged found)
    refine ⟨e' :: es', found ++ found', ?_, ?_⟩
    · rw [Expr.resolveAll]
      simp only [bind_run, run, run', pure_run, State.logged_logged]
    · rw [Expr.ordinaryAll, List.map_append]
      exact outcome.append outcome'

end

end

end Minim
