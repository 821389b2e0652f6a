import Minim.Proofs.Scoping.Program
import Minim.Proofs.Scoping.Visits

/-!
# Every visit is accounted for

A visit of a declared name is answered in one of three ways. The symbols that an analysis makes are
those of its visits, in order, and so are the faults that it finds at declared names.
-/

namespace Minim

open Resolution

/-! ## One visit -/

theorem Meaning.outline_of_meaning? {type : TypeExpr} {meaning : Meaning}
    (written : type.meaning? = some meaning) : meaning.outline = meaning := by
  cases type <;> cases written <;> rfl

/-- The struct name in the type of a variable is looked up once, whatever it is bound to. -/
theorem Resolution.useStructName_run {s : State} (running : s.failure = none)
    {structName declared : Ident} {id : Option SymbolId}
    (looked : s.table.lookup structName.name = .ok id) :
    (useStructName structName declared s).2 =
      s.logged (if id.isNone then [Log.entry declared.pos .invalidStructType] else []) := by
  rw [useStructName, unlessFailed_of_running running]
  cases id with
  | none => simp only [looked]; rfl
  | some id =>
    simp only [looked]
    split <;> exact (State.logged_nil s).symm

namespace Visit

variable {v : Visit}

theorem boundIn_eq {s : State} {scope : Scope SymbolId} {outer : List (Scope SymbolId)}
    (table : s.tableOf v.target = ⟨scope :: outer⟩) : v.boundIn s = scope.find? v.name.name := by
  rw [boundIn, table]
  rfl

/-- What the table of a target is, the log does not change. -/
theorem tableOf_logged (s : State) (target : Target) (found : List Diagnostic) :
    (s.logged found).tableOf target = s.tableOf target := by
  cases target <;> rfl

theorem withNew_logged (s : State) (target : Target) (found : List Diagnostic) (table : Table)
    (name : String) (meaning : Meaning) :
    (s.logged found).withNew target table name meaning =
      (s.withNew target table name meaning).logged found := by
  cases target <;> rfl

/-- A name that means something is looked for in its scope after the struct in its type was. -/
theorem answered_of_declare {meaning : Meaning} {scope : Scope SymbolId}
    {outer : List (Scope SymbolId)} (written : v.meaning? = some meaning)
    (after : v.after =
      (Resolution.declare v.target v.name meaning (v.before.logged v.typeFaults)).2)
    (running : v.before.failure = none) (table : v.before.tableOf v.target = ⟨scope :: outer⟩)
    (opened : ∀ struct, v.target = .fields struct →
      (v.before.store.fields? struct).isSome = true) : v.Answered := by
  have table' : (v.before.logged v.typeFaults).tableOf v.target = ⟨scope :: outer⟩ := by
    rw [tableOf_logged, table]
  have run : v.after = ((v.before.logged v.typeFaults).declare v.target v.name meaning).2 := by
    rw [after, Resolution.declare, unlessFailed_of_running]
    exact running
  cases looked : scope.find? v.name.name with
  | some id =>
    rw [State.declare_of_bound table' looked] at run
    refine .duplicate written ((boundIn_eq table).trans looked) ?_
    rw [run, ← State.logged_logged]
    rfl
  | none =>
    rw [State.declare_of_free table' looked, withNew_logged] at run
    refine .made written ((boundIn_eq table).trans looked) ⟨v.before.get?_nextId, ?_, ?_, ?_⟩ ?_
    · rw [run]
      exact State.get?_withNew ..
    · rw [run]
      exact State.ids_withNew _ v.name.name meaning
    · refine ⟨scope, outer, table, ?_⟩
      rw [run, tableOf_logged]
      exact State.tableOf_withNew _ _ _ opened
    · rw [run, State.logged]
      exact congrArg (·.entries ++ v.typeFaults) (State.log_withNew ..)

variable {made ds : List Declared} {scopes : List (List Declared)}

/-- A visit in a state that agrees with the source is answered. -/
theorem answered (h : v.before.AgreesAt v.target made ds scopes) : v.Answered := by
  obtain ⟨scope, outer, table, -⟩ := h.table
  obtain ⟨_, agrees⟩ := h.agrees
  have running := agrees.stores.running
  have opened : ∀ struct, v.target = .fields struct →
      (v.before.store.fields? struct).isSome = true := by
    intro struct target
    rw [target] at h
    obtain ⟨-, fields, found, -⟩ := h
    rw [found]
    rfl
  cases written : v.declaredAs with
  | definition meaning =>
    have after : v.after =
        (Resolution.declare v.target v.name meaning (v.before.logged v.typeFaults)).2 := by
      rw [Visit.after, typeFaults, written, State.logged_nil]
    exact answered_of_declare (by rw [meaning?, written]) after running table opened
  | typed type =>
    cases type with
    | void pos =>
      refine .void (by rw [meaning?, written]; rfl) ?_
      rw [Visit.after, written]
      show ((TypeExpr.void pos).declare v.target v.name v.before).2 = _
      rw [TypeExpr.declare, bind_run, Resolution.report, unlessFailed_of_running running]
      rfl
    | int pos | bool pos =>
      refine answered_of_declare (by rw [meaning?, written]; rfl) ?_ running table opened
      rw [Visit.after, typeFaults, written, State.logged_nil]
      rfl
    | struct pos structName =>
      refine answered_of_declare (by rw [meaning?, written]; rfl) ?_ running table opened
      obtain ⟨id, looked, -⟩ := agrees.lookup structName.name
      rw [Visit.after, typeFaults, written]
      show ((TypeExpr.struct pos structName).declare v.target v.name v.before).2 = _
      rw [TypeExpr.declare, bind_run, bind_run, pure_run, useStructName_name,
        useStructName_run running looked]
      simp only [looked]
      cases id <;> rfl

/-- What was passed in a scope goes on with the declaration that is visited. -/
theorem agreesAt_after (h : v.before.AgreesAt v.target made ds scopes)
    (plain : ∀ meaning, v.meaning? = some meaning → meaning.outline = meaning) :
    v.after.AgreesAt v.target (made ++ v.declared.made ds) (ds ++ [v.declared]) scopes := by
  obtain ⟨target, name, declaredAs, s⟩ := v
  cases declaredAs with
  | typed type => exact (h.declareVariable type name).1
  | definition meaning =>
    exact (State.AgreesAt.declare (d := ⟨name, some meaning⟩) h rfl (plain meaning rfl)).1

end Visit

/-! ## The effects of a visit -/

namespace Visit.Answered

variable {v : Visit} (h : v.Answered)
include h

theorem log : v.after.log.entries = v.before.log.entries ++ v.faults := by
  cases h with
  | void written after =>
    rw [after, faults, verdict, written]
    rfl
  | duplicate written bound after =>
    rw [after, faults, verdict, written, bound]
    rfl
  | made written free makes log =>
    rw [log, faults, verdict, written, free]

omit h in
theorem symbol?_of_makes {meaning : Meaning} {id : SymbolId} (written : v.meaning? = some meaning)
    (free : v.boundIn v.before = none) (makes : v.Makes meaning id) : v.symbol? = some id := by
  obtain ⟨scope, outer, before, after⟩ := makes.bound
  have made : v.verdict = .made := by rw [verdict, written, free]
  rw [boundIn_eq before] at free
  rw [symbol?, made]
  exact (boundIn_eq after).trans (Scope.find?_bind_self free id)

theorem arena : v.after.arena.ids = v.before.arena.ids ++ v.symbol?.toList := by
  cases h with
  | void written after =>
    have none : v.symbol? = none := by rw [symbol?, verdict, written]
    rw [after, none]
    exact (List.append_nil _).symm
  | duplicate written bound after =>
    have none : v.symbol? = none := by rw [symbol?, verdict, written, bound]
    rw [after, none]
    exact (List.append_nil _).symm
  | made written free makes log =>
    rw [makes.arena, symbol?_of_makes written free makes]
    rfl

/-- A visit that makes a symbol comes to a scope that is free for the name. -/
theorem free_of_symbol? {id : SymbolId} (made : v.symbol? = some id) :
    v.meaning?.isSome = true ∧ v.boundIn v.before = none := by
  cases h with
  | void written => rw [symbol?, verdict, written] at made; cases made
  | duplicate written bound => rw [symbol?, verdict, written, bound] at made; cases made
  | made written free => exact ⟨by rw [written]; rfl, free⟩

end Visit.Answered

theorem Visit.faults_isOfDeclaration (v : Visit) :
    ∀ fault ∈ v.faults, fault.kind.isOfDeclaration = true ∧ fault.pos = v.name.pos := by
  have typeFaults : ∀ fault ∈ v.typeFaults,
      fault.kind.isOfDeclaration = true ∧ fault.pos = v.name.pos := by
    rw [Visit.typeFaults]
    split
    · split
      · exact List.forall_mem_singleton.mpr ⟨rfl, rfl⟩
      · exact List.forall_mem_nil _
    · exact List.forall_mem_nil _
  rw [faults]
  split
  · exact List.forall_mem_singleton.mpr ⟨rfl, rfl⟩
  · exact List.forall_mem_append.mpr ⟨typeFaults, List.forall_mem_singleton.mpr ⟨rfl, rfl⟩⟩
  · exact typeFaults

/-- Where a function or a struct is declared, the answer is the symbol of the visit. -/
theorem Visit.declare_eq {v : Visit} {made ds : List Declared} {scopes : List (List Declared)}
    {meaning : Meaning} (h : v.before.AgreesAt v.target made ds scopes)
    (definition : v.declaredAs = .definition meaning) :
    Resolution.declare v.target v.name meaning v.before = (v.symbol?, v.after) := by
  obtain ⟨scope, outer, table, -⟩ := h.table
  obtain ⟨_, agrees⟩ := h.agrees
  have arena := (answered h).arena
  have after : v.after = (Resolution.declare v.target v.name meaning v.before).2 := by
    rw [Visit.after, definition]
  rw [Resolution.declare, unlessFailed_of_running agrees.stores.running] at after ⊢
  refine Prod.ext ?_ after.symm
  cases looked : scope.find? v.name.name with
  | some id =>
    rw [State.declare_of_bound table looked, symbol?, verdict, meaning?, definition,
      boundIn_eq table, looked]
  | none =>
    -- The one symbol that the arena has more is the answer.
    rw [State.declare_of_free table looked] at after ⊢
    rw [after, State.ids_withNew, List.append_cancel_left_eq] at arena
    cases symbol : v.symbol? with
    | none => rw [symbol] at arena; cases arena
    | some id => rw [symbol] at arena; cases arena; rfl

/-! ## Parts of a tree -/

/-- On the way from one state to another some visits are made among the names of a part of a tree,
and they account for the symbols that are made and for the faults at declared names. -/
structure Accounts (made : List Declared) (names : List Ident) (visits : List Visit)
    (s s' : State) : Prop where
  answered : ∀ v ∈ visits, v.Answered
  stands : ∀ v ∈ visits, ∀ id, v.symbol? = some id → made[id.number]? = some v.declared
  arena : s'.arena.ids = s.arena.ids ++ visits.filterMap Visit.symbol?
  log : ∃ found, s'.log.entries = s.log.entries ++ found ∧
    found.filter (·.kind.isOfDeclaration) = visits.flatMap Visit.faults
  within : (visits.map Visit.name).Sublist names

namespace Accounts

variable {made : List Declared} {names names' : List Ident} {visits visits' : List Visit}
  {s s' s'' : State}

theorem mono (h : Accounts made names visits s s') (more : List Declared) :
    Accounts (made ++ more) names visits s s' where
  answered := h.answered
  stands v mem id symbol := by
    have stands := h.stands v mem id symbol
    obtain ⟨small, -⟩ := List.getElem?_eq_some_iff.mp stands
    rwa [List.getElem?_append_left small]
  arena := h.arena
  log := h.log
  within := h.within

theorem append (h : Accounts made names visits s s') (h' : Accounts made names' visits' s' s'') :
    Accounts made (names ++ names') (visits ++ visits') s s'' where
  answered := List.forall_mem_append.mpr ⟨h.answered, h'.answered⟩
  stands := List.forall_mem_append.mpr ⟨h.stands, h'.stands⟩
  arena := by rw [h'.arena, h.arena, List.filterMap_append, List.append_assoc]
  log := by
    obtain ⟨found, log, faults⟩ := h.log
    obtain ⟨found', log', faults'⟩ := h'.log
    refine ⟨found ++ found', by rw [log', log, List.append_assoc], ?_⟩
    rw [List.filter_append, faults, faults', List.flatMap_append]
  within := by
    rw [List.map_append]
    exact h.within.append h'.within

/-- Nothing is visited where names are only looked up. -/
theorem of_reads (h : s.Reads s') (names : List Ident) : Accounts made names [] s s' where
  answered := List.forall_mem_nil _
  stands := List.forall_mem_nil _
  arena := by rw [h.arena]; exact (List.append_nil _).symm
  log := by
    obtain ⟨found, log, kinds⟩ := h.log
    refine ⟨found, log, List.filter_eq_nil_iff.mpr fun fault mem => ?_⟩
    rw [kinds fault mem]
    exact Bool.false_ne_true
  within := List.nil_sublist _

/-- Nothing is visited where scopes are opened and closed. -/
theorem of_keeps (h : s.Keeps s') : Accounts made [] [] s s' where
  answered := List.forall_mem_nil _
  stands := List.forall_mem_nil _
  arena := by rw [h.arena]; exact (List.append_nil _).symm
  log := ⟨[], by rw [h.log, List.append_nil], rfl⟩
  within := .slnil

/-- A part in a scope of its own. -/
theorem inScope (h : Accounts made names visits (openScope s).2 s') :
    Accounts made names visits s (closeScope s').2 := by
  have around := ((of_keeps (openScope_keeps s)).append h).append (of_keeps (closeScope_keeps s'))
  rwa [List.nil_append, List.nil_append, List.append_nil, List.append_nil] at around

/-- More identifiers may stand around those of a part. -/
theorem widen (h : Accounts made names visits s s') (wider : names.Sublist names') :
    Accounts made names' visits s s' :=
  { h with within := h.within.trans wider }

/-- A single visit. -/
theorem visit {v : Visit} {ds : List Declared} {scopes : List (List Declared)}
    (h : v.before.AgreesAt v.target made ds scopes)
    (plain : ∀ meaning, v.meaning? = some meaning → meaning.outline = meaning) :
    Accounts (made ++ v.declared.made ds) [v.name] [v] v.before v.after where
  answered := List.forall_mem_singleton.mpr (Visit.answered h)
  stands := by
    refine List.forall_mem_singleton.mpr fun id symbol => ?_
    obtain ⟨hasMeaning, free⟩ := (Visit.answered h).free_of_symbol? symbol
    obtain ⟨scope, outer, table, binds⟩ := h.table
    rw [Visit.boundIn_eq table] at free
    have isNew : v.declared.IsNew ds :=
      (binds.find?_eq_none_iff (d := v.declared) hasMeaning).mp free
    -- The arena grows by the symbol, whose number is therefore the number of those before.
    obtain ⟨_, before⟩ := h.agrees
    obtain ⟨_, after⟩ := (Visit.agreesAt_after h plain).agrees
    have arena := (Visit.answered h).arena
    rw [Declared.made, if_pos isNew] at after ⊢
    rw [after.stores.arena, before.stores.arena, symbol, List.length_append, List.length_singleton,
      List.range_succ, List.map_append, List.map_singleton] at arena
    obtain rfl : (⟨made.length⟩ : SymbolId) = id := by simpa using arena
    simp
  arena := by
    rw [(Visit.answered h).arena]
    cases symbol : v.symbol? <;> simp [symbol]
  log := by
    refine ⟨v.faults, (Visit.answered h).log, ?_⟩
    rw [List.flatMap_singleton, List.filter_eq_self]
    exact fun fault mem => (v.faults_isOfDeclaration fault mem).1
  within := .refl _

end Accounts

end Minim
