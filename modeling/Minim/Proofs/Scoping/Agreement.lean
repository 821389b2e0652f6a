import Mathlib.Data.List.Forall2
import Mathlib.Data.Option.Basic
import Minim.Proofs.Resolution.Steps
import Minim.Proofs.Scoping.Sites

/-!
# States that agree with the source

While a program is analysed, the open scopes bind the names of the declarations passed so far, each
to the symbol of the first one that gives it, and the arena holds the symbols made so far in order.
Every step of the analysis keeps to this.
-/

namespace Minim

/-! ## Scopes -/

/-- A symbol is the one that a declaration made: its identity is the place of the declaration. Or
there is neither. -/
def Stands (made : List Declared) : Option SymbolId → Option Declared → Prop :=
  Option.Rel fun id d => made[id.number]? = some d

/-- A scope binds each name to the symbol of the first declaration that gives it. -/
def Scope.Binds (made : List Declared) (scope : Scope SymbolId) (ds : List Declared) : Prop :=
  ∀ name, Stands made (scope.find? name) (ds.find? (·.Gives name))

theorem Stands.mono {made : List Declared} {id : Option SymbolId} {d : Option Declared}
    (h : Stands made id d) (more : List Declared) : Stands (made ++ more) id d := by
  cases h with
  | some stands =>
    obtain ⟨small, -⟩ := List.getElem?_eq_some_iff.mp stands
    exact .some (by rwa [List.getElem?_append_left small])
  | none => exact .none

theorem Stands.or {made : List Declared} {id id' : Option SymbolId} {d d' : Option Declared}
    (h : Stands made id d) (h' : Stands made id' d') : Stands made (id.or id') (d.or d') := by
  cases h with
  | some stands => exact .some stands
  | none => exact h'

theorem Stands.eq_none_iff {made : List Declared} {id : Option SymbolId} {d : Option Declared}
    (h : Stands made id d) : id = none ↔ d = none := by
  cases h <;> simp

namespace Scope.Binds

variable {made ds : List Declared} {scope : Scope SymbolId} {d : Declared}

theorem nil (made : List Declared) : Scope.Binds made [] [] :=
  fun _ => .none

theorem mono (h : scope.Binds made ds) (more : List Declared) :
    scope.Binds (made ++ more) ds :=
  fun name => (h name).mono more

/-- A scope is free for a declaration with a meaning if and only if it makes a symbol. -/
theorem find?_eq_none_iff (h : scope.Binds made ds) (hasMeaning : d.meaning.isSome = true) :
    scope.find? d.name.name = none ↔ d.IsNew ds := by
  rw [(h d.name.name).eq_none_iff, Declared.IsNew]
  simp [hasMeaning]

/-- A declaration that makes no symbol changes nothing. -/
theorem skip (h : scope.Binds made ds) (old : ¬ d.IsNew ds) : scope.Binds made (ds ++ [d]) := by
  intro name
  have same : (ds ++ [d]).find? (·.Gives name) = ds.find? (·.Gives name) := by
    rw [List.find?_append]
    cases found : ds.find? (·.Gives name) with
    | some other => rfl
    | none =>
      have gives : ¬ d.Gives name := by
        rintro ⟨hasMeaning, rfl⟩
        exact old ⟨hasMeaning, by simpa using found⟩
      simp [gives]
  rw [same]
  exact h name

/-- A declaration that makes a symbol is bound to it. -/
theorem bind (h : scope.Binds made ds) (isNew : d.IsNew ds) :
    Scope.Binds (made ++ [d]) (scope.bind d.name.name ⟨made.length⟩) (ds ++ [d]) := by
  intro name
  rw [Scope.bind, Scope.find?, List.lookup_append, List.find?_append]
  refine ((h name).mono [d]).or ?_
  by_cases same : d.name.name = name
  · have gives : d.Gives name := ⟨isNew.1, same⟩
    have stands : Stands (made ++ [d]) (some ⟨made.length⟩) (some d) := .some (by simp)
    simpa [same, gives] using stands
  · have silent : ¬ d.Gives name := fun gives => same gives.2
    have neither : Stands (made ++ [d]) none none := .none
    simpa [List.lookup_cons, beq_eq_false_iff_ne.mpr (Ne.symm same), silent] using neither

end Scope.Binds

/-- Scopes that bind what lists of declarations give answer a lookup as they do. -/
theorem Stands.lookup {made : List Declared} {scopes : List (Scope SymbolId)}
    {lists : List (List Declared)} (binds : List.Forall₂ (Scope.Binds made) scopes lists)
    (name : String) :
    Stands made (scopes.findSome? (·.find? name)) (Declared.lookup lists name) := by
  rw [Declared.lookup]
  induction binds with
  | nil => exact .none
  | cons first _ ih =>
    rw [List.findSome?_cons, List.findSome?_cons]
    have first := first name
    revert first
    generalize Scope.find? _ name = id, List.find? _ _ = d
    intro first
    cases first with
    | some stands => exact .some stands
    | none => exact ih

/-! ## Symbols -/

/-- A symbol is what a declaration makes when a number of symbols were made before. -/
structure Symbol.Records (symbol : Symbol) (d : Declared) (number : Nat) : Prop where
  name : symbol.name = d.name.name
  meaning : d.meaning = some symbol.meaning.outline
  index : symbol.index = some number
  fields : ∀ table, symbol.meaning = .structDef table → table.scopes ≠ []

namespace Resolution.State

variable {made : List Declared} {s : State}

/-- The analysis goes on, and its symbols are those that some declarations made, in order. -/
structure Stores (made : List Declared) (s : State) : Prop where
  running : s.failure = none
  arena : s.arena.ids = (List.range made.length).map SymbolId.mk
  count : s.store.symbols.length = made.length
  symbols : ∀ i d, made[i]? = some d → ∃ symbol, s.store.get? ⟨i⟩ = some symbol ∧ symbol.Records d i

theorem Stores.nextId_eq (h : Stores made s) : s.nextId = ⟨made.length⟩ := by
  rw [nextId, h.count]

theorem Stores.index? (h : Stores made s) {id : SymbolId} {d : Declared}
    (stands : made[id.number]? = some d) : s.store.index? id = some id.number := by
  obtain ⟨symbol, found, records⟩ := h.symbols id.number d stands
  rw [Store.index?, found]
  exact records.index

/-- The field tables of structs have a scope. -/
theorem Stores.fields_opened (h : Stores made s) {id : SymbolId} {d : Declared}
    (stands : made[id.number]? = some d) {table : Table}
    (fields : s.store.fields? id = some table) : table.scopes ≠ [] := by
  obtain ⟨symbol, found, records⟩ := h.symbols id.number d stands
  obtain ⟨symbol', found', isStruct⟩ := Store.fields?_eq_some.mp fields
  cases found.symm.trans found'
  exact records.fields table isStruct

/-- A new symbol goes to the end of the arena, and the fields that it may be bound among leave the
other symbols what they are. -/
theorem Stores.withNew (h : Stores made s) {d : Declared} {meaning : Meaning}
    (means : d.meaning = some meaning) (plain : meaning.outline = meaning) (target : Target)
    (scope : Scope SymbolId) (outer : List (Scope SymbolId)) :
    Stores (made ++ [d]) (s.withNew target ⟨scope :: outer⟩ d.name.name meaning) := by
  have size : s.arena.size = made.length := by simp [Arena.size, h.arena]
  constructor
  case running => cases target <;> exact h.running
  case arena =>
    rw [ids_withNew, h.arena, h.nextId_eq, List.length_append, List.length_singleton,
      List.range_succ, List.map_append, List.map_singleton]
  case count => rw [length_withNew, h.count, List.length_append, List.length_singleton]
  case symbols =>
    intro i d' stands
    by_cases earlier : i < made.length
    · rw [List.getElem?_append_left earlier] at stands
      obtain ⟨symbol, found, records⟩ := h.symbols i d' stands
      obtain ⟨symbol', found', rfl | ⟨-, fields, isStruct, rfl⟩⟩ :=
        get?_withNew_old ⟨scope :: outer⟩ d.name.name meaning target found
      · exact ⟨symbol', found', records⟩
      · refine ⟨_, found', records.name, ?_, records.index, ?_⟩
        · rw [records.meaning, isStruct]
          rfl
        · rintro _ ⟨⟩
          exact List.cons_ne_nil scope outer
    · obtain ⟨small, same⟩ := List.getElem?_eq_some_iff.mp stands
      rw [List.length_append, List.length_singleton] at small
      obtain rfl : i = made.length := by omega
      obtain rfl : d = d' := by simpa using same
      rw [← h.nextId_eq, get?_withNew]
      refine ⟨_, rfl, rfl, ?_, ?_, ?_⟩
      · rw [means, plain]
      · rw [size]
      · rintro table rfl
        obtain rfl : ScopeStack.root = table := by simpa [Meaning.outline] using plain
        exact List.cons_ne_nil _ _

/-! ## Agreement -/

/-- A state agrees with the symbols made so far and with the declarations that were passed in the
open scopes. -/
structure Agrees (made : List Declared) (scopes : List (List Declared)) (s : State) : Prop where
  stores : Stores made s
  binds : List.Forall₂ (Scope.Binds made) s.table.scopes scopes
  opened : scopes ≠ []

/-- A state agrees with the declarations that were passed where a target is. -/
def AgreesAt (target : Target) (made ds : List Declared) (scopes : List (List Declared))
    (s : State) : Prop :=
  match target with
  | .scope => Agrees made (ds :: scopes) s
  | .fields struct =>
    Agrees made scopes s ∧ ∃ scope, s.store.fields? struct = some ⟨[scope]⟩ ∧ scope.Binds made ds

variable {scopes : List (List Declared)} {target : Target} {ds : List Declared} {d : Declared}

theorem Agrees.exists_scope (h : Agrees made scopes s) :
    ∃ scope outer, s.table.scopes = scope :: outer := by
  refine List.exists_cons_of_ne_nil fun empty => h.opened ?_
  have same := h.binds.length_eq
  rw [empty] at same
  exact List.length_eq_zero_iff.mp same.symm

theorem Agrees.lookup (h : Agrees made scopes s) (name : String) :
    ∃ id, s.table.lookup name = .ok id ∧ Stands made id (Declared.lookup scopes name) := by
  obtain ⟨scope, outer, split⟩ := h.exists_scope
  refine ⟨_, ?_, .lookup h.binds name⟩
  rw [ScopeStack.lookup, split]

theorem AgreesAt.agrees (h : AgreesAt target made ds scopes s) :
    ∃ scopes', Agrees made scopes' s := by
  cases target with
  | scope => exact ⟨_, h⟩
  | fields struct => exact ⟨_, h.1⟩

/-- The table of a target binds what was passed there. -/
theorem AgreesAt.table (h : AgreesAt target made ds scopes s) :
    ∃ scope outer, s.tableOf target = ⟨scope :: outer⟩ ∧ scope.Binds made ds := by
  cases target with
  | scope =>
    obtain ⟨scope, outer, binds, -, split⟩ := List.forall₂_cons_right_iff.mp h.binds
    refine ⟨scope, outer, ?_, binds⟩
    rw [tableOf, ← split]
  | fields struct =>
    obtain ⟨scope, found, binds⟩ := h.2
    refine ⟨scope, [], ?_, binds⟩
    rw [tableOf, found]
    rfl

/-- A declaration that makes no symbol keeps the agreement. -/
theorem AgreesAt.skip (h : AgreesAt target made ds scopes s) (old : ¬ d.IsNew ds) :
    AgreesAt target made (ds ++ [d]) scopes s := by
  cases target with
  | scope =>
    obtain ⟨scope, outer, binds, others, split⟩ := List.forall₂_cons_right_iff.mp h.binds
    refine ⟨h.stores, ?_, List.cons_ne_nil _ _⟩
    rw [split]
    exact .cons (binds.skip old) others
  | fields struct =>
    obtain ⟨agrees, scope, found, binds⟩ := h
    exact ⟨agrees, scope, found, binds.skip old⟩

/-- A declaration that makes a symbol and is bound to it keeps the agreement. -/
theorem AgreesAt.bind (h : AgreesAt target made ds scopes s) (isNew : d.IsNew ds)
    {scope : Scope SymbolId} {outer : List (Scope SymbolId)}
    (table : s.tableOf target = ⟨scope :: outer⟩) {meaning : Meaning}
    (means : d.meaning = some meaning) (plain : meaning.outline = meaning) :
    AgreesAt target (made ++ [d]) (ds ++ [d]) scopes
      (s.withNew target ⟨scope.bind d.name.name ⟨made.length⟩ :: outer⟩ d.name.name meaning) := by
  cases target with
  | scope =>
    have stores := h.stores.withNew means plain .scope (scope.bind d.name.name ⟨made.length⟩) outer
    obtain ⟨scope', outer', binds, others, split⟩ := List.forall₂_cons_right_iff.mp h.binds
    have same : s.table.scopes = scope :: outer := congrArg ScopeStack.scopes table
    rw [split] at same
    cases same
    have others := others.imp fun _ _ binds => Scope.Binds.mono binds [d]
    exact ⟨stores, .cons (binds.bind isNew) others, List.cons_ne_nil _ _⟩
  | fields struct =>
    obtain ⟨agrees, scope', found, binds⟩ := h
    rw [tableOf, found] at table
    cases table
    have stores := agrees.stores.withNew means plain (.fields struct)
      (scope.bind d.name.name ⟨made.length⟩) []
    refine ⟨⟨stores, ?_, agrees.opened⟩, _, ?_, binds.bind isNew⟩
    · exact agrees.binds.imp fun _ _ binds => binds.mono [d]
    · exact Store.fields?_make (Store.fields?_setFields found _) _

/-- A declaration that gives a name anew makes the next symbol. -/
theorem AgreesAt.declare_new (h : AgreesAt target made ds scopes s) (isNew : d.IsNew ds)
    {meaning : Meaning} (means : d.meaning = some meaning) (plain : meaning.outline = meaning) :
    ∃ s', s.declare target d.name meaning = (some ⟨made.length⟩, s') ∧
      AgreesAt target (made ++ [d]) (ds ++ [d]) scopes s' ∧ s'.log = s.log ∧
      (s'.store.get? ⟨made.length⟩).map Symbol.meaning = some meaning := by
  obtain ⟨_, agrees⟩ := h.agrees
  obtain ⟨scope, outer, table, binds⟩ := h.table
  have free := (binds.find?_eq_none_iff isNew.1).mpr isNew
  refine ⟨_, ?_, h.bind isNew table means plain, log_withNew .., ?_⟩
  · rw [State.declare_of_free table free, agrees.stores.nextId_eq]
  · rw [← agrees.stores.nextId_eq, get?_withNew, Option.map_some]

/-- A declaration of a name that was given before is reported. -/
theorem AgreesAt.declare_old (h : AgreesAt target made ds scopes s) (old : ¬ d.IsNew ds)
    {meaning : Meaning} (means : d.meaning = some meaning) :
    s.declare target d.name meaning = (none, s.report d.name .duplicateName) := by
  obtain ⟨scope, outer, table, binds⟩ := h.table
  have free := binds.find?_eq_none_iff (d := d) (by rw [means]; rfl)
  obtain ⟨id, bound⟩ := Option.ne_none_iff_exists'.mp (mt free.mp old)
  exact State.declare_of_bound table bound

end Resolution.State

end Minim
