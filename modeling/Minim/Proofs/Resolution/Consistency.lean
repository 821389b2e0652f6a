import Minim.Proofs.Resolution.Steps

/-!
# Consistent states

Scopes and field tables bind names to identities, and identifiers are annotated with places of the
arena. A state is consistent if all of these lead to symbols of the arena that are called by the
name in question and know their place. Every step of an analysis keeps a state consistent.
-/

namespace Minim.Resolution.State

variable {s s' s'' : State}

/-! ## Consistency -/

/-- An identity is that of a symbol in the arena that has a name and knows its place. -/
def Entry (s : State) (name : String) (id : SymbolId) : Prop :=
  ∃ i symbol, s.arena.ids[i]? = some id ∧ s.store.get? id = some symbol ∧ symbol.name = name ∧
    symbol.index = some i

/-- A table binds names to symbols in the arena that have these names. -/
def Backs (s : State) (table : Table) : Prop :=
  ∀ scope ∈ table.scopes, ∀ binding ∈ scope, s.Entry binding.1 binding.2

/-- The open scopes and the field tables bind names to symbols in the arena that have these names,
and the symbols in the arena know their places. -/
structure Consistent (s : State) : Prop where
  scopes : s.Backs s.table
  fields : ∀ id ∈ s.arena.ids, ∀ table, s.store.fields? id = some table → s.Backs table
  places : ∀ i id, s.arena.ids[i]? = some id →
    ∃ symbol, s.store.get? id = some symbol ∧ symbol.index = some i

theorem backs_root (s : State) : s.Backs .root := by
  intro scope mem binding inside
  rw [List.mem_singleton.mp mem] at inside
  cases inside

theorem consistent_fresh : ({} : State).Consistent where
  scopes := backs_root _
  fields := nofun
  places := nofun

/-! ## Growth -/

/-- The arena grows at its end, and the symbols that were there keep their names, their places and
what they are, the fields of structs apart. -/
structure Extends (s s' : State) : Prop where
  arena : s.arena.ids <+: s'.arena.ids
  symbols : ∀ id symbol, s.store.get? id = some symbol → ∃ symbol',
    s'.store.get? id = some symbol' ∧ symbol'.name = symbol.name ∧ symbol'.index = symbol.index ∧
      symbol'.meaning.outline = symbol.meaning.outline

namespace Extends

theorem refl (s : State) : Extends s s :=
  ⟨List.prefix_refl _, fun _ symbol known => ⟨symbol, known, rfl, rfl, rfl⟩⟩

theorem trans (h : Extends s s') (h' : Extends s' s'') : Extends s s'' := by
  refine ⟨h.arena.trans h'.arena, fun id symbol known => ?_⟩
  obtain ⟨symbol', known', name', index', meaning'⟩ := h.symbols id symbol known
  obtain ⟨symbol'', known'', name'', index'', meaning''⟩ := h'.symbols id symbol' known'
  exact ⟨symbol'', known'', name''.trans name', index''.trans index', meaning''.trans meaning'⟩

theorem of_store (store : s'.store = s.store) (arena : s'.arena = s.arena) : Extends s s' := by
  refine ⟨arena ▸ List.prefix_refl _, fun _ symbol known => ⟨symbol, ?_, rfl, rfl, rfl⟩⟩
  rw [store, known]

theorem ids (h : Extends s s') {i : Nat} {id : SymbolId} (stands : s.arena.ids[i]? = some id) :
    s'.arena.ids[i]? = some id := by
  obtain ⟨more, same⟩ := h.arena
  obtain ⟨small, -⟩ := List.getElem?_eq_some_iff.mp stands
  rw [← same, List.getElem?_append_left small, stands]

theorem entry (h : Extends s s') {name : String} {id : SymbolId} (entry : s.Entry name id) :
    s'.Entry name id := by
  obtain ⟨i, symbol, stands, known, sameName, index⟩ := entry
  obtain ⟨symbol', known', name', index', -⟩ := h.symbols id symbol known
  exact ⟨i, symbol', h.ids stands, known', name'.trans sameName, index'.trans index⟩

theorem backs (h : Extends s s') {table : Table} (backs : s.Backs table) : s'.Backs table :=
  fun scope mem binding inside => h.entry (backs scope mem binding inside)

end Extends

/-! ## Steps -/

/-- Only what the symbols, the arena and the open scopes are matters. -/
theorem Consistent.of_store (h : s.Consistent) (store : s'.store = s.store)
    (arena : s'.arena = s.arena) (scopes : s'.Backs s'.table) : s'.Consistent where
  scopes := scopes
  fields id mem table isStruct := by
    rw [arena] at mem
    rw [store] at isStruct
    exact (Extends.of_store store arena).backs (h.fields id mem table isStruct)
  places i id stands := by
    rw [arena] at stands
    rw [store]
    exact h.places i id stands

theorem Consistent.of_alike (h : s.Consistent) (alike : s.Alike s') : s'.Consistent :=
  h.of_store alike.store alike.arena
    (alike.table ▸ (Extends.of_store alike.store alike.arena).backs h.scopes)

/-- The tables that a target can be are backed. -/
theorem Consistent.tableOf (h : s.Consistent) {target : Target}
    (inArena : ∀ struct, target = .fields struct → struct ∈ s.arena.ids) :
    s.Backs (s.tableOf target) := by
  cases target with
  | scope => exact h.scopes
  | fields struct =>
    rw [State.tableOf]
    cases isStruct : s.store.fields? struct with
    | some table => exact h.fields struct (inArena struct rfl) table isStruct
    | none => exact backs_root s

variable {target : Target} {scope : Scope SymbolId} {outer : List (Scope SymbolId)}
  {name : String} {meaning : Meaning}

theorem extends_withNew (table : Table) : s.Extends (s.withNew target table name meaning) := by
  refine ⟨⟨[s.nextId], (ids_withNew ..).symm⟩, fun id symbol known => ?_⟩
  obtain ⟨symbol', known', rfl | ⟨-, fields, isStruct, rfl⟩⟩ :=
    get?_withNew_old table name meaning target known
  · exact ⟨symbol', known', rfl, rfl, rfl⟩
  · refine ⟨_, known', rfl, rfl, ?_⟩
    rw [isStruct]
    rfl

theorem entry_withNew (table : Table) :
    (s.withNew target table name meaning).Entry name s.nextId := by
  refine ⟨s.arena.size, _, ?_, get?_withNew .., rfl, rfl⟩
  rw [ids_withNew]
  exact List.getElem?_concat_length

/-- A table goes on binding names to entries with one more binding to an entry. -/
theorem Backs.bind {id : SymbolId} (h : s.Backs ⟨scope :: outer⟩) (entry : s.Entry name id) :
    s.Backs ⟨scope.bind name id :: outer⟩ := by
  refine List.forall_mem_cons.mpr ⟨?_, fun other mem => h other (List.mem_cons_of_mem _ mem)⟩
  refine List.forall_mem_append.mpr ⟨h scope (List.mem_cons_self ..), ?_⟩
  exact List.forall_mem_singleton.mpr entry

/-- The symbols in the arena know their places, the new one at its end too. -/
theorem Consistent.places_withNew (h : s.Consistent) (table : Table) {i : Nat} {id : SymbolId}
    (stands : (s.withNew target table name meaning).arena.ids[i]? = some id) :
    ∃ symbol, (s.withNew target table name meaning).store.get? id = some symbol ∧
      symbol.index = some i := by
  by_cases old : i < s.arena.ids.length
  · rw [ids_withNew, List.getElem?_append_left old] at stands
    obtain ⟨symbol, known, index⟩ := h.places i id stands
    obtain ⟨symbol', known', -, index', -⟩ := (extends_withNew table).symbols id symbol known
    exact ⟨symbol', known', index'.trans index⟩
  · rw [ids_withNew] at stands
    obtain ⟨small, -⟩ := List.getElem?_eq_some_iff.mp stands
    rw [List.length_append, List.length_singleton] at small
    obtain rfl : i = s.arena.ids.length := by omega
    rw [List.getElem?_concat_length] at stands
    cases stands
    exact ⟨_, get?_withNew .., rfl⟩

/-- The fields of a struct in the arena were its fields before, or the name was bound among them, or
the struct is the new symbol. -/
theorem Consistent.fields_withNew (h : s.Consistent) {table fields : Table} {id : SymbolId}
    (mem : id ∈ (s.withNew target table name meaning).arena.ids)
    (isStruct : (s.withNew target table name meaning).store.fields? id = some fields) :
    s.Backs fields ∨ fields = table ∨ meaning = .structDef fields := by
  obtain ⟨symbol', known', isStruct⟩ := Store.fields?_eq_some.mp isStruct
  rw [ids_withNew] at mem
  rcases List.mem_append.mp mem with old | new
  · obtain ⟨i, stands⟩ := List.getElem?_of_mem old
    obtain ⟨symbol, known, -⟩ := h.places i id stands
    obtain ⟨symbol'', known'', change⟩ := get?_withNew_old table name meaning target known
    cases known'.symm.trans known''
    rcases change with rfl | ⟨-, -, -, rfl⟩
    · exact .inl (h.fields id old fields (Store.fields?_eq_some.mpr ⟨_, known, isStruct⟩))
    · exact .inr (.inl (Meaning.structDef.inj isStruct).symm)
  · rw [List.mem_singleton.mp new] at known'
    cases (get?_withNew ..).symm.trans known'
    exact .inr (.inr isStruct)

/-- **Declaring.** A new symbol under a name in the table of a target keeps a state consistent. -/
theorem Consistent.withNew (h : s.Consistent)
    (inArena : ∀ struct, target = .fields struct → struct ∈ s.arena.ids)
    (table : s.tableOf target = ⟨scope :: outer⟩)
    (plain : ∀ fields, meaning = .structDef fields → fields = .root) :
    (s.withNew target ⟨scope.bind name s.nextId :: outer⟩ name meaning).Consistent := by
  have grows : s.Extends (s.withNew target ⟨scope.bind name s.nextId :: outer⟩ name meaning) :=
    extends_withNew _
  have bound : (s.withNew target ⟨scope.bind name s.nextId :: outer⟩ name meaning).Backs
      ⟨scope.bind name s.nextId :: outer⟩ :=
    (grows.backs (table ▸ h.tableOf inArena)).bind (entry_withNew _)
  constructor
  case scopes =>
    rw [table_withNew]
    split
    · exact bound
    · exact grows.backs h.scopes
  case fields =>
    intro id mem fields isStruct
    rcases h.fields_withNew mem isStruct with backs | rfl | new
    · exact grows.backs backs
    · exact bound
    · rw [plain fields new]
      exact backs_root _
  case places => exact fun _ _ => h.places_withNew _

/-- **Seeding.** A symbol that is put into the arena beforehand, and then bound under its name in
the innermost scope, keeps a state consistent. -/
theorem Consistent.seed (h : s.Consistent) {table : Table}
    (bound : s.table.declare name s.nextId = .ok table)
    (plain : ∀ fields, meaning = .structDef fields → fields = .root) :
    ((s.record name meaning).withTable table).Consistent := by
  rw [ScopeStack.declare] at bound
  split at bound
  · cases bound
  · rename_i scope outer scopes
    split at bound
    · cases bound
    · cases bound
      have opened : s.tableOf .scope = ⟨scope :: outer⟩ := congrArg ScopeStack.mk scopes
      exact h.withNew (by rintro _ ⟨⟩) opened plain

end Minim.Resolution.State
