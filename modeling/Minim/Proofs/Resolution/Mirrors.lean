import Mathlib.Data.List.Basic
import Minim.Proofs.Resolution.Steps
import Minim.Proofs.Syntax.Edits

/-!
# Two analyses side by side

The analyses of two trees that differ by an edit take the same steps, if the states that they start
from differ in the same way. What differs is told by a view: it says what becomes of names, of the
identities of symbols and their places in the arena, and of positions. Nothing that an analysis does
depends on what these are, if different names stay different, and different symbols too; then the
view is a mirror, and each step of the one analysis is seen in the other.
-/

namespace Minim

/-! ## Making symbols -/

namespace Store

variable {store : Store}

theorem get?_make (symbol : Symbol) (id : SymbolId) :
    (store.make symbol).2.get? id =
      if id.number = store.symbols.length then some symbol else store.get? id := by
  show (store.symbols ++ [symbol])[id.number]? = _
  rw [List.getElem?_append]
  split_ifs with early new new
  · omega
  · rfl
  · rw [new, Nat.sub_self]
    rfl
  · rw [get?, List.getElem?_eq_none (by simp; omega), List.getElem?_eq_none (by omega)]

end Store

namespace Resolution

namespace State

/-- From one state to another some symbols are made, and each is put at the end of the arena. -/
def Makes (made : Nat) (s s' : State) : Prop :=
  s'.store.symbols.length = s.store.symbols.length + made ∧
    s'.arena.ids = s.arena.ids ++ (List.range made).map fun k => ⟨s.store.symbols.length + k⟩

variable {s s' s'' : State} {made made' : Nat}

theorem Makes.refl (s : State) : Makes 0 s s :=
  ⟨rfl, (List.append_nil _).symm⟩

theorem Makes.trans (h : Makes made s s') (h' : Makes made' s' s'') :
    Makes (made + made') s s'' := by
  obtain ⟨store, arena⟩ := h
  obtain ⟨store', arena'⟩ := h'
  refine ⟨by rw [store', store, Nat.add_assoc], ?_⟩
  rw [arena', arena, store, List.range_add, List.map_append, List.append_assoc, List.map_map]
  simp only [Function.comp_def, Nat.add_assoc]

theorem Makes.size (h : Makes made s s') : s'.arena.size = s.arena.size + made := by
  rw [Arena.size, h.2, List.length_append, List.length_map, List.length_range]
  rfl

theorem makes_withNew (target : Target) (table : Table) (name : String) (meaning : Meaning) :
    Makes 1 s (s.withNew target table name meaning) :=
  ⟨length_withNew .., ids_withNew ..⟩

end State

/-! ## Views -/

/-- How one analysis is seen in another. -/
structure View where
  pos : Position → Position := id
  word : String → String := id
  entry : SymbolId → SymbolId := id
  place : Nat → Nat := id
  ident : Ident → Ident

namespace View

variable (v : View)

/-- What becomes of a tree. -/
def edit : Edit := { pos := v.pos, ident := v.ident }

/-- What becomes of the bindings of a scope. -/
def scope (scope : Scope SymbolId) : Scope SymbolId :=
  scope.map fun binding => (v.word binding.1, v.entry binding.2)

/-- What becomes of a table. -/
def table (table : Table) : Table := ⟨table.scopes.map v.scope⟩

/-- What becomes of a type. -/
def type : DataType → DataType
  | .struct name => .struct (v.word name)
  | plain => plain

/-- What becomes of a meaning. -/
def meaning : Meaning → Meaning
  | .var type => .var (v.type type)
  | .func returnType paramTypes => .func (v.type returnType) (paramTypes.map v.type)
  | .structDef fields => .structDef (v.table fields)
  | .structVar structName => .structVar (v.word structName)

/-- What becomes of a symbol. -/
def symbol (symbol : Symbol) : Symbol :=
  { name := v.word symbol.name, meaning := v.meaning symbol.meaning,
    index := symbol.index.map v.place }

/-- What becomes of the refusal of a table. -/
def scopeError : ScopeError → ScopeError
  | .cannotPop => .cannotPop
  | .cannotDeclare name => .cannotDeclare (v.word name)
  | .cannotLookUp name => .cannotLookUp (v.word name)
  | .duplicate name => .duplicate (v.word name)

/-- What becomes of a failure. -/
def failure : Failure → Failure
  | .scope error => .scope (v.scopeError error)
  | .structMember struct kind => .structMember (v.word struct) kind
  | .dotBase kind => .dotBase kind

/-- What becomes of a fault. -/
def diagnostic (fault : Diagnostic) : Diagnostic := { fault with pos := v.pos fault.pos }

/-- What becomes of the target of a declaration. -/
def target : Target → Target
  | .scope => .scope
  | .fields struct => .fields (v.entry struct)

/-- What becomes of the answer of a table. -/
def answer : Except ScopeError (Option SymbolId) → Except ScopeError (Option SymbolId)
  | .error error => .error (v.scopeError error)
  | .ok found => .ok (found.map v.entry)

/-! ### What a view leaves alone -/

variable {v : View} (words : v.word = id)

include words

theorem table_of_fixed {table : Table}
    (fixed : ∀ scope ∈ table.scopes, ∀ binding ∈ scope, v.entry binding.2 = binding.2) :
    v.table table = table := by
  have scopes : table.scopes.map v.scope = table.scopes := by
    refine (List.map_congr_left fun scope mem => ?_).trans (List.map_id _)
    refine (List.map_congr_left fun binding inside => ?_).trans (List.map_id _)
    rw [words, fixed scope mem binding inside]
    rfl
  rw [View.table, scopes]

theorem type_of_words (type : DataType) : v.type type = type := by
  cases type with
  | struct name => rw [View.type, words, id]
  | _ => rfl

theorem meaning_of_fixed {meaning : Meaning}
    (fields : ∀ table, meaning = .structDef table → v.table table = table) :
    v.meaning meaning = meaning := by
  cases meaning with
  | var type => rw [View.meaning, type_of_words words]
  | func returnType paramTypes =>
    rw [View.meaning, type_of_words words, funext (type_of_words words)]
    exact congrArg _ (List.map_id _)
  | structDef table => exact congrArg _ (fields table rfl)
  | structVar structName => rw [View.meaning, words, id]

theorem symbol_of_fixed {symbol : Symbol} (index : symbol.index.map v.place = symbol.index)
    (fields : ∀ table, symbol.meaning = .structDef table → v.table table = table) :
    v.symbol symbol = symbol := by
  rw [View.symbol, words, meaning_of_fixed words fields, index]
  rfl

theorem failure_of_words : v.failure = id := by
  funext failure
  rcases failure with ⟨_ | _ | _ | _⟩ | _ | _ <;>
    simp only [View.failure, View.scopeError, words, id]

/-- Where symbols stay in their places, too, tables and symbols are seen as they are. -/
theorem table_of_still (entries : v.entry = id) (table : Table) : v.table table = table :=
  table_of_fixed words fun _ _ binding _ => congrFun entries binding.2

theorem symbol_of_still (entries : v.entry = id) (places : v.place = id) : v.symbol = id := by
  funext symbol
  refine symbol_of_fixed words ?_ fun fields _ => table_of_still words entries fields
  rw [places, Option.map_id, id]

end View

/-- A view in which different names stay different, and so do symbols, and that sees identifiers as
it sees their names, their positions and the places that they are annotated with. -/
structure Mirror extends View where
  word_injective : Function.Injective word
  entry_injective : Function.Injective entry
  name_ident : ∀ name, (ident name).name = word name.name
  pos_ident : ∀ name, (ident name).pos = pos name.pos
  ident_attach : ∀ name index, ident (name.attach index) = (ident name).attach (index.map place)

namespace Mirror

variable (m : Mirror)

/-! ## Tables -/

theorem find?_scope (scope : Scope SymbolId) (name : String) :
    (m.scope scope).find? (m.word name) = (scope.find? name).map m.entry := by
  induction scope with
  | nil => rfl
  | cons binding scope ih =>
    obtain ⟨key, id⟩ := binding
    show List.lookup (m.word name) ((m.word key, m.entry id) :: m.scope scope) =
      (List.lookup name ((key, id) :: scope)).map m.entry
    rw [List.lookup_cons, List.lookup_cons]
    by_cases same : name = key
    · simp [same]
    · have different : (m.word name == m.word key) = false :=
        beq_false_of_ne fun equal => same (m.word_injective equal)
      rw [different, beq_false_of_ne same]
      exact ih

theorem scope_bind (scope : Scope SymbolId) (name : String) (id : SymbolId) :
    m.scope (scope.bind name id) = (m.scope scope).bind (m.word name) (m.entry id) :=
  List.map_append

theorem lookup_table (table : Table) (name : String) :
    (m.table table).lookup (m.word name) = m.answer (table.lookup name) := by
  obtain ⟨scopes⟩ := table
  cases scopes with
  | nil => rfl
  | cons scope outer =>
    have found (scopes : List (Scope SymbolId)) :
        (scopes.map m.scope).findSome? (·.find? (m.word name)) =
          (scopes.findSome? (·.find? name)).map m.entry := by
      rw [List.findSome?_map, List.map_findSome?]
      exact congrArg (List.findSome? · scopes) (funext fun scope => m.find?_scope scope name)
    exact congrArg Except.ok (found (scope :: outer))

theorem lookupLocal_table (table : Table) (name : String) :
    (m.table table).lookupLocal (m.word name) = m.answer (table.lookupLocal name) := by
  obtain ⟨scopes⟩ := table
  cases scopes with
  | nil => rfl
  | cons scope outer => exact congrArg Except.ok (m.find?_scope scope name)

/-! ## Seeing one state in another -/

/-- One state is seen in another: the scopes and the symbols are seen in the scopes and the symbols,
and what was found and made since the analyses began is the same. -/
structure Shows (s₀ t₀ s t : State) : Prop where
  /-- The symbols to be made are seen in each other in their order, and so are their places. -/
  entries : ∀ k, m.entry ⟨s₀.store.symbols.length + k⟩ = ⟨t₀.store.symbols.length + k⟩
  places : ∀ k, m.place (s₀.arena.size + k) = t₀.arena.size + k
  failure : t.failure = s.failure.map m.failure
  table : t.table = m.table s.table
  store : ∀ id, t.store.get? (m.entry id) = (s.store.get? id).map m.symbol
  made : ∃ made, s₀.Makes made s ∧ t₀.Makes made t
  log : ∃ found, s.log.entries = s₀.log.entries ++ found ∧
    t.log.entries = t₀.log.entries ++ found.map m.diagnostic

/-- One step or part of an analysis is seen in another: it leads from states that are seen in each
other to such states, and the answers are seen in each other. -/
def Follows {α : Type} (image : α → α) (part part' : Resolve α) : Prop :=
  ∀ s₀ t₀ s t, m.Shows s₀ t₀ s t →
    (part' t).1 = image (part s).1 ∧ m.Shows s₀ t₀ (part s).2 (part' t).2

variable {m} {s₀ t₀ s t : State}

namespace Shows

/-- Where the analyses begin. -/
theorem start (entries : ∀ k, m.entry ⟨s.store.symbols.length + k⟩ = ⟨t.store.symbols.length + k⟩)
    (places : ∀ k, m.place (s.arena.size + k) = t.arena.size + k)
    (failure : t.failure = s.failure.map m.failure) (table : t.table = m.table s.table)
    (store : ∀ id, t.store.get? (m.entry id) = (s.store.get? id).map m.symbol) :
    m.Shows s t s t where
  entries := entries
  places := places
  failure := failure
  table := table
  store := store
  made := ⟨0, .refl s, .refl t⟩
  log := ⟨[], (List.append_nil _).symm, (List.append_nil _).symm⟩

theorem running (h : m.Shows s₀ t₀ s t) (running : s.failure = none) : t.failure = none := by
  rw [h.failure, running, Option.map_none]

theorem nextId (h : m.Shows s₀ t₀ s t) : m.entry s.nextId = t.nextId := by
  obtain ⟨made, makes, makes'⟩ := h.made
  rw [State.nextId, State.nextId, makes.1, makes'.1, h.entries]

theorem size (h : m.Shows s₀ t₀ s t) : m.place s.arena.size = t.arena.size := by
  obtain ⟨made, makes, makes'⟩ := h.made
  rw [makes.size, makes'.size, h.places]

theorem index? (h : m.Shows s₀ t₀ s t) (id : SymbolId) :
    t.store.index? (m.entry id) = (s.store.index? id).map m.place := by
  rw [Store.index?, Store.index?, h.store]
  cases s.store.get? id <;> rfl

theorem fields? (h : m.Shows s₀ t₀ s t) (id : SymbolId) :
    t.store.fields? (m.entry id) = (s.store.fields? id).map m.table := by
  rw [Store.fields?, Store.fields?, h.store]
  rcases s.store.get? id with _ | ⟨name, meaning, index⟩
  · rfl
  · cases meaning <;> rfl

theorem structOf? (h : m.Shows s₀ t₀ s t) (id : SymbolId) :
    t.structOf? (m.entry id) = (s.structOf? id).map m.word := by
  rw [State.structOf?, State.structOf?, h.store]
  rcases s.store.get? id with _ | ⟨name, meaning, index⟩
  · rfl
  · cases meaning <;> rfl

theorem tableOf (h : m.Shows s₀ t₀ s t) (target : Target) :
    t.tableOf (m.target target) = m.table (s.tableOf target) := by
  cases target with
  | scope => exact h.table
  | fields struct =>
    show (t.store.fields? (m.entry struct)).getD .root = _
    rw [h.fields?, State.tableOf]
    cases s.store.fields? struct <;> rfl

/-- An identifier gets the place of its symbol. -/
theorem attach (h : m.Shows s₀ t₀ s t) (name : Ident) (id : SymbolId) :
    (m.ident name).attach (t.store.index? (m.entry id)) =
      m.ident (name.attach (s.store.index? id)) := by
  rw [h.index?, m.ident_attach]

theorem fail (h : m.Shows s₀ t₀ s t) (failure : Failure) :
    m.Shows s₀ t₀ (s.fail failure) (t.fail (m.failure failure)) :=
  { h with failure := rfl }

theorem report (h : m.Shows s₀ t₀ s t) (name : Ident) (kind : DiagnosticKind) :
    m.Shows s₀ t₀ (s.report name kind) (t.report (m.ident name) kind) := by
  obtain ⟨found, log, log'⟩ := h.log
  refine { h with log := ⟨found ++ [Log.entry name.pos kind], ?_, ?_⟩ }
  · show s.log.entries ++ [Log.entry name.pos kind] = _
    rw [log, List.append_assoc]
  · show t.log.entries ++ [Log.entry (m.ident name).pos kind] = _
    rw [log', m.pos_ident, List.map_append, List.append_assoc]
    rfl

theorem withTable (h : m.Shows s₀ t₀ s t) (table : Table) :
    m.Shows s₀ t₀ (s.withTable table) (t.withTable (m.table table)) :=
  { h with table := rfl }

/-- Another table in the place of a target. -/
theorem store_withTableOf (h : m.Shows s₀ t₀ s t) (target : Target) (table : Table)
    (id : SymbolId) :
    (t.withTableOf (m.target target) (m.table table)).store.get? (m.entry id) =
      ((s.withTableOf target table).store.get? id).map m.symbol := by
  cases target with
  | scope => exact h.store id
  | fields struct =>
    show (t.store.setFields (m.entry struct) (m.table table)).get? (m.entry id) =
      ((s.store.setFields struct table).get? id).map m.symbol
    rw [Store.setFields, Store.setFields]
    by_cases same : id = struct
    · subst same
      rw [Store.get?_modify_self, Store.get?_modify_self, h.store]
      rcases s.store.get? id with _ | ⟨name, meaning, index⟩
      · rfl
      · cases meaning <;> rfl
    · rw [Store.get?_modify_of_ne _ _ same,
        Store.get?_modify_of_ne _ _ fun equal => same (m.entry_injective equal), h.store]

/-- A new symbol is seen in a new symbol. -/
theorem withNew (h : m.Shows s₀ t₀ s t) (target : Target) (table : Table) (name : String)
    (meaning : Meaning) :
    m.Shows s₀ t₀ (s.withNew target table name meaning)
      (t.withNew (m.target target) (m.table table) (m.word name) (m.meaning meaning)) where
  entries := h.entries
  places := h.places
  failure := by cases target <;> exact h.failure
  table := by
    cases target with
    | scope => rfl
    | fields => exact h.table
  store id := by
    have next : (s.withTableOf target table).nextId = s.nextId := State.nextId_withTableOf table
    have next' : (t.withTableOf (m.target target) (m.table table)).nextId = t.nextId :=
      State.nextId_withTableOf (m.table table)
    show (Store.make (t.withTableOf (m.target target) (m.table table)).store _).2.get? _ =
      ((Store.make (s.withTableOf target table).store _).2.get? id).map m.symbol
    rw [Store.get?_make, Store.get?_make, h.store_withTableOf, State.arena_withTableOf,
      State.arena_withTableOf, ← h.size]
    -- The identity of the new symbol is seen in that of the new symbol, and no other one is.
    have new : (m.entry id).number =
        (t.withTableOf (m.target target) (m.table table)).store.symbols.length ↔
          id.number = (s.withTableOf target table).store.symbols.length := by
      rw [show (t.withTableOf (m.target target) (m.table table)).store.symbols.length =
          (m.entry (s.withTableOf target table).nextId).number by rw [next, h.nextId, ← next']; rfl]
      refine ⟨fun same => ?_, fun same => ?_⟩
      · exact congrArg SymbolId.number
          (m.entry_injective (congrArg SymbolId.mk same : m.entry id = _))
      · exact congrArg (fun n => (m.entry ⟨n⟩).number) same
    simp only [new]
    split <;> rfl
  made := by
    obtain ⟨made, makes, makes'⟩ := h.made
    exact ⟨made + 1, makes.trans (State.makes_withNew ..), makes'.trans (State.makes_withNew ..)⟩
  log := by
    rw [State.log_withNew, State.log_withNew]
    exact h.log

end Shows

/-! ## Parts of an analysis -/

namespace Follows

variable {α β : Type} {image : α → α} {image' : β → β} {part part' : Resolve α}
  {next next' : α → Resolve β}

theorem pure (answer : α) : m.Follows image (pure answer) (pure (image answer)) :=
  fun _ _ _ _ h => ⟨rfl, h⟩

/-- One part after the other. -/
theorem bind (h : m.Follows image part part')
    (h' : ∀ answer, m.Follows image' (next answer) (next' (image answer))) :
    m.Follows image' (part >>= next) (part' >>= next') := by
  intro s₀ t₀ s t shows
  obtain ⟨answers, after⟩ := h s₀ t₀ s t shows
  rw [bind_run, bind_run, answers]
  exact h' _ s₀ t₀ _ _ after

/-- A step is taken in both analyses or in none. -/
theorem unlessFailed {otherwise : α} {step step' : State → α × State}
    (taken : ∀ s₀ t₀ s t, m.Shows s₀ t₀ s t →
      (step' t).1 = image (step s).1 ∧ m.Shows s₀ t₀ (step s).2 (step' t).2) :
    m.Follows image (unlessFailed otherwise step) (unlessFailed (image otherwise) step') := by
  intro s₀ t₀ s t shows
  cases running : s.failure with
  | none =>
    rw [unlessFailed_of_running running, unlessFailed_of_running (shows.running running)]
    exact taken s₀ t₀ s t shows
  | some failure =>
    have ended : t.failure = some (m.failure failure) := by rw [shows.failure, running]; rfl
    simp only [Resolution.unlessFailed, running, ended]
    exact ⟨trivial, shows⟩

end Follows

/-! ## Steps -/

variable (m)

theorem fail_follows (failure : Failure) :
    m.Follows id (fail failure) (fail (m.failure failure)) :=
  .unlessFailed fun _ _ _ _ shows => ⟨rfl, shows.fail failure⟩

theorem report_follows (name : Ident) (kind : DiagnosticKind) :
    m.Follows id (report name kind) (report (m.ident name) kind) :=
  .unlessFailed fun _ _ _ _ shows => ⟨rfl, shows.report name kind⟩

theorem openScope_follows : m.Follows id openScope openScope := by
  refine .unlessFailed fun s₀ t₀ s t shows => ⟨rfl, ?_⟩
  rw [shows.table]
  exact shows.withTable s.table.push

theorem closeScope_follows : m.Follows id closeScope closeScope := by
  refine .unlessFailed fun s₀ t₀ s t shows => ?_
  rw [shows.table]
  rcases s.table with ⟨_ | ⟨scope, outer⟩⟩
  · exact ⟨rfl, shows.fail (.scope .cannotPop)⟩
  · exact ⟨rfl, shows.withTable ⟨outer⟩⟩

theorem declare_follows (target : Target) (name : Ident) (meaning : Meaning) :
    m.Follows (Option.map m.entry) (declare target name meaning)
      (declare (m.target target) (m.ident name) (m.meaning meaning)) := by
  refine .unlessFailed fun s₀ t₀ s t shows => ?_
  have table' := shows.tableOf target
  rcases table : s.tableOf target with ⟨_ | ⟨scope, outer⟩⟩
  · rw [table] at table'
    rw [State.declare_of_unopened table, State.declare_of_unopened table', m.name_ident]
    exact ⟨rfl, shows.fail (.scope (.cannotDeclare name.name))⟩
  · rw [table] at table'
    have found := m.find?_scope scope name.name
    rw [← m.name_ident] at found
    cases bound : scope.find? name.name with
    | some id =>
      rw [bound] at found
      rw [State.declare_of_bound table bound, State.declare_of_bound table' found]
      exact ⟨rfl, shows.report name .duplicateName⟩
    | none =>
      rw [bound] at found
      rw [State.declare_of_free table bound, State.declare_of_free table' found, m.name_ident,
        ← shows.nextId, ← m.scope_bind]
      exact ⟨rfl, shows.withNew target ⟨scope.bind name.name s.nextId :: outer⟩ name.name meaning⟩

theorem useName_follows (name : Ident) :
    m.Follows m.ident (useName name) (useName (m.ident name)) := by
  refine .unlessFailed fun s₀ t₀ s t shows => ?_
  rw [shows.table, m.name_ident, m.lookup_table]
  rcases s.table.lookup name.name with error | _ | id
  · exact ⟨rfl, shows.fail (.scope error)⟩
  · exact ⟨rfl, shows.report name .undeclaredIdentifier⟩
  · exact ⟨shows.attach name id, shows⟩

theorem useStructName_follows (structName declared : Ident) :
    m.Follows m.ident (useStructName structName declared)
      (useStructName (m.ident structName) (m.ident declared)) := by
  refine .unlessFailed fun s₀ t₀ s t shows => ?_
  rw [shows.table, m.name_ident, m.lookup_table]
  rcases s.table.lookup structName.name with error | _ | id
  · exact ⟨rfl, shows.fail (.scope error)⟩
  · exact ⟨rfl, shows.report declared .invalidStructType⟩
  · simp only [View.answer, Option.map_some, shows.fields?, Option.isSome_map]
    split
    · exact ⟨shows.attach structName id, shows⟩
    · exact ⟨rfl, shows⟩

theorem useField_follows (structName : String) (field : Ident) :
    m.Follows m.ident (useField structName field)
      (useField (m.word structName) (m.ident field)) := by
  refine .unlessFailed fun s₀ t₀ s t shows => ?_
  rw [shows.table, m.lookup_table]
  rcases s.table.lookup structName with error | found
  · exact ⟨rfl, shows.fail (.scope error)⟩
  have fields : (found.map m.entry).bind t.store.fields? =
      (found.bind s.store.fields?).map m.table := by
    cases found with
    | none => rfl
    | some id => exact shows.fields? id
  simp only [View.answer, fields]
  rcases found.bind s.store.fields? with _ | table
  · exact ⟨rfl, shows⟩
  simp only [Option.map_some, m.name_ident, m.lookupLocal_table]
  rcases table.lookupLocal field.name with error | _ | id
  · exact ⟨rfl, shows.fail (.scope error)⟩
  · exact ⟨rfl, shows.report field .invalidFieldName⟩
  · exact ⟨shows.attach field id, shows⟩

theorem useBase_follows (base : Ident) :
    m.Follows (Prod.map m.ident (Option.map m.word)) (useBase base) (useBase (m.ident base)) := by
  refine .unlessFailed fun s₀ t₀ s t shows => ?_
  rw [shows.table, m.name_ident, m.lookupLocal_table]
  rcases s.table.lookupLocal base.name with error | _ | id
  · exact ⟨rfl, shows.fail (.scope error)⟩
  · exact ⟨rfl, shows.report base .dotAccessNonStruct⟩
  simp only [View.answer, Option.map_some, Option.bind_some, shows.structOf?]
  cases s.structOf? id with
  | none => exact ⟨rfl, shows.report base .dotAccessNonStruct⟩
  | some structName => exact ⟨congrArg (·, some (m.word structName)) (shows.attach base id), shows⟩

end Mirror

end Resolution

end Minim
