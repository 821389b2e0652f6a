import Minim.Proofs.Resolution.Links
import Minim.Proofs.Syntax.Legends
import Minim.Resolution
import Minim.Symbol.Json

/-!
# What an analysis hands on

After an analysis that starts from a consistent state, no annotation dangles. The arena as JSON
gives each symbol at its place, with fields that are found at theirs; and the printers read the
arena at places that it has.
-/

namespace Minim

open Resolution
open Json (Value)

/-! ## Parts of JSON -/

namespace Json.Value

/-- The item of an array at a place. -/
def item? : Value → Nat → Option Value
  | array items, place => items[place]?
  | _, _ => none

/-- The members of an object. -/
def members : Value → List (String × Value)
  | object members => members
  | _ => []

/-- The member of an object with a name. -/
def member? (value : Value) (name : String) : Option Value := value.members.lookup name

end Json.Value

/-- What the JSON of an arena of some size says holds of it: each entry has its place as its index,
and whatever is listed among the fields of a struct is the place of an entry with the field's name.
-/
structure Json.Value.ListsSymbols (json : Value) (size : Nat) : Prop where
  entries : ∃ items, json = .array items ∧ items.length = size
  indices : ∀ place entry, json.item? place = some entry →
    entry.member? "index" = some (.int (Int.ofNat place))
  fields : ∀ place entry, json.item? place = some entry → ∀ scopes,
    entry.member? "fields" = some scopes → ∀ level scope, scopes.item? level = some scope →
    ∀ field ∈ scope.members, ∃ (index : Nat) (entry' : Value),
      field.2 = .int (Int.ofNat index) ∧ json.item? index = some entry' ∧
        entry'.member? "name" = some (.string field.1)

/-! ## Symbols as JSON -/

/-- A symbol with its index, as an entry of an arena. -/
def Store.entryJson (store : Store) (symbol : Symbol) : Value :=
  .object (store.symbolMembers symbol ++ [("index", indexJson symbol.index)])

namespace Store

variable (store : Store) (symbol : Symbol)

theorem member?_index :
    (store.entryJson symbol).member? "index" = some (indexJson symbol.index) := by
  obtain ⟨name, meaning, index⟩ := symbol
  cases meaning <;> rfl

theorem member?_name : (store.entryJson symbol).member? "name" = some (.string symbol.name) := by
  obtain ⟨name, meaning, index⟩ := symbol
  cases meaning <;> rfl

/-- Only structs list fields. -/
theorem member?_fields {scopes : Value}
    (listed : (store.entryJson symbol).member? "fields" = some scopes) :
    ∃ fields, symbol.fields? = some fields ∧ scopes = store.tableJson fields := by
  obtain ⟨name, meaning, index⟩ := symbol
  cases meaning with
  | structDef fields => exact ⟨fields, rfl, (Option.some.inj listed).symm⟩
  | _ => cases listed

/-- What is listed in the scopes of a table is bound there. -/
theorem bound_of_tableJson {table : Table} {level : Nat} {scope : Value}
    (listed : (store.tableJson table).item? level = some scope) {field : String × Value}
    (mem : field ∈ scope.members) :
    ∃ bindings ∈ table.scopes, ∃ binding ∈ bindings,
      field = (binding.1, indexJson (store.index? binding.2)) := by
  rw [tableJson, Value.item?, List.getElem?_map, Option.map_eq_some_iff] at listed
  obtain ⟨bindings, stands, rfl⟩ := listed
  obtain ⟨binding, inside, rfl⟩ := List.mem_map.mp mem
  exact ⟨bindings, List.mem_reverse.mp (List.mem_of_getElem? stands), binding, inside, rfl⟩

end Store

namespace Resolution.State

variable {s : State}

/-- The symbol at a place of the arena. -/
def symbolAt? (s : State) (place : Int) : Option Symbol := (s.arena.get? place).bind s.store.get?

/-- The symbols of the arena of a consistent state are all known. -/
theorem Consistent.map_some_symbols (h : s.Consistent) :
    (s.arena.ids.filterMap s.store.get?).map some = s.arena.ids.map s.store.get? := by
  have known : ∀ id ∈ s.arena.ids, (s.store.get? id).isSome = true := by
    intro id mem
    obtain ⟨i, stands⟩ := List.getElem?_of_mem mem
    obtain ⟨symbol, known, -⟩ := h.places i id stands
    rw [known, Option.isSome_some]
  generalize s.arena.ids = ids at known ⊢
  induction ids with
  | nil => rfl
  | cons id ids ih =>
    obtain ⟨first, others⟩ := List.forall_mem_cons.mp known
    obtain ⟨symbol, isSymbol⟩ := Option.isSome_iff_exists.mp first
    rw [List.filterMap_cons, isSymbol, List.map_cons, List.map_cons, isSymbol, ih others]

theorem symbolAt?_natCast (s : State) (place : Nat) :
    s.symbolAt? place = s.arena.ids[place]?.bind s.store.get? := by
  rw [symbolAt?, Arena.get?, itemAt?_natCast]

/-- The entries of the arena as JSON are its symbols. -/
theorem Consistent.item?_toJson (h : s.Consistent) (place : Nat) :
    (s.arena.toJson s.store).item? place = (s.symbolAt? place).map s.store.entryJson := by
  have symbols : (s.arena.ids.filterMap s.store.get?)[place]? = s.symbolAt? place := by
    have same := congrArg (fun known : List (Option Symbol) => known[place]?.join)
      h.map_some_symbols
    simpa [symbolAt?_natCast, ← Option.bind_id_eq_join, Option.bind_map, Function.comp_def]
      using same
  rw [← symbols]
  exact List.getElem?_map ..

theorem Consistent.index_of_symbolAt? (h : s.Consistent) {place : Nat} {symbol : Symbol}
    (found : s.symbolAt? place = some symbol) : symbol.index = some place := by
  rw [symbolAt?_natCast] at found
  obtain ⟨id, stands, known⟩ := Option.bind_eq_some_iff.mp found
  obtain ⟨symbol', known', index⟩ := h.places place id stands
  cases known.symm.trans known'
  exact index

/-- The fields of a symbol in the arena are bound to entries. -/
theorem Consistent.fields_of_symbolAt? (h : s.Consistent) {place : Nat} {symbol : Symbol}
    {fields : Table} (found : s.symbolAt? place = some symbol)
    (isStruct : symbol.fields? = some fields) : s.Backs fields := by
  rw [symbolAt?_natCast] at found
  obtain ⟨id, stands, known⟩ := Option.bind_eq_some_iff.mp found
  refine h.fields id (List.mem_of_getElem? stands) fields ?_
  exact Store.fields?_eq_some.mpr ⟨symbol, known, Symbol.fields?_eq_some.mp isStruct⟩

/-- **The JSON of an arena.** Where a state is consistent, each entry is at its index, and so are
the fields that a struct lists. -/
theorem Consistent.listsSymbols (h : s.Consistent) :
    (s.arena.toJson s.store).ListsSymbols s.arena.size := by
  have symbol_of {place : Nat} {entry : Value}
      (item : (s.arena.toJson s.store).item? place = some entry) :
      ∃ symbol, s.symbolAt? place = some symbol ∧ s.store.entryJson symbol = entry := by
    rw [h.item?_toJson] at item
    exact Option.map_eq_some_iff.mp item
  constructor
  case entries =>
    have lengths := congrArg List.length h.map_some_symbols
    rw [List.length_map, List.length_map] at lengths
    exact ⟨_, rfl, (List.length_map ..).trans lengths⟩
  case indices =>
    intro place entry item
    obtain ⟨symbol, found, rfl⟩ := symbol_of item
    rw [Store.member?_index, h.index_of_symbolAt? found]
    rfl
  case fields =>
    intro place entry item scopes listed level scope stands field mem
    obtain ⟨symbol, found, rfl⟩ := symbol_of item
    obtain ⟨fields, isStruct, rfl⟩ := Store.member?_fields _ _ listed
    obtain ⟨bindings, inside, binding, bound, rfl⟩ := Store.bound_of_tableJson _ stands mem
    obtain ⟨index, symbol', stands', known', name', index'⟩ :=
      h.fields_of_symbolAt? found isStruct bindings inside binding bound
    refine ⟨index, s.store.entryJson symbol', ?_, ?_, ?_⟩
    · rw [Store.index?, known', Option.bind_some, index']
      rfl
    · rw [h.item?_toJson, symbolAt?_natCast, stands', Option.bind_some, known', Option.map_some]
    · rw [Store.member?_name, name']

end Resolution.State

/-! ## Programs -/

/-- A program whose annotations do not dangle in a state: each has the place of a symbol that is
called what the identifier is called, and that is what the identifier is there for. -/
structure Program.LinkedIn (T : Program) (s : State) : Prop where
  consistent : s.Consistent
  /-- The identifiers with their roles are all identifiers. -/
  identifiers : T.namings.map Naming.name = (Node.program T).identifiers
  links : ∀ n ∈ T.namings, ∀ place, n.name.symbol = some place →
    0 ≤ place ∧ place < s.arena.size ∧ ∃ symbol, s.symbolAt? place = some symbol ∧
      symbol.name = n.name.name ∧ n.role.Fits symbol.meaning
  symbols : (s.arena.toJson s.store).ListsSymbols s.arena.size
  /-- No place is missing for source text and graphs, nor for dumps. -/
  covered : s.arena.covers ((Node.program T).identifiers.map Ident.symbol) = true ∧
    s.arena.covers ((Node.program T).uses.map Ident.symbol) = true
  /-- The printers read the texts of the symbols in the arena, and nothing beyond it. -/
  within : ∀ text : Int → String,
    (∀ place : Nat, place < s.arena.size → text place = s.arena.textAt s.store place) →
    (Node.program T).source (some text) = (Node.program T).source s.legend ∧
      (∀ indent label, (Node.program T).dumpText (some text) indent label =
        (Node.program T).dumpText s.legend indent label) ∧
      Graph.dot (some text) (.program T) = Graph.dot s.legend (.program T)

namespace Resolution.State

/-- What a link says, by places alone. -/
theorem Links.symbolAt? {s : State} {n : Naming} (h : s.Links n) {place : Int}
    (annotated : n.name.symbol = some place) :
    0 ≤ place ∧ place < s.arena.size ∧ ∃ symbol, s.symbolAt? place = some symbol ∧
      symbol.name = n.name.name ∧ n.role.Fits symbol.meaning := by
  obtain ⟨i, id, symbol, rfl, stands, known, sameName, fits⟩ := h place annotated
  obtain ⟨small, -⟩ := List.getElem?_eq_some_iff.mp stands
  refine ⟨Int.natCast_nonneg i, Int.ofNat_lt.mpr small, symbol, ?_, sameName, fits⟩
  rw [symbolAt?_natCast, stands, Option.bind_some, known]

end Resolution.State

/-- An arena has the places of annotations that lead to symbols. -/
theorem Arena.covers_of_places {arena : Arena} {names : List Ident}
    (places : ∀ name ∈ names, ∀ place, name.symbol = some place → 0 ≤ place ∧ place < arena.size) :
    arena.covers (names.map Ident.symbol) = true := by
  rw [Arena.covers, List.all_map, List.all_eq_true]
  intro name mem
  rw [Function.comp_apply, Option.all_eq_true]
  intro place annotated
  obtain ⟨nonneg, small⟩ := places name mem place annotated
  rw [Arena.get?, itemAt?_isSome]
  rw [Arena.size] at small
  omega

theorem Program.linkedIn_of_links {T : Program} {s : State} (consistent : s.Consistent)
    (links : ∀ n ∈ T.namings, s.Links n) : T.LinkedIn s := by
  have places : ∀ name ∈ (Node.program T).identifiers, ∀ place, name.symbol = some place →
      0 ≤ place ∧ place < s.arena.size := by
    intro name mem place annotated
    rw [T.identifiers_eq, ← T.map_namings] at mem
    obtain ⟨n, naming, rfl⟩ := List.mem_map.mp mem
    obtain ⟨nonneg, small, -⟩ := (links n naming).symbolAt? annotated
    exact ⟨nonneg, small⟩
  have uses : (Node.program T).uses ⊆ (Node.program T).identifiers :=
    T.identifiers_eq ▸ (Decl.usesAll_sublist T.decls).subset
  constructor
  case consistent => exact consistent
  case identifiers => rw [T.identifiers_eq, T.map_namings]
  case links => exact fun n mem place annotated => (links n mem).symbolAt? annotated
  case symbols => exact consistent.listsSymbols
  case covered =>
    exact ⟨Arena.covers_of_places places,
      Arena.covers_of_places fun name mem => places name (uses mem)⟩
  case within =>
    intro text same
    have sameOn : Legend.SameOn (some text) s.legend (Node.program T).identifiers := by
      refine .of_texts fun name mem place annotated => ?_
      obtain ⟨nonneg, small⟩ := places name mem place annotated
      obtain ⟨i, rfl⟩ := Int.eq_ofNat_of_zero_le nonneg
      exact same i (Int.ofNat_lt.mp small)
    refine ⟨T.source_congr (T.identifiers_eq ▸ sameOn), fun indent label => ?_,
      Graph.dot_congr _ sameOn⟩
    exact congrArg ("\n".intercalate ·) (T.dump_congr (sameOn.mono uses) indent label)

/-- **Annotations do not dangle.** The analysis of a program without annotations, from a consistent
state, ends in a consistent state in which each annotation leads to its symbol. -/
theorem resolve_linkedIn (T : Program) (s : State) (start : s.Consistent)
    (unannotated : ∀ name ∈ (Node.program T).identifiers, name.symbol = none) :
    (T.resolve s).1.LinkedIn (T.resolve s).2 := by
  have leads := T.resolve_leads s
  refine Program.linkedIn_of_links (leads.consistent start) (leads.links start fun n mem => ?_)
  refine State.links_of_unannotated (unannotated n.name ?_)
  rw [T.identifiers_eq, ← T.map_namings]
  exact List.mem_map_of_mem mem

/-- A state with one variable `g` that was put into the arena and the outermost scope beforehand. -/
def seededState : State :=
  (State.record {} "g" (.var .int)).withTable ⟨[[("g", ⟨0⟩)]]⟩

theorem consistent_seededState : seededState.Consistent :=
  State.consistent_fresh.seed rfl (by rintro _ ⟨⟩)

/-- A struct `P` with a field `x`, and a function that assigns `g` to the field of a `struct P p`.
-/
def accessProgram : Program :=
  let name (word : String) : Ident := { value := .text word }
  { decls :=
      [.struct {} (name "P") {} [.var {} (.int {}) (name "x")],
        .func {} (.void {}) (name "main") {} {}
          (.mk {} [.var {} (.struct {} (name "P")) (name "p")] {}
            [.assign {}
              { target := .dot {} (.ident (name "p")) (name "x"), value := .ident (name "g") }])] }

theorem resolve_linkedIn_of_accessProgram :
    seededState.Consistent ∧
      (∀ name ∈ (Node.program accessProgram).identifiers, name.symbol = none) ∧
      (accessProgram.resolve seededState).1.LinkedIn (accessProgram.resolve seededState).2 ∧
      (Node.program (accessProgram.resolve seededState).1).identifiers.map Ident.symbol =
        [none, none, none, some 1, none, some 4, some 2, some 0] :=
  have unannotated : ∀ name ∈ (Node.program accessProgram).identifiers, name.symbol = none := by
    decide
  ⟨consistent_seededState, unannotated,
    resolve_linkedIn accessProgram seededState consistent_seededState unannotated, by decide⟩

end Minim
