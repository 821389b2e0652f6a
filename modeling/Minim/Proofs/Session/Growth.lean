import Minim.Proofs.Resolution.Moves
import Minim.Registry
import Minim.Session

/-!
# Sessions only grow

Resolvers share tables, arenas and logs, and besides the steps of a session the symbols and tables
can be handled one operation at a time, also tables of fields and symbols that another resolver has
made. However these are mixed, and whatever is refused on the way, the arenas and the logs only grow
at their ends. A symbol is at one place of one arena at most, and it knows the place; so the place
goes on denoting it.
-/

namespace Minim

open Resolution

namespace Session

/-! ## Operations on parts -/

/-- The table kept at a place. -/
def tableAt? (s : Session) : TableRef → Option Table
  | .own number => s.tables[number]?
  | .fields struct => s.store.fields? struct

/-- The session with another table at a place. -/
def setTableAt (s : Session) (ref : TableRef) (table : Table) : Session :=
  match ref with
  | .own number => { s with tables := s.tables.set number table }
  | .fields struct => { s with store := s.store.setFields struct table }

/-- What can be done with a session: a step is taken, a symbol is made, put into the arena of a
resolver or bound to a name in a table, a scope is opened or closed in a table, or a name is looked
up. -/
inductive Act
  | step (step : Step)
  | make (name : String) (meaning : Meaning)
  | add (resolver : Int) (id : SymbolId)
  | bind (ref : TableRef) (name : String) (id : SymbolId)
  | push (ref : TableRef)
  | pop (ref : TableRef)
  | lookupLocal (ref : TableRef) (name : String)
  | lookup (ref : TableRef) (name : String)

/-- What an act answers. -/
inductive Reply
  | step (answer : Answer)
  | done
  | symbol (id : SymbolId)
  | place (index : Nat)
  | found (id : Option SymbolId)

/-- Make a symbol that is in no arena and no table. -/
def make (s : Session) (name : String) (meaning : Meaning) : Except Refusal (Reply × Session) :=
  match Symbol.ofMeaning? name meaning with
  | .error error => .error (.symbol error)
  | .ok symbol =>
    let (id, store) := s.store.make symbol
    .ok (.symbol id, { s with store })

/-- Put a symbol into the arena of a resolver. -/
def add (s : Session) (number : Int) (id : SymbolId) : Except Refusal (Reply × Session) :=
  match s.resolver number, s.store.get? id with
  | .error refusal, _ => .error refusal
  | .ok _, none => .error .noSuchPlace
  | .ok resolver, some _ =>
    let state := s.load resolver
    match state.arena.add state.store id with
    | .error error => .error (.symbol error)
    | .ok (arena, store) =>
      .ok (.place state.arena.size, s.save resolver { state with arena, store })

/-- Change the table at a place. -/
def changeTableAt (s : Session) (ref : TableRef) (change : Table → Except ScopeError Table) :
    Except Refusal (Reply × Session) :=
  match s.tableAt? ref with
  | none => .error .noSuchPlace
  | some table =>
    match change table with
    | .error error => .error (.scope error)
    | .ok table => .ok (.done, s.setTableAt ref table)

/-- Ask the table at a place. -/
def askTableAt (s : Session) (ref : TableRef)
    (ask : Table → Except ScopeError (Option SymbolId)) : Except Refusal Reply :=
  match s.tableAt? ref with
  | none => .error .noSuchPlace
  | some table => ((ask table).mapError .scope).map .found

/-- Act on a session. -/
def act (s : Session) : Act → Except Refusal Reply × Session
  | .step step => ((s.step step).1.map .step, (s.step step).2)
  | .make name meaning => s.attempt (s.make name meaning)
  | .add resolver id => s.attempt (s.add resolver id)
  | .bind ref name id => s.attempt (s.changeTableAt ref (·.declare name id))
  | .push ref => s.attempt (s.changeTableAt ref (.ok ·.push))
  | .pop ref => s.attempt (s.changeTableAt ref ScopeStack.pop)
  | .lookupLocal ref name => (s.askTableAt ref (·.lookupLocal name), s)
  | .lookup ref name => (s.askTableAt ref (·.lookup name), s)

/-- The session after some acts. -/
def run (s : Session) (acts : List Act) : Session := acts.foldl (fun s act => (s.act act).2) s

/-! ## Places -/

/-- The symbol at a place of an arena. -/
def entryAt? (s : Session) (number place : Nat) : Option SymbolId :=
  s.arenas[number]?.bind (·.ids[place]?)

/-- The symbols in the arenas know their places, and none of them has two. -/
structure Placed (s : Session) : Prop where
  indices : ∀ number place id, s.entryAt? number place = some id →
    s.store.index? id = some place
  once : ∀ number number' place place' id, s.entryAt? number place = some id →
    s.entryAt? number' place' = some id → number' = number ∧ place' = place

/-- From one session to another the arenas and the logs are at most extended at their ends. The
symbols keep their names, their places and what they are, the fields of structs apart. -/
structure Grows (s s' : Session) : Prop where
  arenas : ∀ (number : Nat) arena, s.arenas[number]? = some arena →
    ∃ arena', s'.arenas[number]? = some arena' ∧ arena.ids <+: arena'.ids
  logs : ∀ (number : Nat) log, s.logs[number]? = some log →
    ∃ log', s'.logs[number]? = some log' ∧ log.entries <+: log'.entries
  symbols : ∀ id symbol, s.store.get? id = some symbol → ∃ symbol',
    s'.store.get? id = some symbol' ∧ symbol'.name = symbol.name ∧
      symbol'.meaning.outline = symbol.meaning.outline
  indices : ∀ id place, s.store.index? id = some place → s'.store.index? id = some place

theorem placed_fresh : Placed {} where
  indices := nofun
  once := nofun

namespace Grows

variable {s s' s'' : Session}

theorem refl (s : Session) : Grows s s where
  arenas _ arena stands := ⟨arena, stands, List.prefix_refl _⟩
  logs _ log stands := ⟨log, stands, List.prefix_refl _⟩
  symbols _ symbol known := ⟨symbol, known, rfl, rfl⟩
  indices _ _ index := index

theorem trans (h : Grows s s') (h' : Grows s' s'') : Grows s s'' where
  arenas number arena stands := by
    obtain ⟨arena', stands', more⟩ := h.arenas number arena stands
    obtain ⟨arena'', stands'', more'⟩ := h'.arenas number arena' stands'
    exact ⟨arena'', stands'', more.trans more'⟩
  logs number log stands := by
    obtain ⟨log', stands', more⟩ := h.logs number log stands
    obtain ⟨log'', stands'', more'⟩ := h'.logs number log' stands'
    exact ⟨log'', stands'', more.trans more'⟩
  symbols id symbol known := by
    obtain ⟨symbol', known', name', meaning'⟩ := h.symbols id symbol known
    obtain ⟨symbol'', known'', name'', meaning''⟩ := h'.symbols id symbol' known'
    exact ⟨symbol'', known'', name''.trans name', meaning''.trans meaning'⟩
  indices id place index := h'.indices id place (h.indices id place index)

/-- A place goes on denoting its symbol. -/
theorem entryAt? (h : Grows s s') {number place : Nat} {id : SymbolId}
    (stands : s.entryAt? number place = some id) : s'.entryAt? number place = some id := by
  obtain ⟨arena, isArena, stands⟩ := Option.bind_eq_some_iff.mp stands
  obtain ⟨arena', isArena', more, same⟩ := h.arenas number arena isArena
  obtain ⟨small, -⟩ := List.getElem?_eq_some_iff.mp stands
  refine Option.bind_eq_some_iff.mpr ⟨arena', isArena', ?_⟩
  rw [← same, List.getElem?_append_left small, stands]

end Grows

/-! ## The parts of a resolver -/

variable {s : Session} {resolver : Resolver} {state : State}

theorem arena_load {arena : Arena} (stands : s.arenas[resolver.arena]? = some arena) :
    (s.load resolver).arena = arena := by
  show s.arenas.getD resolver.arena {} = arena
  rw [List.getD_eq_getElem?_getD, stands, Option.getD_some]

theorem log_load {log : Log} (stands : s.logs[resolver.log]? = some log) :
    (s.load resolver).log = log := by
  show s.logs.getD resolver.log {} = log
  rw [List.getD_eq_getElem?_getD, stands, Option.getD_some]

theorem entryAt?_load (inRange : resolver.arena < s.arenas.length) (place : Nat) :
    s.entryAt? resolver.arena place = (s.load resolver).arena.ids[place]? := by
  have stands := List.getElem?_eq_getElem inRange
  rw [entryAt?, stands, arena_load stands, Option.bind_some]

theorem entryAt?_save_self (inRange : resolver.arena < s.arenas.length) (place : Nat) :
    (s.save resolver state).entryAt? resolver.arena place = state.arena.ids[place]? := by
  rw [entryAt?, save, List.getElem?_set_self inRange]
  rfl

/-- An arena that is not the resolver's, or that the session does not have, stays. -/
theorem entryAt?_save_other {number : Nat}
    (other : resolver.arena = number → ¬ number < s.arenas.length) (place : Nat) :
    (s.save resolver state).entryAt? number place = s.entryAt? number place := by
  show (s.arenas.set resolver.arena state.arena)[number]?.bind (·.ids[place]?) = _
  by_cases same : resolver.arena = number
  · rw [List.set_eq_of_length_le (same ▸ Nat.not_lt.mp (other same))]
    rfl
  · rw [List.getElem?_set_ne same]
    rfl

/-- What is in an arena after the resolver's parts were saved was in it before, or it is new in the
resolver's arena. -/
theorem entryAt?_save {number place : Nat} {id : SymbolId}
    (appends : (s.load resolver).Appends state)
    (stands : (s.save resolver state).entryAt? number place = some id) :
    s.entryAt? number place = some id ∨
      number = resolver.arena ∧ s.store.index? id = none ∧ state.store.index? id = some place := by
  by_cases own : resolver.arena = number ∧ number < s.arenas.length
  · obtain ⟨rfl, inRange⟩ := own
    rw [entryAt?_save_self inRange] at stands
    rw [entryAt?_load inRange]
    by_cases early : place < (s.load resolver).arena.ids.length
    · obtain ⟨more, same⟩ := appends.arena
      rw [← same, List.getElem?_append_left early] at stands
      exact .inl stands
    · exact .inr ⟨rfl, appends.new place id (Nat.not_lt.mp early) stands⟩
  · rw [entryAt?_save_other (fun same inRange => own ⟨same, inRange⟩)] at stands
    exact .inl stands

/-- A symbol that has no place is in no arena. -/
theorem Placed.not_mem (h : s.Placed) {number place : Nat} {id : SymbolId}
    (free : s.store.index? id = none) : s.entryAt? number place ≠ some id := by
  intro stands
  cases free.symm.trans (h.indices number place id stands)

/-- A resolver that appends to its parts keeps the symbols placed. -/
theorem Placed.save (h : s.Placed) (appends : (s.load resolver).Appends state) :
    (s.save resolver state).Placed where
  indices number place id stands := by
    rcases entryAt?_save appends stands with old | ⟨-, -, index⟩
    · exact appends.indices id place (h.indices number place id old)
    · exact index
  once number number' place place' id stands stands' := by
    rcases entryAt?_save appends stands with old | ⟨rfl, free, index⟩ <;>
      rcases entryAt?_save appends stands' with old' | ⟨rfl, free', index'⟩
    · exact h.once number number' place place' id old old'
    · exact (h.not_mem free' old).elim
    · exact (h.not_mem free old').elim
    · exact ⟨rfl, Option.some.inj (index'.symm.trans index)⟩

theorem Grows.save (appends : (s.load resolver).Appends state) :
    s.Grows (s.save resolver state) where
  arenas number arena stands := by
    obtain ⟨inRange, -⟩ := List.getElem?_eq_some_iff.mp stands
    by_cases own : resolver.arena = number
    · subst own
      exact ⟨state.arena, List.getElem?_set_self inRange, arena_load stands ▸ appends.arena⟩
    · exact ⟨arena, (List.getElem?_set_ne own).trans stands, List.prefix_refl _⟩
  logs number log stands := by
    obtain ⟨inRange, -⟩ := List.getElem?_eq_some_iff.mp stands
    by_cases own : resolver.log = number
    · subst own
      exact ⟨state.log, List.getElem?_set_self inRange, log_load stands ▸ appends.log⟩
    · exact ⟨log, (List.getElem?_set_ne own).trans stands, List.prefix_refl _⟩
  symbols := appends.symbols
  indices := appends.indices

/-- The symbols stay placed, and the session grows. -/
def Keeps (s s' : Session) : Prop := s.Placed → s'.Placed ∧ s.Grows s'

theorem keeps_refl (s : Session) : s.Keeps s :=
  fun placed => ⟨placed, .refl s⟩

theorem keeps_save (appends : (s.load resolver).Appends state) :
    s.Keeps (s.save resolver state) :=
  fun placed => ⟨placed.save appends, .save appends⟩

/-- Tables, resolvers and trees do not matter, and an arena without symbols neither. -/
theorem keeps_of_store {s' : Session}
    (symbols : ∀ id symbol, s.store.get? id = some symbol → ∃ symbol',
      s'.store.get? id = some symbol' ∧ symbol'.name = symbol.name ∧
        symbol'.meaning.outline = symbol.meaning.outline ∧ symbol'.index = symbol.index)
    (arenas : s.arenas <+: s'.arenas)
    (empty : ∀ number place, s'.entryAt? number place = s.entryAt? number place)
    (logs : s.logs <+: s'.logs) : s.Keeps s' := by
  have kept : ∀ id place, s.store.index? id = some place → s'.store.index? id = some place := by
    intro id place index
    obtain ⟨symbol, known, index⟩ := Option.bind_eq_some_iff.mp index
    obtain ⟨symbol', known', -, -, index'⟩ := symbols id symbol known
    exact Option.bind_eq_some_iff.mpr ⟨symbol', known', index'.trans index⟩
  have stays {α : Type} {xs ys : List α} (more : xs <+: ys) {n : Nat} {x : α}
      (stands : xs[n]? = some x) : ys[n]? = some x := by
    obtain ⟨rest, rfl⟩ := more
    obtain ⟨small, -⟩ := List.getElem?_eq_some_iff.mp stands
    rw [List.getElem?_append_left small, stands]
  refine fun placed => ⟨⟨fun number place id stands => ?_, ?_⟩, ?_⟩
  · rw [empty] at stands
    exact kept id place (placed.indices number place id stands)
  · intro number number' place place' id stands stands'
    rw [empty] at stands stands'
    exact placed.once number number' place place' id stands stands'
  · refine ⟨fun number arena stands => ⟨arena, stays arenas stands, List.prefix_refl _⟩,
      fun number log stands => ⟨log, stays logs stands, List.prefix_refl _⟩, ?_, kept⟩
    intro id symbol known
    obtain ⟨symbol', known', name, meaning, -⟩ := symbols id symbol known
    exact ⟨symbol', known', name, meaning⟩

/-- Nothing but the store is changed, and no symbol but in the fields of a struct. -/
theorem keeps_withStore {store : Store}
    (symbols : ∀ id symbol, s.store.get? id = some symbol → ∃ symbol',
      store.get? id = some symbol' ∧ symbol'.name = symbol.name ∧
        symbol'.meaning.outline = symbol.meaning.outline ∧ symbol'.index = symbol.index) :
    s.Keeps { s with store } :=
  keeps_of_store symbols (List.prefix_refl _) (fun _ _ => rfl) (List.prefix_refl _)

/-- Nothing but tables, resolvers and trees is changed. -/
theorem keeps_of_parts {s' : Session} (store : s'.store = s.store) (arenas : s'.arenas = s.arenas)
    (logs : s'.logs = s.logs) : s.Keeps s' :=
  keeps_of_store (fun _ symbol known => ⟨symbol, store ▸ known, rfl, rfl, rfl⟩)
    (arenas ▸ List.prefix_refl _) (fun _ _ => by rw [entryAt?, entryAt?, arenas])
    (logs ▸ List.prefix_refl _)

/-- What changes nothing if it is refused keeps what it keeps if it is not. -/
theorem keeps_attempt {α : Type} {outcome : Except Refusal (α × Session)}
    (taken : ∀ answer after, outcome = .ok (answer, after) → s.Keeps after) :
    s.Keeps (s.attempt outcome).2 := by
  cases outcome with
  | error refusal => exact keeps_refl s
  | ok answer => exact taken answer.1 answer.2 rfl

theorem Keeps.trans {s s' s'' : Session} (h : s.Keeps s') (h' : s'.Keeps s'') : s.Keeps s'' := by
  intro placed
  obtain ⟨placed', grows⟩ := h placed
  obtain ⟨placed'', grows'⟩ := h' placed'
  exact ⟨placed'', grows.trans grows'⟩

/-! ## Steps -/

theorem exists_of_bind {α β : Type} {first : Except Refusal α} {next : α → Except Refusal β} {b : β}
    (taken : (first >>= next) = .ok b) : ∃ a, first = .ok a ∧ next a = .ok b := by
  cases first with
  | error refusal => cases taken
  | ok a => exact ⟨a, rfl, taken⟩

theorem exists_of_map {α β : Type} {outcome : Except Refusal α} {f : α → β} {b : β}
    (taken : outcome.map f = .ok b) : ∃ a, outcome = .ok a ∧ f a = b := by
  cases outcome with
  | error refusal => cases taken
  | ok a => exact ⟨a, rfl, Except.ok.inj taken⟩

theorem error_of_map {α β : Type} {outcome : Except Refusal α} {f : α → β} {refusal : Refusal}
    (refused : outcome.map f = .error refusal) : outcome = .error refusal := by
  cases outcome with
  | error refusal' => exact congrArg Except.error (Except.error.inj refused)
  | ok a => cases refused

theorem keeps_addTree (tree : Node) : s.Keeps (s.addTree tree).2 :=
  keeps_of_parts rfl rfl rfl

/-- A new arena has no symbols, and the others stay. -/
theorem keeps_addResolver {tableOf arenaOf logOf : Option Int} {answer : Answer} {after : Session}
    (added : s.addResolver tableOf arenaOf logOf = .ok (answer, after)) : s.Keeps after := by
  obtain ⟨table, -, added⟩ := exists_of_bind added
  obtain ⟨arena, -, added⟩ := exists_of_bind added
  obtain ⟨log, -, added⟩ := exists_of_bind added
  cases added
  have grown {α : Type} (n : Nat) (xs : List α) (x : α) :
      xs <+: if n = xs.length then xs ++ [x] else xs := by
    split
    · exact List.prefix_append xs [x]
    · exact List.prefix_refl xs
  refine keeps_of_store (fun _ symbol known => ⟨symbol, known, rfl, rfl, rfl⟩) (grown ..)
    (fun number place => ?_) (grown ..)
  rw [entryAt?, entryAt?]
  dsimp only
  split
  · rw [List.getElem?_append]
    split
    · rfl
    · rename_i outside
      rw [List.getElem?_eq_none (Nat.not_lt.mp outside), List.getElem?_singleton]
      split <;> rfl
  · rfl

theorem keeps_changeTable {number : Int} {change : Table → Except ScopeError Table}
    {after : Session} (changed : s.changeTable number change = .ok after) : s.Keeps after := by
  obtain ⟨resolver, -, changed⟩ := exists_of_bind changed
  obtain ⟨table, -, changed⟩ := exists_of_bind changed
  cases changed
  exact keeps_save (.of_store rfl rfl (List.prefix_refl _))

theorem keeps_declare (number : Int) (name : String) (meaning : Meaning) :
    s.Keeps (s.declare number name meaning).2 := by
  rw [declare]
  split
  · exact keeps_refl s
  · exact keeps_refl s
  · -- The arena keeps the symbol if the table refuses it.
    rename_i resolver symbol _ _
    have recorded := State.Appends.withNew (s := s.load resolver) .scope (s.load resolver).table
      symbol.name symbol.meaning
    dsimp only
    split
    · exact keeps_save recorded
    · exact keeps_save (recorded.trans (.of_store rfl rfl (List.prefix_refl _)))

theorem keeps_resolve (number tree : Int) : s.Keeps (s.resolve number tree).2 := by
  rw [resolve]
  split
  · exact keeps_refl s
  · exact keeps_refl s
  · rename_i resolver place node _ _
    have kept := keeps_save (node.resolve_moves (s.load resolver)).appends
    generalize node.resolve (s.load resolver) = outcome at kept ⊢
    obtain ⟨node, state⟩ := outcome
    dsimp only
    split <;> exact kept.trans (keeps_of_parts rfl rfl rfl)

/-- **Steps.** Every step of a session, refused or not, keeps the symbols placed, and the session
grows. -/
theorem keeps_step (step : Step) : s.Keeps (s.step step).2 := by
  cases step with
  | read phrase text =>
    refine keeps_attempt fun answer after taken => ?_
    obtain ⟨tree, -, same⟩ := exists_of_map taken
    cases same
    exact keeps_addTree tree
  | build tree => exact keeps_addTree tree
  | makeResolver tableOf arenaOf logOf => exact keeps_attempt fun _ _ => keeps_addResolver
  | push resolver | pop resolver =>
    refine keeps_attempt fun answer after taken => ?_
    obtain ⟨after', changed, same⟩ := exists_of_map taken
    cases same
    exact keeps_changeTable changed
  | declare resolver name meaning => exact keeps_declare resolver name meaning
  | resolve resolver tree => exact keeps_resolve resolver tree
  | source | dump | identifiers | symbols => exact keeps_refl s

/-! ## Acts -/

theorem keeps_make {name : String} {meaning : Meaning} {reply : Reply} {after : Session}
    (made : s.make name meaning = .ok (reply, after)) : s.Keeps after := by
  rw [make] at made
  split at made
  · cases made
  · rename_i symbol _
    cases made
    refine keeps_withStore fun id old known => ⟨old, ?_, rfl, rfl, rfl⟩
    obtain ⟨small, -⟩ := List.getElem?_eq_some_iff.mp known
    exact (Store.get?_make_of_lt s.store symbol small).trans known

/-- A symbol that is put into an arena gets its place there, and no other symbol is changed. -/
theorem appends_add {t : State} {id : SymbolId} {arena : Arena} {store : Store}
    (isMade : t.store.get? id ≠ none) (added : t.arena.add t.store id = .ok (arena, store)) :
    t.Appends { t with arena, store } := by
  obtain ⟨made, isMade⟩ := Option.ne_none_iff_exists'.mp isMade
  rw [Arena.add] at added
  split at added
  · cases added
  · rename_i free
    cases added
    have changed (other : SymbolId) (symbol : Symbol) (known : t.store.get? other = some symbol) :
        ∃ symbol', (t.store.modify id ({ · with index := some t.arena.size })).get? other =
          some symbol' ∧ symbol'.name = symbol.name ∧
            symbol'.meaning.outline = symbol.meaning.outline ∧
            (other ≠ id → symbol'.index = symbol.index) := by
      by_cases same : other = id
      · subst same
        rw [Store.get?_modify_self, known]
        exact ⟨_, rfl, rfl, rfl, fun other => (other rfl).elim⟩
      · rw [Store.get?_modify_of_ne _ _ same]
        exact ⟨symbol, known, rfl, rfl, fun _ => rfl⟩
    refine ⟨List.prefix_refl _, List.prefix_append .., fun other symbol known => ?_,
      fun other i index => ?_, fun i other outside stands => ?_⟩
    · obtain ⟨symbol', known', name, meaning, -⟩ := changed other symbol known
      exact ⟨symbol', known', name, meaning⟩
    · obtain ⟨symbol, known, index'⟩ := Option.bind_eq_some_iff.mp index
      obtain ⟨symbol', known', -, -, kept⟩ := changed other symbol known
      have different : other ≠ id := by
        rintro rfl
        cases free.symm.trans index
      exact Option.bind_eq_some_iff.mpr ⟨symbol', known', (kept different).trans index'⟩
    · obtain ⟨small, -⟩ := List.getElem?_eq_some_iff.mp stands
      rw [List.length_append, List.length_singleton] at small
      obtain rfl : i = t.arena.ids.length := by omega
      rw [List.getElem?_concat_length] at stands
      cases stands
      refine ⟨free, ?_⟩
      rw [Store.index?, Store.get?_modify_self, isMade]
      rfl

theorem keeps_add {number : Int} {id : SymbolId} {reply : Reply} {after : Session}
    (added : s.add number id = .ok (reply, after)) : s.Keeps after := by
  rw [add] at added
  split at added
  · cases added
  · cases added
  · rename_i resolver symbol _ known
    dsimp only at added
    split at added
    · cases added
    · rename_i stored
      cases added
      exact keeps_save (appends_add (known ▸ Option.some_ne_none symbol) stored)

theorem keeps_setTableAt (ref : TableRef) (table : Table) : s.Keeps (s.setTableAt ref table) := by
  cases ref with
  | own number => exact keeps_of_parts rfl rfl rfl
  | fields struct =>
    refine keeps_withStore fun id symbol known => ?_
    obtain ⟨symbol', known', rfl | ⟨-, fields, isStruct, rfl⟩⟩ :=
      Store.get?_setFields known struct table
    · exact ⟨symbol', known', rfl, rfl, rfl⟩
    · refine ⟨_, known', rfl, ?_, rfl⟩
      rw [isStruct]
      rfl

theorem keeps_changeTableAt {ref : TableRef} {change : Table → Except ScopeError Table}
    {reply : Reply} {after : Session}
    (changed : s.changeTableAt ref change = .ok (reply, after)) : s.Keeps after := by
  rw [changeTableAt] at changed
  split at changed
  · cases changed
  · split at changed
    · cases changed
    · cases changed
      exact keeps_setTableAt ref _

/-- **Acts.** Every act, refused or not, keeps the symbols placed, and the session grows. -/
theorem keeps_act (act : Act) : s.Keeps (s.act act).2 := by
  cases act with
  | step step => exact keeps_step step
  | make name meaning => exact keeps_attempt fun _ _ => keeps_make
  | add resolver id => exact keeps_attempt fun _ _ => keeps_add
  | bind | push | pop => exact keeps_attempt fun _ _ => keeps_changeTableAt
  | lookupLocal | lookup => exact keeps_refl s

theorem keeps_run (acts : List Act) : s.Keeps (s.run acts) := by
  induction acts generalizing s with
  | nil => exact keeps_refl s
  | cons act acts ih => exact (keeps_act act).trans ih

/-! ## Refusals -/

/-- What a refused act leaves of a session. An analysis leaves what it has come to, and what was
refused there has changed none of it. A declaration leaves its symbol in the arena if only the table
refuses the name, and then it leaves the tables. -/
def Act.Leaves (s : Session) (refusal : Refusal) (s' : Session) : Act → Prop
  | .step (.resolve number tree) => s' = s ∨ ∃ resolver place node failure u,
      s.resolver number = .ok resolver ∧ s.treeAt tree = .ok (place, node) ∧
        refusal = .resolution failure ∧ (s.load resolver).Moves u ∧ u.Refuses failure ∧
        s' = { s.save resolver u with
          trees := s.trees.set place (node.resolve (s.load resolver)).1 }
  | .step (.declare _ name _) => s' = s ∨ ∃ resolver id error,
      s'.tables = s.tables ∧ refusal = .scope error ∧
        (s.load resolver).table.declare name id = .error error
  | _ => s' = s

theorem attempt_of_refused {α : Type} {outcome : Except Refusal (α × Session)} {refusal : Refusal}
    (refused : (s.attempt outcome).1 = .error refusal) : (s.attempt outcome).2 = s := by
  cases outcome with
  | error => rfl
  | ok => cases refused

/-- A resolver that leaves its table leaves all tables. -/
theorem tables_save (same : state.table = (s.load resolver).table) :
    (s.save resolver state).tables = s.tables := by
  show s.tables.set resolver.table state.table = s.tables
  rw [same]
  by_cases inRange : resolver.table < s.tables.length
  · have loaded : (s.load resolver).table = s.tables[resolver.table] := by
      show s.tables.getD resolver.table .root = _
      rw [List.getD_eq_getElem?_getD, List.getElem?_eq_getElem inRange, Option.getD_some]
    rw [loaded, List.set_getElem_self]
  · exact List.set_eq_of_length_le (Nat.not_lt.mp inRange)

theorem leaves_declare {number : Int} {name : String} {meaning : Meaning} {refusal : Refusal}
    (refused : (s.declare number name meaning).1 = .error refusal) :
    (Act.step (.declare number name meaning)).Leaves s refusal
      (s.declare number name meaning).2 := by
  rw [declare] at refused ⊢
  split at refused
  · exact .inl rfl
  · exact .inl rfl
  · rename_i resolver symbol _ _
    dsimp only at refused ⊢
    split at refused
    · rename_i error rejected
      cases refused
      have rejected' : (s.load resolver).table.declare name (s.load resolver).nextId =
        .error error := rejected
      exact .inr ⟨resolver, _, error, tables_save rfl, rfl, rejected'⟩
    · cases refused

theorem leaves_resolve {number tree : Int} {refusal : Refusal}
    (refused : (s.resolve number tree).1 = .error refusal) :
    (Act.step (.resolve number tree)).Leaves s refusal (s.resolve number tree).2 := by
  rw [resolve] at refused ⊢
  split at refused
  · exact .inl rfl
  · exact .inl rfl
  · rename_i resolver place node isResolver isTree
    have moves := node.resolve_moves (s.load resolver)
    have reached : (s.load resolver).failure = none := rfl
    generalize after : node.resolve (s.load resolver) = outcome at moves refused ⊢
    obtain ⟨node', state⟩ := outcome
    dsimp only at moves refused ⊢
    split at refused
    · rename_i failure failed
      cases refused
      obtain ⟨u, before, -, refuses, rfl⟩ := moves.exists_refuses reached failed
      exact .inr ⟨resolver, place, node, failure, u, isResolver, isTree, rfl, before, refuses,
        after ▸ rfl⟩
    · cases refused

/-- Every act that is refused leaves what refused it as it was. -/
theorem leaves_act {act : Act} {refusal : Refusal} (refused : (s.act act).1 = .error refusal) :
    act.Leaves s refusal (s.act act).2 := by
  cases act with
  | step step =>
    have refused' : (s.step step).1 = .error refusal := error_of_map refused
    cases step with
    | read | build | makeResolver => exact attempt_of_refused refused'
    | push | pop => exact attempt_of_refused refused'
    | declare resolver name meaning => exact leaves_declare (error_of_map refused')
    | resolve resolver tree => exact leaves_resolve refused'
    | source | dump | identifiers | symbols => rfl
  | make | add | bind | push | pop => exact attempt_of_refused refused
  | lookupLocal | lookup => rfl

/-! ## Whole sessions -/

/-- **Arenas and logs are append-only.** After any acts from the start of a session, whatever was
refused among them, every symbol in an arena has its place as its index, and no symbol is at two
places. With any further acts the arenas and logs are extended at their ends, if they change at all,
and what was at a place of an arena stays there: the same symbol, with its name and what it is. An
act that is refused leaves what refused it as it was. -/
theorem append_only (earlier later : List Act) :
    let s := run {} earlier
    let s' := s.run later
    s.Placed ∧ s.Grows s' ∧
      (∀ number place id, s.entryAt? number place = some id →
        s'.entryAt? number place = some id ∧ ∃ symbol symbol',
          s.store.get? id = some symbol ∧ s'.store.get? id = some symbol' ∧
            symbol.index = some place ∧ symbol'.index = some place ∧
            symbol'.name = symbol.name ∧ symbol'.meaning.outline = symbol.meaning.outline) ∧
      ∀ act refusal, (s.act act).1 = .error refusal → act.Leaves s refusal (s.act act).2 := by
  intro s s'
  have placed : s.Placed := (keeps_run earlier placed_fresh).1
  have grows : s.Grows s' := (keeps_run later placed).2
  refine ⟨placed, grows, fun number place id stands => ?_, fun act refusal => leaves_act⟩
  have index := placed.indices number place id stands
  obtain ⟨symbol, known, index'⟩ := Option.bind_eq_some_iff.mp index
  obtain ⟨symbol', known', name, meaning⟩ := grows.symbols id symbol known
  have later := grows.indices id place index
  rw [Store.index?, known', Option.bind_some] at later
  exact ⟨grows.entryAt? stands, symbol, symbol', known, known', index', later, name, meaning⟩

/-- Two resolvers that share an arena and a log, a symbol that is put into the arena by hand and
bound in the table of the second one, and a program that the first one resolves: `int x; int x;`. -/
def sharedActs : List Act :=
  let x : Ident := { pos := ⟨1, 5⟩, value := .text "x" }
  let x' : Ident := { pos := ⟨1, 12⟩, value := .text "x" }
  [.step (.makeResolver none none none), .step (.makeResolver none (some 0) (some 0)),
    .make "y" (.var .int), .add 1 ⟨0⟩, .bind (.own 1) "y" ⟨0⟩,
    .step (.build (.program { decls := [.var {} (.int {}) x, .var {} (.int {}) x'] })),
    .step (.resolve 0 0)]

/-- Acts that are refused: the symbol is put into an arena again, its name is bound again, scopes
are closed that are not open, a name is declared void and one where no scope is open, and a tree
outside the grammar is resolved. -/
def refusedActs : List Act :=
  let x : Ident := { pos := ⟨1, 1⟩, value := .text "x" }
  [.add 0 ⟨0⟩, .bind (.own 1) "y" ⟨1⟩, .make "v" (.var .void), .pop (.own 1), .pop (.own 1),
    .step (.declare 1 "z" (.var .int)), .lookup (.own 1) "y",
    .step (.build (.expr (.dot {} (.int {} (.number 1)) x))), .step (.resolve 0 1)]

theorem append_only_of_sharedActs :
    (run {} sharedActs).arenas = [⟨[⟨0⟩, ⟨1⟩]⟩] ∧
      ((run {} sharedActs).run refusedActs).arenas = [⟨[⟨0⟩, ⟨1⟩, ⟨2⟩]⟩] ∧
      (run {} sharedActs).Placed ∧
      (run {} sharedActs).Grows ((run {} sharedActs).run refusedActs) :=
  have appended := append_only sharedActs refusedActs
  ⟨by decide, by decide, appended.1, appended.2.1⟩

/-- What the second resolver's arena and table refuse. -/
example : ([.add 0 ⟨0⟩, .bind (.own 1) "y" ⟨1⟩, .make "v" (.var .void)] : List Act).map
    (fun act => ((run {} sharedActs).act act).1.isOk) = [false, false, false] := by
  decide

end Session

end Minim
