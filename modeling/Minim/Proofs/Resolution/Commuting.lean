import Minim.Proofs.Resolution.Bodies
import Minim.Proofs.Resolution.Exports
import Minim.Proofs.Resolution.Rebasing

/-!
# Declarations that commute

Two declarations that stand one behind the other, and of which neither has the name of the other
among its identifiers, can change places. The second one is analysed as if the first one were not
there, but that the first one has made its symbols already; and what comes behind them finds the
same names bound to the same symbols, which were made in another order. So the two analyses find the
same faults for each declaration, and their annotations differ by the exchange of two blocks of the
arena.
-/

namespace Minim

open Resolution

/-! ## Blocks that change places -/

/-- The number that a number becomes when two blocks of numbers from a boundary on, of some lengths,
change places. -/
def swapped (boundary first second n : Nat) : Nat :=
  if n < boundary then n
  else if n < boundary + first then n + second
  else if n < boundary + first + second then n - first
  else n

/-- The place that a place becomes when two blocks of the arena change places. -/
def swappedPlace (boundary first second : Nat) (place : Int) : Int :=
  if place < boundary then place
  else if place < boundary + first then place + second
  else if place < boundary + first + second then place - first
  else place

theorem swapped_injective (boundary first second : Nat) :
    Function.Injective (swapped boundary first second) := by
  intro i j same
  simp only [swapped] at same
  split_ifs at same <;> omega

theorem swappedPlace_natCast (boundary first second n : Nat) :
    swappedPlace boundary first second n = (swapped boundary first second n : Nat) := by
  rw [swappedPlace, swapped]
  split_ifs <;> omega

/-- Behind the first block, before the second one comes: the second block is moved up. -/
theorem swapped_of_lt {boundary first second n : Nat} (early : n < boundary + first) :
    swapped boundary first second n = movedUp boundary second n := by
  rw [swapped, movedUp]
  split_ifs <;> omega

/-- The second block comes to where it would be without the first one. -/
theorem swapped_movedUp {boundary first second n : Nat} (early : n < boundary + second) :
    swapped boundary first second (movedUp boundary first n) = n := by
  rw [swapped, movedUp]
  split_ifs <;> omega

theorem swapped_of_ge {boundary first second n : Nat} (late : boundary + first + second ≤ n) :
    swapped boundary first second n = n := by
  rw [swapped]
  split_ifs <;> omega

namespace Resolution

/-- One analysis as it is seen in the other, in which two blocks of symbols were made in the other
order. -/
def View.swap (boundary first second : Nat) : View where
  entry id := ⟨swapped boundary first second id.number⟩
  place := swapped boundary first second
  ident := Ident.renumber (swappedPlace boundary first second)

/-- Different symbols stay different where two blocks of them change places. -/
def Mirror.swap (boundary first second : Nat) : Mirror where
  toView := .swap boundary first second
  word_injective := Function.injective_id
  entry_injective id id' same := by
    obtain ⟨i⟩ := id
    obtain ⟨j⟩ := id'
    exact congrArg SymbolId.mk (swapped_injective boundary first second (SymbolId.mk.inj same))
  name_ident _ := rfl
  pos_ident _ := rfl
  ident_attach name index := by
    cases index with
    | none => rfl
    | some place =>
      exact congrArg (fun place => Ident.mk name.pos name.value (some place))
        (swappedPlace_natCast boundary first second place)

/-! ## Views that agree -/

/-- One view after another. -/
def View.comp (w v : View) : View where
  pos := w.pos ∘ v.pos
  word := w.word ∘ v.word
  entry := w.entry ∘ v.entry
  place := w.place ∘ v.place
  ident := w.ident ∘ v.ident

theorem View.table_comp (w v : View) (table : Table) :
    (w.comp v).table table = w.table (v.table table) := by
  rw [View.table, View.table, View.table, List.map_map]
  refine congrArg ScopeStack.mk (List.map_congr_left fun bindings _ => ?_)
  rw [Function.comp_apply, View.scope, View.scope, View.scope, List.map_map]
  rfl

theorem View.symbol_comp {w v : View} (words : w.word = id) (words' : v.word = id)
    (symbol : Symbol) : (w.comp v).symbol symbol = w.symbol (v.symbol symbol) := by
  have both : (w.comp v).word = id := by rw [comp, words, words', Function.comp_id]
  obtain ⟨name, meaning, index⟩ := symbol
  have indices : index.map (w.comp v).place = (index.map v.place).map w.place := by
    cases index <;> rfl
  have meanings : (w.comp v).meaning meaning = w.meaning (v.meaning meaning) := by
    cases meaning with
    | structDef fields => exact congrArg Meaning.structDef (table_comp w v fields)
    | _ =>
      rw [meaning_of_fixed both (by rintro _ ⟨⟩), meaning_of_fixed words' (by rintro _ ⟨⟩),
        meaning_of_fixed words (by rintro _ ⟨⟩)]
  rw [View.symbol, View.symbol, View.symbol, indices, meanings]
  rfl

/-- What an analysis has reached is seen in the same way in views that agree below its size. -/
theorem State.Reached.symbol_congr {s : State} (h : s.Reached) {v w : View} (words : v.word = id)
    (words' : w.word = id) (entries : ∀ i < s.arena.size, v.entry ⟨i⟩ = w.entry ⟨i⟩)
    (places : ∀ i < s.arena.size, v.place i = w.place i) {id : SymbolId} {symbol : Symbol}
    (known : s.store.get? id = some symbol) : v.symbol symbol = w.symbol symbol := by
  obtain ⟨mem, index, small⟩ := h.index known
  have indices : symbol.index.map v.place = symbol.index.map w.place := by
    rw [index]
    exact congrArg some (places id.number small)
  have meanings : v.meaning symbol.meaning = w.meaning symbol.meaning := by
    cases meaning : symbol.meaning with
    | structDef fields =>
      have backs := h.consistent.fields id mem fields
        (Store.fields?_eq_some.mpr ⟨symbol, known, meaning⟩)
      refine congrArg (Meaning.structDef ⟨·⟩) (List.map_congr_left fun scope mem => ?_)
      refine List.map_congr_left fun binding inside => ?_
      obtain ⟨_, other, -, known', -⟩ := backs scope mem binding inside
      rw [words, words', entries binding.2.number (h.index known').2.2]
    | _ =>
      rw [View.meaning_of_fixed words (by rintro _ ⟨⟩),
        View.meaning_of_fixed words' (by rintro _ ⟨⟩)]
  rw [View.symbol, View.symbol, words, words', indices, meanings]

/-! ## One declaration -/

/-- From a state between the declarations of a program to the one behind one more of them. -/
structure State.Declares (name : String) (s s' : State) (more : Scope SymbolId) (made : Nat) :
    Prop where
  reached : s'.Reached
  table : ∀ root, s.table = ⟨[root]⟩ → s'.table = ⟨[root ++ more]⟩
  names : more.names.Sublist [name]
  symbols : ∀ id symbol, s.store.get? id = some symbol → s'.store.get? id = some symbol
  makes : s.Makes made s'
  log : s.log.entries <+: s'.log.entries

end Resolution

theorem Decl.mem_idents_name (d : Decl) : d.name ∈ d.idents := by
  have same : d.declared.name = d.name := by cases d <;> rfl
  exact same ▸ d.name_mem_idents

theorem Decl.resolve_declares {d : Decl} (read : d.IsRead) {s : State} (h : s.Reached) :
    ∃ more made, s.Declares d.name.name (d.resolve s).2 more made := by
  have ready := Decl.resolve_ready read.shaped h.ready
  have binds := d.resolve_binds s
  obtain ⟨⟨made, makes⟩, log⟩ := (d.resolve_follows .plain).grows s
  obtain ⟨before, made₀⟩ := h.made
  obtain ⟨more, scopes, names⟩ := binds.scopes ready.running
  refine ⟨more, made, ⟨ready, (d.resolve_leads s).consistent h.consistent, before + made,
    made₀.trans makes⟩, fun root table => ?_, names, fun _ _ known => binds.symbol known, makes,
    log⟩
  rw [table] at scopes
  exact congrArg ScopeStack.mk scopes

/-- The places that are noted at the identifiers of what was read are places of the arena. -/
theorem Resolution.State.Leads.place_lt {s s' : State} {names names' : List Naming}
    (h : s.Leads names s' names') (start : s.Consistent)
    (unannotated : ∀ n ∈ names, n.name.symbol = none) :
    ∀ name ∈ names'.map Naming.name, ∀ place, name.symbol = some place →
      0 ≤ place ∧ place < s'.arena.size := by
  intro name mem place noted
  obtain ⟨n, inside, rfl⟩ := List.mem_map.mp mem
  have links := h.links start (fun n mem => State.links_of_unannotated (unannotated n mem)) n inside
  obtain ⟨nonneg, small, -⟩ := links.symbolAt? noted
  exact ⟨nonneg, small⟩

theorem Decl.place_lt {d : Decl} (read : d.IsRead) {s : State} (h : s.Reached) :
    ∀ name ∈ (d.resolve s).1.idents, ∀ place, name.symbol = some place →
      0 ≤ place ∧ place < (d.resolve s).2.arena.size := by
  rw [← Decl.map_namings]
  refine (d.resolve_leads s).place_lt h.consistent fun n mem => read.unannotated n.name ?_
  rw [← Decl.map_namings]
  exact List.mem_map_of_mem mem

theorem Decl.placesAll_lt {ds : List Decl} (read : ∀ d ∈ ds, d.IsRead) {s : State} (h : s.Reached) :
    ∀ name ∈ Decl.identsAll (Decl.resolveAll ds s).1, ∀ place, name.symbol = some place →
      0 ≤ place ∧ place < (Decl.resolveAll ds s).2.arena.size := by
  rw [← Decl.map_namingsAll]
  refine (Decl.resolveAll_leads ds s).place_lt h.consistent fun n mem => ?_
  have mem : n.name ∈ Decl.identsAll ds := Decl.map_namingsAll ds ▸ List.mem_map_of_mem mem
  obtain ⟨d, inside, mem⟩ := Decl.mem_identsAll.mp mem
  exact (read d inside).unannotated n.name mem

/-! ## A declaration behind another one -/

namespace Scope

variable {α : Type} {scope : Scope α} {name : String}

/-- A scope does not bind a name that is not among its names. -/
theorem find?_of_sublist {names : List String} (bound : scope.names.Sublist names)
    (absent : name ∉ names) : scope.find? name = none := by
  refine List.lookup_eq_none_iff.mpr fun binding mem => bne_iff_ne.mpr ?_
  rintro rfl
  exact absent (bound.subset (List.mem_map_of_mem mem))

end Scope

namespace Resolution

/-- What a declaration does behind another one, from what it does without: the symbols that it makes
are moved up, and so are those that it binds. -/
structure State.Beside (s s₁ s₂ s₁₂ : State) (root more₁ more₂ : Scope SymbolId)
    (made₁ made₂ : Nat) : Prop where
  table : s₁₂.table = ⟨[root ++ more₁ ++ (View.more s.arena.size made₁).scope more₂]⟩
  store : ∀ id, s₁₂.store.get? ((View.more s.arena.size made₁).entry id) =
    (s₂.store.get? id).map (View.more s.arena.size made₁).symbol
  symbols : ∀ id symbol, s₁.store.get? id = some symbol → s₁₂.store.get? id = some symbol
  makes : s₁.Makes made₂ s₁₂
  log : ∀ found, s₂.log.entries = s.log.entries ++ found →
    s₁₂.log.entries = s₁.log.entries ++ found

end Resolution

/-- **A declaration behind another one** whose name is not among its identifiers is analysed as
without it. -/
theorem Decl.resolve_beside {d : Decl} (read : d.IsRead) {s s₁ : State} (h : s.Reached)
    {name : String} {root more₁ more₂ : Scope SymbolId} {made₁ made₂ : Nat}
    (table : s.table = ⟨[root]⟩) (declares₁ : s.Declares name s₁ more₁ made₁)
    (declares₂ : s.Declares d.name.name (d.resolve s).2 more₂ made₂)
    (apart : ∀ other ∈ d.idents, other.name ≠ name) :
    (d.resolve s₁).1 = (d.resolve s).1.edit (View.more s.arena.size made₁).edit ∧
      s.Beside s₁ (d.resolve s).2 (d.resolve s₁).2 root more₁ more₂ made₁ made₂ := by
  -- The state in which the symbols of the other declaration are made, but its name is not bound.
  let u := s₁.withTable s.table
  let inside := s.withTable s.table.push
  have opened : openScope s = ((), inside) := unlessFailed_of_running h.ready.running _ _
  have reached : inside.Reached := by
    have ready := h.ready.openScope
    have consistent := openScope_consistent h.consistent
    rw [opened] at ready consistent
    exact ⟨ready, consistent, h.made⟩
  have behind₀ : inside.Behind s 0 :=
    ⟨h.ready.running, rfl, fun _ _ known => known, .refl s, List.prefix_refl _⟩
  have behind : inside.Behind u made₁ :=
    ⟨declares₁.reached.ready.running, rfl, declares₁.symbols, declares₁.makes, declares₁.log⟩
  have start : (Mirror.more inside.arena.size made₁).Shows s u s u :=
    behind₀.shows reached behind
  obtain ⟨answer, shows⟩ := d.resolve_follows (.more s.arena.size made₁) s u s u start
  rw [show d.edit (Mirror.more s.arena.size made₁).edit = d from read.edit_renumber _]
    at answer shows
  -- Then the name is bound, too, but nothing in the declaration asks for it.
  let r : Rebasing :=
    { Shown := (· ≠ name), base := root, base' := root ++ more₁
      agree := fun other different => by
        rw [Scope.find?_append, Scope.find?_of_sublist declares₁.names
          (fun mem => different (List.mem_singleton.mp mem)), Option.or_none] }
  have meets : r.Meets 0 u s₁ := by
    refine ⟨rfl, fun _ => ⟨[], [], rfl, ?_, ?_, List.forall_mem_nil _⟩⟩
    · rw [List.append_nil]
      exact table
    · rw [List.append_nil]
      exact declares₁.table root table
  obtain ⟨answer', after⟩ := d.resolve_ignores (r := r) apart u s₁ meets
  have running : (d.resolve u).2.failure = none :=
    shows.running (Decl.resolve_ready read.shaped h.ready).running
  have store : (d.resolve s₁).2.store = (d.resolve u).2.store := after.store
  have arena : (d.resolve s₁).2.arena = (d.resolve u).2.arena :=
    (congrArg State.arena after.rest :)
  have log : (d.resolve s₁).2.log = (d.resolve u).2.log := (congrArg State.log after.rest :)
  refine ⟨answer'.trans answer, ?_⟩
  constructor
  case table =>
    obtain ⟨inner, more, length, scopes, scopes', -⟩ := (after.opened running).scopes
    obtain rfl := List.eq_nil_of_length_eq_zero length
    have seen := shows.table
    have still : (View.more s.arena.size made₁).scope root = root := by
      have fixed := h.table_more made₁ h.consistent.scopes
      rw [table] at fixed
      exact (List.cons.inj (ScopeStack.mk.inj fixed)).1
    rw [scopes, declares₂.table root table] at seen
    have same : root ++ more = (View.more s.arena.size made₁).scope (root ++ more₂) :=
      (List.cons.inj (ScopeStack.mk.inj seen)).1
    have split : (View.more s.arena.size made₁).scope (root ++ more₂) =
        (View.more s.arena.size made₁).scope root ++ (View.more s.arena.size made₁).scope more₂ :=
      List.map_append
    rw [split, still] at same
    obtain rfl := List.append_cancel_left same
    exact scopes'
  case store =>
    rw [store]
    exact shows.store
  case symbols => exact fun _ _ known => (d.resolve_binds s₁).symbol known
  case makes =>
    obtain ⟨made, makes, makes'⟩ := shows.made
    obtain rfl : made = made₂ := by
      have length := makes.1.symm.trans declares₂.makes.1
      omega
    rw [State.Makes, store, arena]
    exact makes'
  case log =>
    intro found logged
    rw [log]
    exact shows.found rfl logged

/-! ## Two declarations in both orders -/

namespace Resolution

/-- What a state between declarations binds was made before it. -/
theorem State.Reached.find?_lt {s : State} (h : s.Reached) {scope : Scope SymbolId}
    (table : s.table = ⟨[scope]⟩) {name : String} {id : SymbolId}
    (found : scope.find? name = some id) : id.number < s.arena.size := by
  have mem : scope ∈ s.table.scopes := by
    rw [table]
    exact List.mem_singleton_self scope
  obtain ⟨_, symbol, -, known, -⟩ := h.consistent.scopes.find? mem found
  exact (h.index known).2.2

section

variable {s s₁ s₂ s₁₂ s₂₁ : State} {name₁ name₂ : String} {root more₁ more₂ : Scope SymbolId}
  {made₁ made₂ : Nat}

/-- Each symbol behind the two declarations is seen in one behind them in the other order. -/
theorem State.Beside.store_swap (h : s.Reached) (declares₁ : s.Declares name₁ s₁ more₁ made₁)
    (declares₂ : s.Declares name₂ s₂ more₂ made₂)
    (beside : s.Beside s₁ s₂ s₁₂ root more₁ more₂ made₁ made₂)
    (beside' : s.Beside s₂ s₁ s₂₁ root more₂ more₁ made₂ made₁) (id : SymbolId) :
    s₂₁.store.get? ((View.swap s.arena.size made₁ made₂).entry id) =
      (s₁₂.store.get? id).map (View.swap s.arena.size made₁ made₂).symbol := by
  obtain ⟨n⟩ := id
  have length₁ := declares₁.makes.1
  have length₂ := declares₂.makes.1
  have length₁₂ := beside.makes.1
  have length₂₁ := beside'.makes.1
  rw [length₁] at length₁₂
  rw [length₂] at length₂₁
  rw [h.length_symbols] at length₁ length₂ length₁₂ length₂₁
  have size₁ := declares₁.reached.length_symbols.symm.trans length₁
  have size₂ := declares₂.reached.length_symbols.symm.trans length₂
  by_cases first : n < s.arena.size + made₁
  · -- The first declaration has made the symbol, or it was there before.
    obtain ⟨symbol, known⟩ : ∃ symbol, s₁.store.get? ⟨n⟩ = some symbol :=
      ⟨_, List.getElem?_eq_getElem (length₁ ▸ first)⟩
    have entry : (View.swap s.arena.size made₁ made₂).entry ⟨n⟩ =
        (View.more s.arena.size made₂).entry ⟨n⟩ := congrArg SymbolId.mk (swapped_of_lt first)
    rw [entry, beside'.store, known, beside.symbols _ symbol known, Option.map_some,
      Option.map_some]
    refine congrArg some (declares₁.reached.symbol_congr rfl rfl (fun i small => ?_)
      (fun i small => ?_) known)
    · exact congrArg SymbolId.mk (swapped_of_lt (size₁ ▸ small)).symm
    · exact (swapped_of_lt (size₁ ▸ small)).symm
  · by_cases second : n < s.arena.size + made₁ + made₂
    · -- The second declaration has made the symbol, which is moved down again.
      obtain ⟨k, rfl⟩ : ∃ k, n = movedUp s.arena.size made₁ k :=
        ⟨n - made₁, by rw [movedUp, if_neg (by omega)]; omega⟩
      have small : k < s.arena.size + made₂ := by
        rw [movedUp] at second
        split_ifs at second <;> omega
      obtain ⟨symbol, known⟩ : ∃ symbol, s₂.store.get? ⟨k⟩ = some symbol :=
        ⟨_, List.getElem?_eq_getElem (length₂ ▸ small)⟩
      have entry : (View.swap s.arena.size made₁ made₂).entry
          ⟨movedUp s.arena.size made₁ k⟩ = ⟨k⟩ := congrArg SymbolId.mk (swapped_movedUp small)
      have moved := beside.store ⟨k⟩
      rw [known, Option.map_some] at moved
      rw [entry, beside'.symbols _ symbol known]
      refine (congrArg some ?_).trans (congrArg (Option.map _) moved).symm
      rw [← View.symbol_comp rfl rfl]
      have plain : (Mirror.plain).symbol symbol = symbol :=
        congrFun (View.symbol_of_still rfl rfl rfl) symbol
      refine plain.symm.trans (declares₂.reached.symbol_congr rfl rfl (fun i small => ?_)
        (fun i small => ?_) known)
      · exact congrArg SymbolId.mk (swapped_movedUp (size₂ ▸ small)).symm
      · exact (swapped_movedUp (size₂ ▸ small)).symm
    · have late : s.arena.size + made₁ + made₂ ≤ n := Nat.not_lt.mp second
      have none₁₂ : s₁₂.store.get? ⟨n⟩ = none := List.getElem?_eq_none (length₁₂ ▸ late)
      have none₂₁ : s₂₁.store.get? ⟨n⟩ = none :=
        List.getElem?_eq_none (length₂₁ ▸ (Nat.add_right_comm .. ▸ late))
      have entry : (View.swap s.arena.size made₁ made₂).entry ⟨n⟩ = ⟨n⟩ :=
        congrArg SymbolId.mk (swapped_of_ge late)
      rw [entry, none₁₂, none₂₁]
      rfl

/-- The names that are bound behind the two declarations are bound behind them in the other order,
to the same symbols. -/
theorem State.Beside.find?_swap (h : s.Reached) (table : s.table = ⟨[root]⟩)
    (different : name₁ ≠ name₂) (declares₁ : s.Declares name₁ s₁ more₁ made₁)
    (declares₂ : s.Declares name₂ s₂ more₂ made₂) (name : String) :
    Scope.find? (root ++ more₂ ++ (View.more s.arena.size made₂).scope more₁) name =
      Scope.find? ((View.swap s.arena.size made₁ made₂).scope
        (root ++ more₁ ++ (View.more s.arena.size made₁).scope more₂)) name := by
  have seen : Scope.find? ((View.swap s.arena.size made₁ made₂).scope
      (root ++ more₁ ++ (View.more s.arena.size made₁).scope more₂)) name =
        (Scope.find? (root ++ more₁ ++ (View.more s.arena.size made₁).scope more₂) name).map
          (View.swap s.arena.size made₁ made₂).entry :=
    (Mirror.swap s.arena.size made₁ made₂).find?_scope _ name
  have moved₁ : Scope.find? ((View.more s.arena.size made₂).scope more₁) name =
      (more₁.find? name).map (View.more s.arena.size made₂).entry :=
    (Mirror.more s.arena.size made₂).find?_scope more₁ name
  have moved₂ : Scope.find? ((View.more s.arena.size made₁).scope more₂) name =
      (more₂.find? name).map (View.more s.arena.size made₁).entry :=
    (Mirror.more s.arena.size made₁).find?_scope more₂ name
  rw [seen, Scope.find?_append, Scope.find?_append, Scope.find?_append, Scope.find?_append, moved₁,
    moved₂]
  cases bound : root.find? name with
  | some id =>
    refine congrArg some (congrArg SymbolId.mk ?_)
    exact (if_pos (h.find?_lt table bound)).symm
  | none =>
    by_cases one : name = name₁
    · have other : more₂.find? name = none :=
        Scope.find?_of_sublist declares₂.names (by simp [one, different])
      rw [other, Option.map_none, Option.or_none, Option.or_none, Option.none_or, Option.none_or]
      cases bound₁ : more₁.find? name with
      | none => rfl
      | some id =>
        have small := declares₁.reached.find?_lt (declares₁.table root table)
          (by rw [Scope.find?_append, bound, bound₁]; rfl)
        rw [declares₁.makes.size] at small
        exact congrArg some (congrArg SymbolId.mk (swapped_of_lt small).symm)
    · have other : more₁.find? name = none :=
        Scope.find?_of_sublist declares₁.names (by simp [one])
      rw [other, Option.map_none, Option.or_none, Option.or_none, Option.none_or, Option.none_or]
      cases bound₂ : more₂.find? name with
      | none => rfl
      | some id =>
        have small := declares₂.reached.find?_lt (declares₂.table root table)
          (by rw [Scope.find?_append, bound, bound₂]; rfl)
        rw [declares₂.makes.size] at small
        exact congrArg some (congrArg SymbolId.mk (swapped_movedUp small).symm)

end

end Resolution

/-! ## What comes behind -/

namespace Resolution

/-- Between declarations the symbols stand in the arena in the order of their numbers. -/
theorem State.Reached.symbolAt?_natCast {s : State} (h : s.Reached) (place : Nat) :
    s.symbolAt? place = s.store.get? ⟨place⟩ := by
  obtain ⟨made, store, arena⟩ := h.made
  rw [State.symbolAt?_natCast, arena, List.nil_append, List.getElem?_map]
  by_cases early : place < made
  · rw [List.getElem?_range early]
    exact congrArg (fun n => s.store.get? ⟨n⟩) (Nat.zero_add place)
  · have none : s.store.get? ⟨place⟩ = none := by
      refine List.getElem?_eq_none ?_
      rw [store]
      exact Nat.le_trans (Nat.le_of_eq (Nat.zero_add made)) (Nat.not_lt.mp early)
    rw [none, List.getElem?_eq_none (by simpa using early)]
    rfl

/-- What two states behind the same declarations in another order have to do with each other. -/
structure State.Swapped (boundary first second : Nat) (s s' t t' : State) : Prop where
  store : ∀ id, t'.store.get? ((View.swap boundary first second).entry id) =
    (t.store.get? id).map (View.swap boundary first second).symbol
  size : t'.arena.size = t.arena.size
  log : ∀ found, t.log.entries = s.log.entries ++ found → t'.log.entries = s'.log.entries ++ found

end Resolution

/-- **Behind two declarations** whose order does not matter the same is done, but that the blocks of
their symbols have changed places. -/
theorem Decl.resolveAll_swap {B : List Decl} (read : ∀ d ∈ B, d.IsRead)
    {s s₁ s₂ s₁₂ s₂₁ : State} {name₁ name₂ : String} {root more₁ more₂ : Scope SymbolId}
    {made₁ made₂ : Nat} (h : s.Reached) (h₁₂ : s₁₂.Reached) (h₂₁ : s₂₁.Reached)
    (table : s.table = ⟨[root]⟩) (different : name₁ ≠ name₂)
    (declares₁ : s.Declares name₁ s₁ more₁ made₁) (declares₂ : s.Declares name₂ s₂ more₂ made₂)
    (beside : s.Beside s₁ s₂ s₁₂ root more₁ more₂ made₁ made₂)
    (beside' : s.Beside s₂ s₁ s₂₁ root more₂ more₁ made₂ made₁) :
    (Decl.resolveAll B s₂₁).1 =
        Decl.editAll (View.swap s.arena.size made₁ made₂).edit (Decl.resolveAll B s₁₂).1 ∧
      State.Swapped s.arena.size made₁ made₂ s₁₂ s₂₁ (Decl.resolveAll B s₁₂).2
        (Decl.resolveAll B s₂₁).2 := by
  let view := View.swap s.arena.size made₁ made₂
  -- The symbols of the one order, with the scope of the other one.
  let v := s₂₁.withTable (view.table s₁₂.table)
  have size₁₂ : s₁₂.arena.size = s.arena.size + made₁ + made₂ := by
    rw [beside.makes.size, declares₁.makes.size]
  have size₂₁ : s₂₁.arena.size = s.arena.size + made₁ + made₂ := by
    rw [beside'.makes.size, declares₂.makes.size, Nat.add_right_comm]
  have late (k : Nat) : swapped s.arena.size made₁ made₂ (s.arena.size + made₁ + made₂ + k) =
      s.arena.size + made₁ + made₂ + k := swapped_of_ge (Nat.le_add_right _ k)
  have start : (Mirror.swap s.arena.size made₁ made₂).Shows s₁₂ v s₁₂ v := by
    have store := beside.store_swap h declares₁ declares₂ beside'
    refine .start (fun k => ?_) (fun k => ?_) ?_ rfl store
    · show SymbolId.mk (swapped _ _ _ (s₁₂.store.symbols.length + k)) =
        ⟨s₂₁.store.symbols.length + k⟩
      rw [h₁₂.length_symbols, h₂₁.length_symbols, size₁₂, size₂₁, late]
    · show swapped _ _ _ (s₁₂.arena.size + k) = s₂₁.arena.size + k
      rw [size₁₂, size₂₁, late]
    · show s₂₁.failure = s₁₂.failure.map _
      rw [h₁₂.ready.running, h₂₁.ready.running]
      rfl
  obtain ⟨answer, shows⟩ :=
    Decl.resolveAll_follows (.swap s.arena.size made₁ made₂) B s₁₂ v s₁₂ v start
  rw [show Decl.editAll (Mirror.swap s.arena.size made₁ made₂).edit B = B from
    Decl.editAll_renumber read _] at answer shows
  -- The scopes bind the same names to the same symbols, though in another order.
  let r : Rebasing :=
    { Shown := fun _ => True
      base := view.scope (root ++ more₁ ++ (View.more s.arena.size made₁).scope more₂)
      base' := root ++ more₂ ++ (View.more s.arena.size made₂).scope more₁
      agree := fun name _ => State.Beside.find?_swap h table different declares₁ declares₂ name }
  have meets : r.Meets 0 v s₂₁ := by
    refine ⟨rfl, fun _ => ⟨[], [], rfl, ?_, ?_, List.forall_mem_nil _⟩⟩
    · show view.table s₁₂.table = _
      rw [beside.table, List.append_nil]
      rfl
    · rw [beside'.table, List.append_nil]
      rfl
  obtain ⟨answer', after⟩ := Decl.resolveAll_ignores (r := r) B (fun _ _ => trivial) v s₂₁ meets
  have arena : (Decl.resolveAll B s₂₁).2.arena = (Decl.resolveAll B v).2.arena :=
    (congrArg State.arena after.rest :)
  have log : (Decl.resolveAll B s₂₁).2.log = (Decl.resolveAll B v).2.log :=
    (congrArg State.log after.rest :)
  refine ⟨answer'.trans answer, ?_⟩
  constructor
  case store =>
    rw [after.store]
    exact shows.store
  case size =>
    obtain ⟨made, makes, makes'⟩ := shows.made
    have same : v.arena.size = s₁₂.arena.size := size₂₁.trans size₁₂.symm
    rw [arena, makes.size, makes'.size, same]
  case log =>
    intro found logged
    rw [log]
    exact shows.found rfl logged

/-! ## Two declarations in a program -/

/-- The analysis of a program with two declarations between other ones, in its parts: the
declarations as they are annotated, and the states in between. -/
structure PairRun where
  before : List Decl
  start : State
  first : Decl
  middle : State
  second : Decl
  behind : State
  after : List Decl
  finish : State

namespace PairRun

/-- The parts of the analysis, from a fresh state. -/
def of (A : List Decl) (d₁ d₂ : Decl) (B : List Decl) : PairRun :=
  let (before, start) := Decl.resolveAll A {}
  let (first, middle) := d₁.resolve start
  let (second, behind) := d₂.resolve middle
  let (after, finish) := Decl.resolveAll B behind
  { before, start, first, middle, second, behind, after, finish }

/-- The parts make up the analysis of the program. -/
theorem analyze_eq (A : List Decl) (d₁ d₂ : Decl) (B : List Decl) :
    let run := PairRun.of A d₁ d₂ B
    Program.analyze { decls := A ++ d₁ :: d₂ :: B } =
      { program := { decls := run.before ++ run.first :: run.second :: run.after }
        state := run.finish } := by
  intro run
  rw [Program.analyze, Program.resolve]
  simp only [bind_run, pure_run, Decl.resolveAll_append]
  rfl

variable (run : PairRun)

/-- The numbers of symbols that the two declarations made. -/
def madeFirst : Nat := run.middle.arena.size - run.start.arena.size

def madeSecond : Nat := run.behind.arena.size - run.middle.arena.size

/-- The place that a place becomes when the symbols of the two declarations change places. -/
def exchange (place : Int) : Int :=
  swappedPlace run.start.arena.size run.madeFirst run.madeSecond place

/-- Two analyses that are the same but that two declarations have changed places. -/
structure Exchanged (run run' : PairRun) : Prop where
  running : run.finish.failure = none ∧ run'.finish.failure = none
  start : run'.before = run.before ∧ run'.start = run.start
  made : run'.madeFirst = run.madeSecond ∧ run'.madeSecond = run.madeFirst ∧
    run'.finish.arena.size = run.finish.arena.size
  /-- The same faults are found in each part. -/
  log : ∃ ofFirst ofSecond ofAfter,
    run.middle.log.entries = run.start.log.entries ++ ofFirst ∧
    run.behind.log.entries = run.start.log.entries ++ ofFirst ++ ofSecond ∧
    run.finish.log.entries = run.start.log.entries ++ ofFirst ++ ofSecond ++ ofAfter ∧
    run'.middle.log.entries = run.start.log.entries ++ ofSecond ∧
    run'.behind.log.entries = run.start.log.entries ++ ofSecond ++ ofFirst ∧
    run'.finish.log.entries = run.start.log.entries ++ ofSecond ++ ofFirst ++ ofAfter
  /-- The annotations lead to the same symbols at their exchanged places. -/
  before : (Decl.identsAll run.before).map (Ident.renumber run.exchange) =
    Decl.identsAll run.before
  first : run'.second.idents = run.first.idents.map (Ident.renumber run.exchange)
  second : run'.first.idents = run.second.idents.map (Ident.renumber run.exchange)
  after : Decl.identsAll run'.after =
    (Decl.identsAll run.after).map (Ident.renumber run.exchange)
  symbols : ∀ place : Nat, run'.finish.symbolAt? (run.exchange place) =
    (run.finish.symbolAt? place).map
      (View.swap run.start.arena.size run.madeFirst run.madeSecond).symbol

end PairRun

/-! ### Faults -/

/-- Of two steps each finds the same behind the other one as without it, and a third step finds the
same behind both orders of them. -/
theorem found_in_both_orders {α : Type} {start l₁ l₂ l₁₂ l₂₁ l₁₂₃ l₂₁₃ : List α}
    (first : start <+: l₁) (second : start <+: l₂)
    (beside : ∀ found, l₂ = start ++ found → l₁₂ = l₁ ++ found)
    (beside' : ∀ found, l₁ = start ++ found → l₂₁ = l₂ ++ found) (third : l₁₂ <+: l₁₂₃)
    (behind : ∀ found, l₁₂₃ = l₁₂ ++ found → l₂₁₃ = l₂₁ ++ found) :
    ∃ ofFirst ofSecond ofAfter,
      l₁ = start ++ ofFirst ∧
      l₁₂ = start ++ ofFirst ++ ofSecond ∧
      l₁₂₃ = start ++ ofFirst ++ ofSecond ++ ofAfter ∧
      l₂ = start ++ ofSecond ∧
      l₂₁ = start ++ ofSecond ++ ofFirst ∧
      l₂₁₃ = start ++ ofSecond ++ ofFirst ++ ofAfter := by
  obtain ⟨ofFirst, rfl⟩ := first
  obtain ⟨ofSecond, rfl⟩ := second
  obtain ⟨ofAfter, rfl⟩ := third
  have found := beside ofSecond rfl
  have found' := beside' ofFirst rfl
  have found_third := behind ofAfter rfl
  rw [found'] at found_third
  rw [found]
  exact ⟨ofFirst, ofSecond, ofAfter, rfl, rfl, rfl, rfl, found', found_third⟩

/-! ### Annotations -/

theorem Ident.renumber_congr {name : Ident} {f g : Int → Int}
    (same : ∀ place, name.symbol = some place → f place = g place) :
    name.renumber f = name.renumber g := by
  obtain ⟨pos, value, symbol⟩ := name
  cases symbol with
  | none => rfl
  | some place => exact congrArg (fun place => Ident.mk pos value (some place)) (same place rfl)

/-- The places that were noted before two blocks stay where they are. -/
theorem Ident.renumber_early {boundary first second : Nat} {names : List Ident}
    (early : ∀ name ∈ names, ∀ place, name.symbol = some place →
      0 ≤ place ∧ place < (boundary : Int)) :
    names.map (Ident.renumber (swappedPlace boundary first second)) = names := by
  refine (List.map_congr_left fun name mem => ?_).trans (List.map_id _)
  refine (Ident.renumber_congr (g := id) fun place noted => ?_).trans ?_
  · exact if_pos (early name mem place noted).2
  · rw [Ident.renumber, Option.map_id]
    rfl

/-- The places of the first block are moved up behind the second one. -/
theorem Ident.renumber_first {boundary first second : Nat} {names : List Ident}
    (early : ∀ name ∈ names, ∀ place, name.symbol = some place →
      0 ≤ place ∧ place < (boundary + first : Nat)) :
    names.map (View.more boundary second).ident =
      names.map (Ident.renumber (swappedPlace boundary first second)) := by
  refine List.map_congr_left fun name mem => Ident.renumber_congr fun place noted => ?_
  obtain ⟨-, small⟩ := early name mem place noted
  simp only [swappedPlace]
  split_ifs <;> omega

/-- The places of the second block are moved down again. -/
theorem Ident.renumber_second {boundary first second : Nat} {names : List Ident}
    (early : ∀ name ∈ names, ∀ place, name.symbol = some place →
      0 ≤ place ∧ place < (boundary + second : Nat)) :
    (names.map (View.more boundary first).ident).map
      (Ident.renumber (swappedPlace boundary first second)) = names := by
  rw [List.map_map]
  refine (List.map_congr_left fun name mem => ?_).trans (List.map_id _)
  obtain ⟨pos, value, symbol⟩ := name
  cases symbol with
  | none => rfl
  | some place =>
    obtain ⟨-, small⟩ := early _ mem place rfl
    refine congrArg (fun place => Ident.mk pos value (some place)) ?_
    simp only [swappedPlace]
    split_ifs <;> omega

/-- **Declarations that have nothing to do with each other commute.** Of two declarations that stand
one behind the other in a program, neither has the name of the other one among its identifiers. Then
the program in which they have changed places is analysed in the same way: the same faults are found
for each declaration, one after the other; before the two declarations the same places are noted at
the identifiers, and in them and behind them places that differ by the exchange of the two blocks of
the symbols that they make; and at each place there stands the same symbol as at its exchanged one.
-/
theorem declarations_commute {A B : List Decl} {d₁ d₂ : Decl} (readA : ∀ d ∈ A, d.IsRead)
    (read₁ : d₁.IsRead) (read₂ : d₂.IsRead) (readB : ∀ d ∈ B, d.IsRead)
    (apart₁ : ∀ name ∈ d₁.idents, name.name ≠ d₂.name.name)
    (apart₂ : ∀ name ∈ d₂.idents, name.name ≠ d₁.name.name) :
    let run := PairRun.of A d₁ d₂ B
    let run' := PairRun.of A d₂ d₁ B
    Program.analyze { decls := A ++ d₁ :: d₂ :: B } =
        { program := { decls := run.before ++ run.first :: run.second :: run.after }
          state := run.finish } ∧
      Program.analyze { decls := A ++ d₂ :: d₁ :: B } =
        { program := { decls := run'.before ++ run'.first :: run'.second :: run'.after }
          state := run'.finish } ∧
      run.Exchanged run' := by
  intro run run'
  have reached : run.start.Reached := Decl.resolveAll_reached readA State.reached_fresh
  obtain ⟨root, table⟩ : ∃ root, run.start.table = ⟨[root]⟩ := by
    obtain ⟨root, one⟩ := List.length_eq_one_iff.mp
      ((Decl.resolveAll_binds A {}).scopes reached.ready.running).depth
    exact ⟨root, congrArg ScopeStack.mk one⟩
  obtain ⟨more₁, made₁, declares₁⟩ : ∃ more₁ made₁,
      run.start.Declares d₁.name.name run.middle more₁ made₁ :=
    Decl.resolve_declares read₁ reached
  obtain ⟨more₂, made₂, declares₂⟩ : ∃ more₂ made₂,
      run.start.Declares d₂.name.name run'.middle more₂ made₂ :=
    Decl.resolve_declares read₂ reached
  have reached₁₂ : run.behind.Reached := by
    obtain ⟨_, _, declares⟩ := Decl.resolve_declares read₂ declares₁.reached
    exact declares.reached
  have reached₂₁ : run'.behind.Reached := by
    obtain ⟨_, _, declares⟩ := Decl.resolve_declares read₁ declares₂.reached
    exact declares.reached
  -- Each declaration is analysed behind the other one as without it.
  obtain ⟨second, beside⟩ := Decl.resolve_beside read₂ reached table declares₁ declares₂ apart₂
  obtain ⟨first, beside'⟩ := Decl.resolve_beside read₁ reached table declares₂ declares₁ apart₁
  have different : d₁.name.name ≠ d₂.name.name := apart₁ d₁.name d₁.mem_idents_name
  obtain ⟨after, behind⟩ := Decl.resolveAll_swap readB reached reached₁₂ reached₂₁ table different
    declares₁ declares₂ beside beside'
  have size₁ : run.middle.arena.size = run.start.arena.size + made₁ := declares₁.makes.size
  have size₂ : run'.middle.arena.size = run.start.arena.size + made₂ := declares₂.makes.size
  have size₁₂ : run.behind.arena.size = run.middle.arena.size + made₂ := beside.makes.size
  have size₂₁ : run'.behind.arena.size = run'.middle.arena.size + made₁ := beside'.makes.size
  have madeFirst : run.madeFirst = made₁ := by
    rw [PairRun.madeFirst, size₁, Nat.add_sub_cancel_left]
  have madeSecond : run.madeSecond = made₂ := by
    rw [PairRun.madeSecond, size₁₂, Nat.add_sub_cancel_left]
  have exchange : run.exchange = swappedPlace run.start.arena.size made₁ made₂ := by
    funext place
    rw [PairRun.exchange, madeFirst, madeSecond]
  have finish : run.finish.Reached := Decl.resolveAll_reached readB reached₁₂
  have finish' : run'.finish.Reached := Decl.resolveAll_reached readB reached₂₁
  refine ⟨PairRun.analyze_eq .., PairRun.analyze_eq .., ?_⟩
  constructor
  case running => exact ⟨finish.ready.running, finish'.ready.running⟩
  case start => exact ⟨rfl, rfl⟩
  case made =>
    rw [madeFirst, madeSecond]
    refine ⟨?_, ?_, behind.size⟩
    · show run'.middle.arena.size - run.start.arena.size = made₂
      rw [size₂, Nat.add_sub_cancel_left]
    · rw [PairRun.madeSecond, size₂₁, Nat.add_sub_cancel_left]
  case log =>
    exact found_in_both_orders declares₁.log declares₂.log beside.log beside'.log
      ((Decl.resolveAll_follows .plain B).grows run.behind).2 behind.log
  case before =>
    rw [exchange]
    exact Ident.renumber_early (Decl.placesAll_lt readA State.reached_fresh)
  case first =>
    have early : ∀ name ∈ run.first.idents, ∀ place, name.symbol = some place →
        0 ≤ place ∧ place < (run.start.arena.size + made₁ : Nat) :=
      size₁ ▸ Decl.place_lt read₁ reached
    rw [show run'.second = _ from first, Decl.idents_edit, exchange]
    exact Ident.renumber_first early
  case second =>
    have early : ∀ name ∈ run'.first.idents, ∀ place, name.symbol = some place →
        0 ≤ place ∧ place < (run.start.arena.size + made₂ : Nat) :=
      size₂ ▸ Decl.place_lt read₂ reached
    rw [show run.second = _ from second, Decl.idents_edit, exchange]
    exact (Ident.renumber_second early).symm
  case after =>
    rw [show run'.after = _ from after, Decl.identsAll_editAll, exchange]
    rfl
  case symbols =>
    intro place
    rw [exchange, swappedPlace_natCast, finish'.symbolAt?_natCast, finish.symbolAt?_natCast,
      madeFirst, madeSecond]
    exact behind.store ⟨place⟩

/-- The tokens of a struct `T` with two fields `b`, of a variable `y` of a struct that there is not,
and of a function that counts the field of a `struct T t` and then `y`. -/
def pairTokens : List Token :=
  let word (kind : TokenKind) (w : String) : Token := { kind, value := .text w, pos := {} }
  let mark (kind : TokenKind) : Token := word kind ""
  [mark .structWord, word .identifier "T", mark .lbrace, mark .intType, word .identifier "b",
      mark .semicolon, mark .intType, word .identifier "b", mark .semicolon, mark .rbrace,
    mark .structWord, word .identifier "U", word .identifier "y", mark .semicolon,
    mark .voidType, word .identifier "g", mark .lparen, mark .structWord, word .identifier "T",
      word .identifier "t", mark .rparen, mark .lbrace, word .identifier "t", mark .dot,
      word .identifier "b", mark .increment, mark .semicolon, word .identifier "y",
      mark .increment, mark .semicolon, mark .rbrace]

/-- The struct `T`. -/
def pairStruct : Decl :=
  let field : Decl := .var {} (.int {}) { value := .text "b" }
  .struct {} { value := .text "T" } {} [field, field]

/-- The variable `y`. -/
def pairVariable : Decl :=
  .var {} (.struct {} { value := .text "U" }) { value := .text "y" }

/-- The function that counts the field and the variable. -/
def pairCounter : Decl :=
  let name (word : String) : Ident := { value := .text word }
  .func {} (.void {}) (name "g") { items := [⟨{}, .struct {} (name "T"), name "t"⟩] } {}
    (.mk {} [] {} [.increment {} (.dot {} (.ident (name "t")) (name "b")),
      .increment {} (.ident (name "y"))])

theorem declarations_commute_of_pairTokens :
    let run := PairRun.of [] pairStruct pairVariable [pairCounter]
    let run' := PairRun.of [] pairVariable pairStruct [pairCounter]
    pairStruct.IsRead ∧ pairVariable.IsRead ∧ pairCounter.IsRead ∧
      (∀ name ∈ pairStruct.idents, name.name ≠ pairVariable.name.name) ∧
      (∀ name ∈ pairVariable.idents, name.name ≠ pairStruct.name.name) ∧
      run.Exchanged run' ∧ run.madeFirst = 2 ∧ run.madeSecond = 1 ∧
      run.finish.log.entries.map Diagnostic.kind = [.duplicateName, .invalidStructType] ∧
      run'.finish.log.entries.map Diagnostic.kind = [.invalidStructType, .duplicateName] ∧
      (Decl.identsAll run.after).map Ident.symbol =
        [none, some 0, none, some 4, some 1, some 2] ∧
      (Decl.identsAll run'.after).map Ident.symbol =
        [none, some 1, none, some 4, some 2, some 0] := by
  have parsed : parseTokens pairTokens =
      .ok { decls := [pairStruct, pairVariable, pairCounter] } := rfl
  have readStruct : pairStruct.IsRead := ⟨_, _, parsed, by simp⟩
  have readVariable : pairVariable.IsRead := ⟨_, _, parsed, by simp⟩
  have readCounter : pairCounter.IsRead := ⟨_, _, parsed, by simp⟩
  have apart₁ : ∀ name ∈ pairStruct.idents, name.name ≠ pairVariable.name.name := by decide
  have apart₂ : ∀ name ∈ pairVariable.idents, name.name ≠ pairStruct.name.name := by decide
  obtain ⟨-, -, exchanged⟩ := declarations_commute (List.forall_mem_nil _) readStruct readVariable
    (List.forall_mem_singleton.mpr readCounter) apart₁ apart₂
  exact ⟨readStruct, readVariable, readCounter, apart₁, apart₂, exchanged, by decide, by decide,
    by decide, by decide, by decide, by decide⟩

end Minim
