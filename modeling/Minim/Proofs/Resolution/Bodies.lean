import Minim.Proofs.Resolution.Completion
import Minim.Proofs.Resolution.Links
import Minim.Proofs.Resolution.Mirrored
import Minim.Proofs.Scoping.Order

/-!
# Bodies of functions

What a function body declares is closed away with its scope. The analysis of what stands behind a
function is the same whatever its body, but that the symbols made behind it stand as many places
further on in the arena as the body has made symbols. So two analyses with different bodies are
compared with the one in which the body is empty: each of them is seen in a mirror that moves the
places from the body on.
-/

namespace Minim

open Resolution

/-- An identifier with another place noted at it, where some place is. -/
def Ident.renumber (f : Int → Int) (name : Ident) : Ident :=
  { name with symbol := name.symbol.map f }

/-! ## Making and finding -/

namespace Resolution

/-- A mirror that shows everything as it is. -/
def Mirror.plain : Mirror where
  ident := id
  word_injective := Function.injective_id
  entry_injective := Function.injective_id
  name_ident _ := rfl
  pos_ident _ := rfl
  ident_attach name index := by
    rw [Option.map_id]
    rfl

/-- Part of an analysis only adds to the arena and to the log. -/
theorem Mirror.Follows.grows {α : Type} {image : α → α} {part part' : Resolve α}
    (h : Mirror.plain.Follows image part part') (s : State) :
    (∃ made, s.Makes made (part s).2) ∧ s.log.entries <+: (part s).2.log.entries := by
  have start : Mirror.plain.Shows s s s s := by
    refine .start (fun _ => rfl) (fun _ => rfl) ?_ (View.table_of_still rfl rfl _).symm fun id => ?_
    · rw [View.failure_of_words rfl, Option.map_id]
      rfl
    · rw [View.symbol_of_still rfl rfl rfl, Option.map_id]
      rfl
  obtain ⟨-, -, -, -, -, -, ⟨made, makes, -⟩, found, log, -⟩ := h s s s s start
  exact ⟨⟨made, makes⟩, found, log.symm⟩

/-! ## Symbols made in between -/

/-- A place, or an identity, of the second of two analyses that go the same way but that the second
one has first made some symbols more, from a boundary on. -/
def movedUp (boundary more n : Nat) : Nat := if n < boundary then n else n + more

/-- The first of two analyses that go the same way but that the second one has made more symbols. -/
def View.more (boundary more : Nat) : View where
  entry id := ⟨movedUp boundary more id.number⟩
  place := movedUp boundary more
  ident := Ident.renumber fun place => if place < boundary then place else place + more

theorem movedUp_injective (boundary more : Nat) : Function.Injective (movedUp boundary more) := by
  intro i j same
  simp only [movedUp] at same
  split at same <;> split at same <;> omega

/-- Different symbols stay different where the later ones are moved up by the same number. -/
def Mirror.more (boundary more : Nat) : Mirror where
  toView := .more boundary more
  word_injective := Function.injective_id
  entry_injective id id' same := by
    obtain ⟨i⟩ := id
    obtain ⟨j⟩ := id'
    exact congrArg SymbolId.mk (movedUp_injective boundary more (SymbolId.mk.inj same))
  name_ident _ := rfl
  pos_ident _ := rfl
  ident_attach name index := by
    cases index with
    | none => rfl
    | some place =>
      have same : (if (place : Int) < boundary then (place : Int) else place + more) =
          (movedUp boundary more place : Nat) := by
        rw [movedUp]
        split <;> split <;> omega
      exact congrArg (fun place => Ident.mk name.pos name.value (some place)) same

/-! ## States between declarations -/

/-- A state that an analysis has come to from a fresh one: it goes on, all that was made is in the
arena, and everything leads there. -/
structure State.Reached (s : State) : Prop where
  ready : s.Ready
  consistent : s.Consistent
  made : ∃ made, State.Makes made {} s

theorem State.reached_fresh : State.Reached {} :=
  ⟨State.ready_fresh, State.consistent_fresh, 0, .refl _⟩

namespace State.Reached

variable {s : State}

/-- The symbols are those of the arena, each at the place of its number. -/
theorem index (h : s.Reached) {id : SymbolId} {symbol : Symbol}
    (known : s.store.get? id = some symbol) :
    id ∈ s.arena.ids ∧ symbol.index = some id.number ∧ id.number < s.arena.size := by
  obtain ⟨made, store, arena⟩ := h.made
  obtain ⟨small, -⟩ := List.getElem?_eq_some_iff.mp known
  have early : id.number < made := by
    rwa [store, show ({} : State).store.symbols.length = 0 from rfl, Nat.zero_add] at small
  have stands : s.arena.ids[id.number]? = some id := by
    rw [arena, List.nil_append, List.getElem?_map, List.getElem?_range early]
    exact congrArg (fun n => some (SymbolId.mk n)) (Nat.zero_add _)
  obtain ⟨symbol', known', index⟩ := h.consistent.places _ _ stands
  cases known.symm.trans known'
  exact ⟨List.mem_of_getElem? stands, index, (List.getElem?_eq_some_iff.mp stands).1⟩

theorem length_symbols (h : s.Reached) : s.store.symbols.length = s.arena.size := by
  obtain ⟨made, makes⟩ := h.made
  rw [makes.1, makes.size]
  rfl

/-- Tables that lead into the arena are seen as they are where only later symbols are moved. -/
theorem table_more (h : s.Reached) (more : Nat) {table : Table} (backs : s.Backs table) :
    (View.more s.arena.size more).table table = table := by
  refine View.table_of_fixed rfl fun scope mem binding inside => ?_
  obtain ⟨_, symbol, -, known, -⟩ := backs scope mem binding inside
  exact congrArg SymbolId.mk (if_pos (h.index known).2.2)

theorem symbol_more (h : s.Reached) (more : Nat) {id : SymbolId} {symbol : Symbol}
    (known : s.store.get? id = some symbol) :
    (View.more s.arena.size more).symbol symbol = symbol := by
  obtain ⟨mem, index, early⟩ := h.index known
  refine View.symbol_of_fixed rfl ?_ fun table isStruct => ?_
  · rw [index, Option.map_some]
    exact congrArg some (if_pos early)
  · exact h.table_more more
      (h.consistent.fields id mem table (Store.fields?_eq_some.mpr ⟨symbol, known, isStruct⟩))

end State.Reached

/-! ## Behind a body -/

/-- From the state at a body to the one behind it: the scope of the function is closed, some symbols
were made, and those that were there are as they were. -/
structure State.Behind (s s' : State) (made : Nat) : Prop where
  running : s'.failure = none
  table : s'.table = ⟨s.table.scopes.tail⟩
  symbols : ∀ id symbol, s.store.get? id = some symbol → s'.store.get? id = some symbol
  makes : s.Makes made s'
  log : s.log.entries <+: s'.log.entries

/-- A scope is closed behind what was declared in it. -/
theorem State.Behind.close {s s' : State} {names : List String} {made : Nat} (h : s.Ready)
    (running : s'.failure = none) (binds : s.Binds .scope names s') (makes : s.Makes made s')
    (log : s.log.entries <+: s'.log.entries) : s.Behind (closeScope s').2 made := by
  obtain ⟨more, scopes, -⟩ := binds.scopes running
  have popped : s'.table.pop = .ok ⟨s.table.scopes.tail⟩ := by
    obtain ⟨scope, outer, opened⟩ := List.exists_cons_of_ne_nil h.opened
    rw [opened] at scopes
    rw [ScopeStack.pop, scopes, opened]
    rfl
  have closed : closeScope s' = ((), s'.withTable ⟨s.table.scopes.tail⟩) := by
    rw [closeScope, unlessFailed_of_running running, popped]
  rw [closed]
  exact ⟨running, rfl, fun _ _ known => binds.symbol known, makes, log⟩

/-- What is behind an empty body is seen in what is behind another one, where the symbols to be made
are moved up. -/
theorem State.Behind.shows {s t₀ t : State} {made : Nat} (h : s.Reached) (h₀ : s.Behind t₀ 0)
    (h' : s.Behind t made) : (Mirror.more s.arena.size made).Shows t₀ t t₀ t := by
  have moved (k : Nat) : movedUp s.arena.size made (s.arena.size + 0 + k) =
      s.arena.size + made + k := by
    rw [movedUp, if_neg (by omega)]
    omega
  refine .start (fun k => ?_) (fun k => ?_) ?_ ?_ fun id => ?_
  · rw [h₀.makes.1, h'.makes.1, h.length_symbols]
    exact congrArg SymbolId.mk (moved k)
  · rw [h₀.makes.size, h'.makes.size]
    exact moved k
  · rw [h₀.running, h'.running]
    rfl
  · rw [h₀.table, h'.table]
    have outer : s.Backs ⟨s.table.scopes.tail⟩ := fun scope mem =>
      h.consistent.scopes scope (List.mem_of_mem_tail mem)
    exact (h.table_more made outer).symm
  · cases known : s.store.get? id with
    | some symbol =>
      have still : (Mirror.more s.arena.size made).entry id = id :=
        congrArg SymbolId.mk (if_pos (h.index known).2.2)
      rw [still, h₀.symbols id symbol known, h'.symbols id symbol known, Option.map_some]
      exact congrArg some (h.symbol_more made known).symm
    | none =>
      have late : s.arena.size ≤ id.number := by
        rw [← h.length_symbols]
        exact List.getElem?_eq_none_iff.mp known
      have none₀ : t₀.store.get? id = none := by
        refine List.getElem?_eq_none ?_
        rw [h₀.makes.1, h.length_symbols]
        exact late
      have none' : t.store.get? ((Mirror.more s.arena.size made).entry id) = none := by
        refine List.getElem?_eq_none ?_
        show _ ≤ movedUp s.arena.size made id.number
        rw [h'.makes.1, h.length_symbols, movedUp, if_neg (by omega)]
        omega
      rw [none₀, none']
      rfl

end Resolution

/-! ## Functions between other declarations -/

/-- The analysis of a function up to its body: its name is declared, and then, in a scope of their
own, its formal parameters. -/
def Formals.resolveHead (returnType : TypeExpr) (name : Ident) (formals : Formals) :
    Resolve Formals := do
  let _ ← Resolution.declare .scope name
    (.func returnType.dataType (formals.items.map (·.type.dataType)))
  openScope
  formals.resolve

/-- The analysis of a program with a function between other declarations, in its parts: the
declarations before the function, its formal parameters, its body and the declarations behind it, as
they are annotated, and the states in between. -/
structure FunctionRun where
  before : List Decl
  atFunction : State
  formals : Formals
  atBody : State
  body : Block
  behind : State
  after : List Decl
  finish : State

/-- The parts of the analysis, from a fresh state. -/
def FunctionRun.of (A : List Decl) (returnType : TypeExpr) (name : Ident) (formals : Formals)
    (body : Block) (B : List Decl) : FunctionRun :=
  let (before, atFunction) := Decl.resolveAll A {}
  let (formals, atBody) := formals.resolveHead returnType name atFunction
  let (body, inside) := body.resolveInside atBody
  let behind := (closeScope inside).2
  let (after, finish) := Decl.resolveAll B behind
  { before, atFunction, formals, atBody, body, behind, after, finish }

/-- The number of symbols that a body made. -/
def FunctionRun.made (run : FunctionRun) : Nat := run.behind.arena.size - run.atBody.arena.size

/-- The parts make up the analysis of the program. -/
theorem FunctionRun.analyze_eq (A : List Decl) (pos : Position) (returnType : TypeExpr)
    (name : Ident) (formals : Formals) (bodyPos : Position) (body : Block) (B : List Decl) :
    let run := FunctionRun.of A returnType name formals body B
    Program.analyze { decls := A ++ .func pos returnType name formals bodyPos body :: B } =
      { program :=
          { decls := run.before ++
              .func pos returnType name run.formals bodyPos run.body :: run.after }
        state := run.finish } := by
  intro run
  rw [Program.analyze, Program.resolve]
  simp only [bind_run, pure_run, Decl.resolveAll_append]
  rfl

/-- What is declared in a scope: the names in their order, each with what it stands for. -/
def Resolution.State.declared (s : State) (scope : Scope SymbolId) :
    List (String × Option Meaning) :=
  scope.map fun binding => (binding.1, (s.store.get? binding.2).map (·.meaning.outline))

/-- Two analyses with different bodies of a function are the same but for the bodies. -/
structure FunctionRun.Interchangeable (run₁ run₂ : FunctionRun) : Prop where
  running : run₁.finish.failure = none ∧ run₂.finish.failure = none
  before : run₂.before = run₁.before ∧ run₂.atFunction = run₁.atFunction
  head : run₂.formals = run₁.formals ∧ run₂.atBody = run₁.atBody
  /-- The same faults are found before the function, at its head, and behind it. -/
  log : ∃ ofHead ofBody₁ ofBody₂ ofAfter,
    run₁.atBody.log.entries = run₁.atFunction.log.entries ++ ofHead ∧
    run₁.finish.log.entries = run₁.atBody.log.entries ++ ofBody₁ ++ ofAfter ∧
    run₂.finish.log.entries = run₁.atBody.log.entries ++ ofBody₂ ++ ofAfter ∧
    run₁.behind.log.entries = run₁.atBody.log.entries ++ ofBody₁ ∧
    run₂.behind.log.entries = run₁.atBody.log.entries ++ ofBody₂
  /-- The same names are declared in the outermost scope, for the same things. -/
  declared : ∃ scope₁ scope₂, run₁.finish.table = ⟨[scope₁]⟩ ∧ run₂.finish.table = ⟨[scope₂]⟩ ∧
    run₂.finish.declared scope₂ = run₁.finish.declared scope₁
  /-- Behind the function nothing leads to what its body made. -/
  apart : ∀ name ∈ Decl.identsAll run₁.after, ∀ place : Int, name.symbol = some place →
    place < run₁.atBody.arena.size ∨ run₁.atBody.arena.size + run₁.made ≤ place
  /-- Behind the function the places from the body on differ by what the bodies made. -/
  after : Decl.identsAll run₂.after = (Decl.identsAll run₁.after).map (Ident.renumber fun place =>
    if place < run₁.atBody.arena.size then place else place - run₁.made + run₂.made)

/-- A declaration of a program that was read from tokens. -/
def Decl.IsRead (d : Decl) : Prop := ∃ tokens T, parseTokens tokens = .ok T ∧ d ∈ T.decls

theorem Decl.IsRead.shaped {d : Decl} (h : d.IsRead) : d.Shaped := by
  obtain ⟨tokens, T, read, mem⟩ := h
  exact shaped_of_parseTokens read d mem

theorem Decl.IsRead.unannotated {d : Decl} (h : d.IsRead) :
    ∀ name ∈ d.idents, name.symbol = none := by
  obtain ⟨tokens, T, read, mem⟩ := h
  exact fun name inside =>
    symbol_of_parseTokens read name (Decl.mem_identsAll.mpr ⟨d, mem, inside⟩)

/-- Where nothing is noted, no place is changed. -/
theorem Ident.renumber_of_unannotated {name : Ident} (unannotated : name.symbol = none)
    (f : Int → Int) : name.renumber f = name := by
  obtain ⟨pos, value, symbol⟩ := name
  cases unannotated
  rfl

theorem Decl.IsRead.edit_renumber {d : Decl} (read : d.IsRead) (f : Int → Int) :
    d.edit { ident := Ident.renumber f } = d :=
  Decl.edit_of_fixed (fun _ => rfl) d fun name mem =>
    Ident.renumber_of_unannotated (read.unannotated name mem) f

theorem Decl.editAll_renumber {ds : List Decl} (read : ∀ d ∈ ds, d.IsRead) (f : Int → Int) :
    Decl.editAll { ident := Ident.renumber f } ds = ds := by
  refine Decl.editAll_of_fixed (fun _ => rfl) ds fun name mem => ?_
  obtain ⟨d, inside, mem⟩ := Decl.mem_identsAll.mp mem
  exact Ident.renumber_of_unannotated ((read d inside).unannotated name mem) f

section

variable (returnType : TypeExpr) (name : Ident) (formals : Formals)

theorem Formals.resolveHead_follows (m : Mirror) :
    m.Follows (Formals.edit m.edit) (formals.resolveHead returnType name)
      ((formals.edit m.edit).resolveHead (returnType.edit m.edit) (m.ident name)) := by
  exact (formals.declare_follows m returnType name).bind fun _ =>
    m.openScope_follows.bind fun _ => formals.resolve_follows m

theorem Formals.resolveHead_reached {s : State} (h : s.Reached) :
    (formals.resolveHead returnType name s).2.Reached ∧
      s.log.entries <+: (formals.resolveHead returnType name s).2.log.entries := by
  let declared := (Resolution.declare .scope name
    (.func returnType.dataType (formals.items.map (·.type.dataType))) s).2
  have leads : s.Leads [] declared [] :=
    Resolution.declare_leads name (by simp) (by simp)
  have opened : declared.Leads [] (openScope declared).2 [] :=
    .of_keeps (openScope_keeps declared) (State.openScope_backs declared)
  obtain ⟨⟨more, makes'⟩, log⟩ :=
    (Formals.resolveHead_follows returnType name formals .plain).grows s
  obtain ⟨made, makes⟩ := h.made
  refine ⟨⟨?_, ?_, made + more, makes.trans makes'⟩, log⟩
  · have ready : declared.Ready := Resolution.declare_ready .scope name _ h.ready (by simp)
    exact Formal.resolveAll_ready formals.items ready.openScope
  · have consistent := opened.consistent (leads.consistent h.consistent)
    exact (Formal.resolveAll_leads formals.items _).consistent consistent

end

theorem Decl.resolveAll_reached {ds : List Decl} (read : ∀ d ∈ ds, d.IsRead) {s : State}
    (h : s.Reached) : (Decl.resolveAll ds s).2.Reached where
  ready := Decl.resolveAll_ready (fun d mem _ => Decl.resolve_ready (read d mem).shaped) h.ready
  consistent := (Decl.resolveAll_leads ds s).consistent h.consistent
  made := by
    obtain ⟨made, makes⟩ := h.made
    obtain ⟨⟨more, makes'⟩, -⟩ := (Decl.resolveAll_follows .plain ds).grows s
    exact ⟨made + more, makes.trans makes'⟩

/-- What a body of the grammar leaves behind it. -/
theorem Block.resolveInside_behind {body : Block} (shaped : body.Shaped) {s : State}
    (h : s.Ready) : ∃ made, s.Behind (closeScope (body.resolveInside s).2).2 made := by
  obtain ⟨⟨made, makes⟩, log⟩ := (Block.resolveInside_follows .plain body).grows s
  exact ⟨made, .close h (body.resolveInside_ready shaped h).running (body.resolveInside_binds s)
    makes log⟩

/-- The declarations behind a body are analysed as behind an empty one, up to the places of symbols
that are made there. -/
theorem Decl.resolveAll_behind {B : List Decl} (read : ∀ d ∈ B, d.IsRead) {s t₀ t : State}
    {made : Nat} (h : s.Reached) (h₀ : s.Behind t₀ 0) (h' : s.Behind t made) :
    (Decl.resolveAll B t).1 =
        Decl.editAll (Mirror.more s.arena.size made).edit (Decl.resolveAll B t₀).1 ∧
      (Mirror.more s.arena.size made).Shows t₀ t (Decl.resolveAll B t₀).2
        (Decl.resolveAll B t).2 := by
  have follows := Decl.resolveAll_follows (.more s.arena.size made) B t₀ t t₀ t (h₀.shows h h')
  rwa [show Decl.editAll (Mirror.more s.arena.size made).edit B = B from
    Decl.editAll_renumber read _] at follows

/-! ### What is seen behind a body -/

namespace Resolution

variable {boundary made : Nat} {s₀ t₀ s t : State}

/-- Where no position is changed, the same faults are found. -/
theorem Mirror.Shows.found {m : Mirror} (still : m.pos = id) (h : m.Shows s₀ t₀ s t)
    {found : List Diagnostic} (log : s.log.entries = s₀.log.entries ++ found) :
    t.log.entries = t₀.log.entries ++ found := by
  obtain ⟨found', log₀, log'⟩ := h.log
  rw [log₀] at log
  have same : m.diagnostic = id := by
    funext fault
    rw [View.diagnostic, still]
    rfl
  rw [log', ← List.append_cancel_left log, same, List.map_id]

theorem View.outline_meaning {v : View} (words : v.word = id) (meaning : Meaning) :
    (v.meaning meaning).outline = meaning.outline := by
  cases meaning with
  | structDef => rfl
  | _ => exact congrArg Meaning.outline (View.meaning_of_fixed words nofun)

/-- What is declared in a scope stands for the same things behind any body. -/
theorem Mirror.Shows.declared_more (h : (Mirror.more boundary made).Shows s₀ t₀ s t)
    (scope : Scope SymbolId) :
    t.declared ((Mirror.more boundary made).scope scope) = s.declared scope := by
  rw [State.declared, State.declared, View.scope, List.map_map]
  refine List.map_congr_left fun binding _ => congrArg (Prod.mk binding.1) ?_
  show (t.store.get? ((Mirror.more boundary made).entry binding.2)).map _ = _
  rw [h.store, Option.map_map]
  exact congrArg (Option.map · _) (funext fun symbol => View.outline_meaning rfl symbol.meaning)

end Resolution

/-- Behind two bodies. -/
theorem Ident.renumber_renumber (boundary made₁ made₂ : Nat) (name : Ident) :
    Ident.renumber (fun place => if place < boundary then place else place - made₁ + made₂)
        (name.renumber fun place => if place < boundary then place else place + made₁) =
      name.renumber fun place => if place < boundary then place else place + made₂ := by
  obtain ⟨pos, value, symbol⟩ := name
  cases symbol with
  | none => rfl
  | some place =>
    refine congrArg (fun place => Ident.mk pos value (some place)) ?_
    beta_reduce
    split_ifs <;> omega

section

variable {A B : List Decl} {pos bodyPos bodyPos₁ bodyPos₂ : Position} {returnType : TypeExpr}
  {name : Ident} {formals : Formals} {body body₁ body₂ : Block}

/-- The analysis of what was read goes on to the end. -/
theorem FunctionRun.running (readA : ∀ d ∈ A, d.IsRead) (readB : ∀ d ∈ B, d.IsRead)
    (read : (Decl.func pos returnType name formals bodyPos body).IsRead) :
    (FunctionRun.of A returnType name formals body B).finish.failure = none := by
  let T : Program := { decls := A ++ .func pos returnType name formals bodyPos body :: B }
  have shaped : T.Shaped := by
    refine List.forall_mem_append.mpr ⟨fun d mem => (readA d mem).shaped, ?_⟩
    exact List.forall_mem_cons.mpr ⟨read.shaped, fun d mem => (readB d mem).shaped⟩
  have running : T.analyze.state.failure = none :=
    (Program.resolve_ready shaped State.ready_fresh).running
  rwa [FunctionRun.analyze_eq] at running

/-- Behind a body one scope is open, as before the function. -/
theorem FunctionRun.exists_scope
    (running : (Decl.resolveAll B
      (closeScope (FunctionRun.of A returnType name formals body B).atBody).2).2.failure = none) :
    ∃ scope, (Decl.resolveAll B
      (closeScope (FunctionRun.of A returnType name formals body B).atBody).2).2.table =
        ⟨[scope]⟩ := by
  have head (s : State) := (Formal.resolveAll_binds formals.items (openScope s).2).inScope
  have binds := (Decl.resolveAll_binds A {}).append ((Resolution.declare_binds .scope name
    (.func returnType.dataType (formals.items.map (·.type.dataType))) _).append
      ((head _).append (Decl.resolveAll_binds B _)))
  have depth := (binds.scopes running).depth
  obtain ⟨scope, one⟩ := List.length_eq_one_iff.mp depth
  exact ⟨scope, congrArg ScopeStack.mk one⟩

theorem FunctionRun.made_eq {run : FunctionRun} {made : Nat}
    (h : run.atBody.Behind run.behind made) : run.made = made := by
  rw [FunctionRun.made, h.makes.size, Nat.add_sub_cancel_left]

/-- **Bodies of functions do not interfere with the rest of a program.** Two programs that differ in
the body of a function alone are analysed in the same way but for the bodies: the same faults are
found before the function, at its name and its formal parameters, and behind it; the same names are
declared in the outermost scope, for the same things; before the function and at its head the same
places are noted at the identifiers; and behind it the same identifiers are annotated, those that
refer to symbols from before the body with the same places, and the others with places that differ
by as much as the numbers of symbols that the bodies made. -/
theorem bodies_interchangeable (readA : ∀ d ∈ A, d.IsRead) (readB : ∀ d ∈ B, d.IsRead)
    (read₁ : (Decl.func pos returnType name formals bodyPos₁ body₁).IsRead)
    (read₂ : (Decl.func pos returnType name formals bodyPos₂ body₂).IsRead) :
    let run₁ := FunctionRun.of A returnType name formals body₁ B
    let run₂ := FunctionRun.of A returnType name formals body₂ B
    Program.analyze { decls := A ++ .func pos returnType name formals bodyPos₁ body₁ :: B } =
        { program :=
            { decls := run₁.before ++
                .func pos returnType name run₁.formals bodyPos₁ run₁.body :: run₁.after }
          state := run₁.finish } ∧
      Program.analyze { decls := A ++ .func pos returnType name formals bodyPos₂ body₂ :: B } =
        { program :=
            { decls := run₂.before ++
                .func pos returnType name run₂.formals bodyPos₂ run₂.body :: run₂.after }
          state := run₂.finish } ∧
      run₁.Interchangeable run₂ := by
  intro run₁ run₂
  obtain ⟨reached, ofHead⟩ := Formals.resolveHead_reached returnType name formals
    (Decl.resolveAll_reached readA State.reached_fresh)
  obtain ⟨made₁, behind₁⟩ : ∃ made, run₁.atBody.Behind run₁.behind made :=
    Block.resolveInside_behind read₁.shaped reached.ready
  obtain ⟨made₂, behind₂⟩ : ∃ made, run₁.atBody.Behind run₂.behind made :=
    Block.resolveInside_behind read₂.shaped reached.ready
  -- Both analyses are compared with the one in which nothing comes between the head and the end of
  -- the function.
  have behind₀ : run₁.atBody.Behind (closeScope run₁.atBody).2 0 :=
    .close reached.ready reached.ready.running (.refl _ []) (.refl _) (List.prefix_refl _)
  obtain ⟨after₁, shows₁⟩ := Decl.resolveAll_behind readB reached behind₀ behind₁
  obtain ⟨after₂, shows₂⟩ := Decl.resolveAll_behind readB reached behind₀ behind₂
  have size₁ : run₁.made = made₁ := FunctionRun.made_eq behind₁
  have size₂ : run₂.made = made₂ := FunctionRun.made_eq behind₂
  have running₁ : run₁.finish.failure = none := FunctionRun.running readA readB read₁
  refine ⟨FunctionRun.analyze_eq .., FunctionRun.analyze_eq .., ?_⟩
  constructor
  case running => exact ⟨running₁, FunctionRun.running readA readB read₂⟩
  case before => exact ⟨rfl, rfl⟩
  case head => exact ⟨rfl, rfl⟩
  case log =>
    obtain ⟨ofHead, logHead⟩ := ofHead
    obtain ⟨ofBody₁, logBody₁⟩ := behind₁.log
    obtain ⟨ofBody₂, logBody₂⟩ := behind₂.log
    obtain ⟨-, ofAfter, logAfter⟩ :=
      (Decl.resolveAll_follows .plain B).grows (closeScope run₁.atBody).2
    refine ⟨ofHead, ofBody₁, ofBody₂, ofAfter, logHead.symm, ?_, ?_, logBody₁.symm, logBody₂.symm⟩
    · rw [logBody₁]
      exact shows₁.found rfl logAfter.symm
    · rw [logBody₂]
      exact shows₂.found rfl logAfter.symm
  case declared =>
    have running₀ := shows₁.failure.symm.trans running₁
    obtain ⟨scope, table⟩ := FunctionRun.exists_scope (Option.map_eq_none_iff.mp running₀)
    have table₁ := shows₁.table
    have table₂ := shows₂.table
    rw [table] at table₁ table₂
    exact ⟨_, _, table₁, table₂,
      (shows₂.declared_more scope).trans (shows₁.declared_more scope).symm⟩
  case apart =>
    intro name mem place noted
    rw [show run₁.after = _ from after₁, Decl.identsAll_editAll] at mem
    obtain ⟨name, -, rfl⟩ := List.mem_map.mp mem
    obtain ⟨place, -, rfl⟩ := Option.map_eq_some_iff.mp noted
    rw [size₁]
    show (if place < (run₁.atBody.arena.size : Int) then place else place + made₁) < _ ∨
      _ ≤ if place < (run₁.atBody.arena.size : Int) then place else place + made₁
    split_ifs <;> omega
  case after =>
    rw [show run₁.after = _ from after₁, show run₂.after = _ from after₂, Decl.identsAll_editAll,
      Decl.identsAll_editAll, List.map_map, size₁, size₂]
    exact List.map_congr_left fun name _ =>
      (Ident.renumber_renumber run₁.atBody.arena.size made₁ made₂ name).symm

end

/-- The tokens of a struct `S` with a field `a`, of a function `f` without parameters whose body has
some tokens, and of a function that counts the field of a `struct S s`. -/
def aroundTokens (body : List Token) : List Token :=
  let word (kind : TokenKind) (w : String) : Token := { kind, value := .text w, pos := {} }
  let mark (kind : TokenKind) : Token := word kind ""
  [mark .structWord, word .identifier "S", mark .lbrace, mark .intType, word .identifier "a",
      mark .semicolon, mark .rbrace,
    mark .voidType, word .identifier "f", mark .lparen, mark .rparen, mark .lbrace] ++ body ++
    [mark .rbrace,
    mark .voidType, word .identifier "g", mark .lparen, mark .structWord, word .identifier "S",
      word .identifier "s", mark .rparen, mark .lbrace, word .identifier "s", mark .dot,
      word .identifier "a", mark .increment, mark .semicolon, mark .rbrace]

/-- The tokens of a variable `x` that is declared twice. -/
def twiceTokens : List Token :=
  let word (kind : TokenKind) (w : String) : Token := { kind, value := .text w, pos := {} }
  let declared := [word .intType "", word .identifier "x", word .semicolon ""]
  declared ++ declared

/-- The struct `S`. -/
def structAround : Decl :=
  .struct {} { value := .text "S" } {} [.var {} (.int {}) { value := .text "a" }]

/-- The function `f` with some variables `x`. -/
def functionWith (times : Nat) : Decl :=
  .func {} (.void {}) { value := .text "f" } {} {}
    (.mk {} (List.replicate times (.var {} (.int {}) { value := .text "x" })) {} [])

/-- The function that counts the field. -/
def counterAround : Decl :=
  let name (word : String) : Ident := { value := .text word }
  .func {} (.void {}) (name "g") { items := [⟨{}, .struct {} (name "S"), name "s"⟩] } {}
    (.mk {} [] {} [.increment {} (.dot {} (.ident (name "s")) (name "a"))])

theorem bodies_interchangeable_of_functionWith :
    let run (times : Nat) := FunctionRun.of [structAround] (.void {}) { value := .text "f" } {}
      (.mk {} (List.replicate times (.var {} (.int {}) { value := .text "x" })) {} [])
      [counterAround]
    structAround.IsRead ∧ counterAround.IsRead ∧ (functionWith 0).IsRead ∧ (functionWith 2).IsRead ∧
      (run 0).Interchangeable (run 2) ∧ (run 0).made = 0 ∧ (run 2).made = 1 ∧
      (run 0).finish.log.entries.length = 0 ∧ (run 2).finish.log.entries.length = 1 ∧
      (Decl.identsAll (run 0).after).map Ident.symbol =
        [none, some 0, none, some 4, some 1] ∧
      (Decl.identsAll (run 2).after).map Ident.symbol =
        [none, some 0, none, some 5, some 1] := by
  have parsed₀ : parseTokens (aroundTokens []) =
      .ok { decls := [structAround, functionWith 0, counterAround] } := rfl
  have parsed₂ : parseTokens (aroundTokens twiceTokens) =
      .ok { decls := [structAround, functionWith 2, counterAround] } := rfl
  have readS : structAround.IsRead := ⟨_, _, parsed₀, by simp⟩
  have readG : counterAround.IsRead := ⟨_, _, parsed₀, by simp⟩
  have read₀ : (functionWith 0).IsRead := ⟨_, _, parsed₀, by simp⟩
  have read₂ : (functionWith 2).IsRead := ⟨_, _, parsed₂, by simp⟩
  obtain ⟨-, -, interchangeable⟩ := bodies_interchangeable (A := [structAround])
    (B := [counterAround]) (List.forall_mem_singleton.mpr readS)
    (List.forall_mem_singleton.mpr readG) read₀ read₂
  exact ⟨readS, readG, read₀, read₂, interchangeable, by decide, by decide, by decide, by decide,
    by decide, by decide⟩

end Minim
