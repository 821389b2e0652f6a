import Mathlib.Logic.Relation
import Minim.Proofs.Resolution.Consistency

/-!
# The moves of an analysis

Whatever an analysis does to its state is one of a few moves: it reports a fault, opens or closes a
scope, or declares a name with a new symbol; or an operation is refused, and then it ends with
everything left as it is. This holds of all trees and from all states. So what every move keeps,
every analysis keeps, wherever it ends.
-/

namespace Minim

namespace Resolution

namespace State

/-! ## Moves -/

/-- An operation that an analysis can come to is refused in a state, or a tree cannot be gone on
with. -/
inductive Refuses (s : State) : Failure → Prop
  | pop {error : ScopeError} (refused : s.table.pop = .error error) : Refuses s (.scope error)
  | declare {target : Target} {name : String} {error : ScopeError}
      (refused : (s.tableOf target).declare name s.nextId = .error error) :
      Refuses s (.scope error)
  | lookup {name : String} {error : ScopeError} (refused : s.table.lookup name = .error error) :
      Refuses s (.scope error)
  | lookupLocal {name : String} {error : ScopeError}
      (refused : s.table.lookupLocal name = .error error) : Refuses s (.scope error)
  | lookupField {struct : SymbolId} {fields : Table} {name : String} {error : ScopeError}
      (isStruct : s.store.fields? struct = some fields)
      (refused : fields.lookupLocal name = .error error) : Refuses s (.scope error)
  | structMember (struct : String) (kind : NodeKind) : Refuses s (.structMember struct kind)
  | dotBase (kind : NodeKind) : Refuses s (.dotBase kind)

/-- What an analysis can do at once to a state where it goes on. -/
inductive Move (s : State) : State → Prop
  | report (name : Ident) (kind : DiagnosticKind) : Move s (s.report name kind)
  | push : Move s (s.withTable s.table.push)
  | pop {table : Table} (popped : s.table.pop = .ok table) : Move s (s.withTable table)
  | declare {target : Target} {name : String} {table : Table}
      (bound : (s.tableOf target).declare name s.nextId = .ok table) (meaning : Meaning) :
      Move s (s.withNew target table name meaning)
  | refused {failure : Failure} (refuses : s.Refuses failure) : Move s (s.fail failure)

/-- From one state to another an analysis makes moves, as long as it goes on. -/
def Moves : State → State → Prop :=
  Relation.ReflTransGen fun s s' => s.failure = none ∧ s.Move s'

namespace Moves

variable {s s' s'' : State}

theorem refl (s : State) : Moves s s :=
  Relation.ReflTransGen.refl

theorem trans (h : Moves s s') (h' : Moves s' s'') : Moves s s'' :=
  Relation.ReflTransGen.trans h h'

theorem single (running : s.failure = none) (move : s.Move s') : Moves s s' :=
  Relation.ReflTransGen.single ⟨running, move⟩

/-- What every move keeps, all moves keep. -/
theorem keeps {motive : State → State → Prop} (refl : ∀ s, motive s s)
    (trans : ∀ {s s' s''}, motive s s' → motive s' s'' → motive s s'')
    (move : ∀ {s s'}, s.Move s' → motive s s') (h : Moves s s') : motive s s' := by
  induction h with
  | refl => exact refl _
  | tail _ last ih => exact trans ih (move last.2)

/-- An analysis that has failed was refused an operation by the state that it has left. -/
theorem exists_refuses {failure : Failure} (h : Moves s s') (running : s.failure = none)
    (failed : s'.failure = some failure) :
    ∃ u, Moves s u ∧ u.failure = none ∧ u.Refuses failure ∧ s' = u.fail failure := by
  induction h with
  | refl => cases running.symm.trans failed
  | @tail u s' before last ih =>
    obtain ⟨going, move⟩ := last
    cases move with
    | report | push | pop => cases going.symm.trans failed
    | @declare target _ _ _ _ => cases target <;> cases going.symm.trans failed
    | refused refuses =>
      cases failed
      exact ⟨u, before, going, refuses, rfl⟩

end Moves

/-! ## Growth -/

/-- From one state to another the log and the arena are at most extended at their ends, with symbols
that were in no arena and then know their places there. The symbols that were there keep their
names, their places, and what they are, the fields of structs apart. -/
structure Appends (s s' : State) : Prop where
  log : s.log.entries <+: s'.log.entries
  arena : s.arena.ids <+: s'.arena.ids
  symbols : ∀ id symbol, s.store.get? id = some symbol → ∃ symbol',
    s'.store.get? id = some symbol' ∧ symbol'.name = symbol.name ∧
      symbol'.meaning.outline = symbol.meaning.outline
  indices : ∀ id i, s.store.index? id = some i → s'.store.index? id = some i
  new : ∀ i id, s.arena.ids.length ≤ i → s'.arena.ids[i]? = some id →
    s.store.index? id = none ∧ s'.store.index? id = some i

namespace Appends

variable {s s' s'' : State}

theorem refl (s : State) : Appends s s where
  log := List.prefix_refl _
  arena := List.prefix_refl _
  symbols _ symbol known := ⟨symbol, known, rfl, rfl⟩
  indices _ _ index := index
  new i id outside stands := by
    rw [List.getElem?_eq_none outside] at stands
    cases stands

theorem trans (h : Appends s s') (h' : Appends s' s'') : Appends s s'' where
  log := h.log.trans h'.log
  arena := h.arena.trans h'.arena
  symbols id symbol known := by
    obtain ⟨symbol', known', name', meaning'⟩ := h.symbols id symbol known
    obtain ⟨symbol'', known'', name'', meaning''⟩ := h'.symbols id symbol' known'
    exact ⟨symbol'', known'', name''.trans name', meaning''.trans meaning'⟩
  indices id i index := h'.indices id i (h.indices id i index)
  new i id outside stands := by
    by_cases early : i < s'.arena.ids.length
    · -- The symbol was added on the first part of the way, and has kept its place since.
      obtain ⟨more, same⟩ := h'.arena
      rw [← same, List.getElem?_append_left early] at stands
      obtain ⟨free, placed⟩ := h.new i id outside stands
      exact ⟨free, h'.indices id i placed⟩
    · obtain ⟨free, placed⟩ := h'.new i id (Nat.not_lt.mp early) stands
      refine ⟨Option.eq_none_iff_forall_ne_some.mpr fun j placed' => ?_, placed⟩
      cases free.symm.trans (h.indices id j placed')

/-- Only the log and the scopes are changed. -/
theorem of_store (store : s'.store = s.store) (arena : s'.arena = s.arena)
    (log : s.log.entries <+: s'.log.entries) : Appends s s' where
  log := log
  arena := arena ▸ List.prefix_refl _
  symbols _ symbol known := ⟨symbol, store ▸ known, rfl, rfl⟩
  indices _ _ index := store ▸ index
  new i id outside stands := by
    rw [arena, List.getElem?_eq_none outside] at stands
    cases stands

/-- A name is declared with a new symbol. -/
theorem withNew (target : Target) (table : Table) (name : String) (meaning : Meaning) :
    Appends s (s.withNew target table name meaning) where
  log := (log_withNew table name meaning).symm ▸ List.prefix_refl _
  arena := (extends_withNew table).arena
  symbols id symbol known := by
    obtain ⟨symbol', known', name, -, meaning⟩ := (extends_withNew table).symbols id symbol known
    exact ⟨symbol', known', name, meaning⟩
  indices id i index := by
    obtain ⟨symbol, known, index⟩ := Option.bind_eq_some_iff.mp index
    obtain ⟨symbol', known', -, index', -⟩ := (extends_withNew table).symbols id symbol known
    exact Option.bind_eq_some_iff.mpr ⟨symbol', known', index'.trans index⟩
  new i id outside stands := by
    obtain ⟨small, -⟩ := List.getElem?_eq_some_iff.mp stands
    rw [ids_withNew, List.length_append, List.length_singleton] at small
    obtain rfl : i = s.arena.ids.length := by omega
    rw [ids_withNew, List.getElem?_concat_length] at stands
    cases stands
    refine ⟨?_, ?_⟩
    · rw [Store.index?, get?_nextId, Option.bind_none]
    · rw [Store.index?, get?_withNew, Option.bind_some]
      rfl

end Appends

/-- Every move appends. -/
theorem Move.appends {s s' : State} (h : s.Move s') : s.Appends s' := by
  cases h with
  | report name kind => exact .of_store rfl rfl (List.prefix_append ..)
  | push | pop | refused => exact .of_store rfl rfl (List.prefix_refl _)
  | declare bound meaning => exact .withNew ..

theorem Moves.appends {s s' : State} (h : s.Moves s') : s.Appends s' :=
  h.keeps .refl .trans Move.appends

end State

/-! ## Steps -/

/-- A step makes moves, if it does so where it is taken. -/
theorem unlessFailed_moves {α : Type} {s : State} {otherwise : α} {step : State → α × State}
    (taken : s.failure = none → s.Moves (step s).2) :
    s.Moves (unlessFailed otherwise step s).2 :=
  unlessFailed_cases (motive := fun after : α × State => s.Moves after.2) (.refl s) taken

theorem fail_moves {failure : Failure} {s : State} (refuses : s.Refuses failure) :
    s.Moves (fail failure s).2 :=
  unlessFailed_moves fun running => .single running (.refused refuses)

theorem report_moves (name : Ident) (kind : DiagnosticKind) (s : State) :
    s.Moves (report name kind s).2 :=
  unlessFailed_moves fun running => .single running (.report name kind)

theorem openScope_moves (s : State) : s.Moves (openScope s).2 :=
  unlessFailed_moves fun running => .single running .push

theorem closeScope_moves (s : State) : s.Moves (closeScope s).2 := by
  refine unlessFailed_moves fun running => ?_
  split <;> rename_i popped
  · exact .single running (.pop popped)
  · exact .single running (.refused (.pop popped))

theorem declare_moves (target : Target) (name : Ident) (meaning : Meaning) (s : State) :
    s.Moves (declare target name meaning s).2 := by
  refine unlessFailed_moves fun running => ?_
  rw [State.declare]
  split <;> rename_i answer
  · exact .single running (.report name .duplicateName)
  · exact .single running (.refused (.declare answer))
  · exact .single running (.declare answer meaning)

theorem useName_moves (name : Ident) (s : State) : s.Moves (useName name s).2 := by
  refine unlessFailed_moves fun running => ?_
  split <;> rename_i looked
  · exact .single running (.refused (.lookup looked))
  · exact .single running (.report name .undeclaredIdentifier)
  · exact .refl s

theorem useStructName_moves (structName declared : Ident) (s : State) :
    s.Moves (useStructName structName declared s).2 := by
  refine unlessFailed_moves fun running => ?_
  split <;> rename_i looked
  · exact .single running (.refused (.lookup looked))
  · exact .single running (.report declared .invalidStructType)
  · split <;> exact .refl s

theorem useField_moves (structName : String) (field : Ident) (s : State) :
    s.Moves (useField structName field s).2 := by
  refine unlessFailed_moves fun running => ?_
  split <;> rename_i looked
  · exact .single running (.refused (.lookup looked))
  · split <;> rename_i isStruct
    · exact .refl s
    · obtain ⟨struct, -, isStruct⟩ := Option.bind_eq_some_iff.mp isStruct
      split <;> rename_i looked'
      · exact .single running (.refused (.lookupField isStruct looked'))
      · exact .single running (.report field .invalidFieldName)
      · exact .refl s

theorem useBase_moves (base : Ident) (s : State) : s.Moves (useBase base s).2 := by
  refine unlessFailed_moves fun running => ?_
  split <;> rename_i looked
  · exact .single running (.refused (.lookupLocal looked))
  · split
    · exact .single running (.report base .dotAccessNonStruct)
    · exact .refl s

end Resolution

open Resolution

/-! ## Expressions -/

theorem Ident.resolveMember_moves (base field : Ident) (s : State) :
    s.Moves (base.resolveMember field s).2 := by
  cases found : (useBase base s).1.2 with
  | none =>
    rw [resolveMember_of_none found]
    exact useBase_moves base s
  | some structName =>
    rw [resolveMember_of_some found]
    exact (useBase_moves base s).trans (useField_moves structName field _)

mutual

theorem Expr.resolve_moves (e : Expr) (s : State) : s.Moves (e.resolve s).2 := by
  cases e with
  | int | string | bool => exact .refl s
  | ident name => exact useName_moves name s
  | dot pos base field =>
    cases base with
    | ident name => exact name.resolveMember_moves field s
    | dot pos' base' field' =>
      exact (Expr.resolve_moves (.dot pos' base' field') s).trans (useName_moves field _)
    | _ => exact fail_moves (.dotBase _)
  | assign pos target value => exact (target.resolve_moves s).trans (value.resolve_moves _)
  | call pos callee argsPos args =>
    exact (useName_moves callee s).trans (Expr.resolveAll_moves args _)
  | unary pos op operand => exact operand.resolve_moves s
  | binary pos left op right => exact (left.resolve_moves s).trans (right.resolve_moves _)

theorem Expr.resolveAll_moves (es : List Expr) (s : State) :
    s.Moves (Expr.resolveAll es s).2 := by
  cases es with
  | nil => exact .refl s
  | cons e es => exact (e.resolve_moves s).trans (Expr.resolveAll_moves es _)

end

/-! ## Variables -/

theorem TypeExpr.declare_moves (target : Target) (name : Ident) (type : TypeExpr) (s : State) :
    s.Moves (type.declare target name s).2 := by
  cases type with
  | int | bool => exact Resolution.declare_moves target name _ s
  | void pos => exact report_moves name .voidVariable s
  | struct pos structName =>
    exact (useStructName_moves structName name s).trans (Resolution.declare_moves target name _ _)

theorem Formal.resolveAll_moves (fs : List Formal) (s : State) :
    s.Moves (Formal.resolveAll fs s).2 := by
  induction fs generalizing s with
  | nil => exact .refl s
  | cons f fs ih => exact (f.type.declare_moves .scope f.name s).trans (ih _)

theorem Decl.resolveField_moves (structName : String) (struct : SymbolId) (d : Decl) (s : State) :
    s.Moves (d.resolveField structName struct s).2 := by
  cases d with
  | var pos type name => exact type.declare_moves (.fields struct) name s
  | func | struct => exact fail_moves (.structMember structName _)

theorem Decl.resolveFields_moves (structName : String) (struct : SymbolId) (fields : List Decl)
    (s : State) : s.Moves (Decl.resolveFields structName struct fields s).2 := by
  induction fields generalizing s with
  | nil => exact .refl s
  | cons d fields ih => exact (d.resolveField_moves structName struct s).trans (ih _)

/-! ## Declarations, statements and blocks -/

theorem Decl.resolve_struct_moves (pos : Position) (name : Ident) (fieldsPos : Position)
    (fields : List Decl) (s : State) :
    s.Moves ((Decl.struct pos name fieldsPos fields).resolve s).2 := by
  have declared := Resolution.declare_moves .scope name (.structDef .root) s
  cases answer : (Resolution.declare .scope name (.structDef .root) s).1 with
  | none =>
    rw [resolve_struct_of_none answer]
    exact declared
  | some struct =>
    rw [resolve_struct_of_some answer]
    exact declared.trans (Decl.resolveFields_moves name.name struct fields _)

/-- A part in a scope of its own. -/
theorem Resolution.State.Moves.inScope {s s' : State} (h : Moves (openScope s).2 s') :
    Moves s (closeScope s').2 :=
  (openScope_moves s).trans (h.trans (closeScope_moves s'))

mutual

theorem Decl.resolve_moves (d : Decl) (s : State) : s.Moves (d.resolve s).2 := by
  cases d with
  | var pos type name => exact type.declare_moves .scope name s
  | struct pos name fieldsPos fields => exact Decl.resolve_struct_moves pos name fieldsPos fields s
  | func pos returnType name formals bodyPos body =>
    have inside (s : State) := ((Formal.resolveAll_moves formals.items (openScope s).2).trans
      (body.resolveInside_moves _)).inScope
    exact (Resolution.declare_moves .scope name _ s).trans (inside _)

theorem Stmt.resolve_moves (st : Stmt) (s : State) : s.Moves (st.resolve s).2 := by
  cases st with
  | assign pos a => exact a.expr.resolve_moves s
  | call pos c => exact c.expr.resolve_moves s
  | increment pos e | decrement pos e | read pos e | write pos e => exact e.resolve_moves s
  | ret pos value =>
    cases value with
    | none => exact .refl s
    | some e => exact e.resolve_moves s
  | ifThen pos cond body | loop pos cond body =>
    exact (cond.resolve_moves s).trans (body.resolveInside_moves _).inScope
  | ifElse pos cond yes no =>
    exact (cond.resolve_moves s).trans
      ((yes.resolveInside_moves _).inScope.trans (no.resolveInside_moves _).inScope)

theorem Block.resolveInside_moves (b : Block) (s : State) :
    s.Moves (b.resolveInside s).2 := by
  cases b with
  | mk declsPos decls stmtsPos stmts =>
    exact (Decl.resolveAll_moves decls s).trans (Stmt.resolveAll_moves stmts _)

theorem Decl.resolveAll_moves (ds : List Decl) (s : State) :
    s.Moves (Decl.resolveAll ds s).2 := by
  cases ds with
  | nil => exact .refl s
  | cons d ds => exact (d.resolve_moves s).trans (Decl.resolveAll_moves ds _)

theorem Stmt.resolveAll_moves (ss : List Stmt) (s : State) :
    s.Moves (Stmt.resolveAll ss s).2 := by
  cases ss with
  | nil => exact .refl s
  | cons st ss => exact (st.resolve_moves s).trans (Stmt.resolveAll_moves ss _)

end

/-- **The analysis of any node, from any state, is made of moves.** -/
theorem Node.resolve_moves (node : Node) (s : State) : s.Moves (node.resolve s).2 := by
  cases node with
  | program T => exact Decl.resolveAll_moves T.decls s
  | declList pos decls => exact Decl.resolveAll_moves decls s
  | decl d => exact d.resolve_moves s
  | stmt st => exact st.resolve_moves s
  | expr e => exact e.resolve_moves s
  | formals | formal | body | stmtList | exprList | type => exact .refl s

end Minim
