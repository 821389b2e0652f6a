import Minim.Proofs.Scoping.Accounting
import Minim.Proofs.Scoping.Analysis
import Minim.Syntax.Equality

/-!
# What becomes of declared names

Every declared name that the analysis of a program visits is answered in one of three ways; the
arena has the symbols that are made, in the order of the text, and the faults at declared names are
those of the visits.
-/

namespace Minim

open Resolution

variable {made ds : List Declared} {scopes : List (List Declared)} {s : State}

/-! ## Variables -/

theorem TypeExpr.plain (type : TypeExpr) :
    ∀ meaning, type.meaning? = some meaning → meaning.outline = meaning :=
  fun _ => Meaning.outline_of_meaning?

/-- A variable is visited, or a formal parameter or a field. -/
theorem Resolution.State.AgreesAt.visitVariable {target : Target}
    (h : s.AgreesAt target made ds scopes) (type : TypeExpr) (name : Ident) :
    Accounts (made ++ Declared.made ds ⟨name, type.meaning?⟩) (type.idents ++ [name])
      [⟨target, name, .typed type, s⟩] s (type.declare target name s).2 :=
  (Accounts.visit (v := ⟨target, name, .typed type, s⟩) h type.plain).widen
    (List.sublist_append_right _ _)

theorem Formal.visitsAll_accounts (fs : List Formal) (h : s.AgreesAt .scope made ds scopes) :
    Accounts (made ++ Declared.madeAll ds (fs.map Formal.declared)) (fs.flatMap Formal.idents)
      (Formal.visitsAll s fs) s (Formal.resolveAll fs s).2 := by
  induction fs generalizing made ds s with
  | nil => exact .of_reads (.refl s) []
  | cons f fs ih =>
    have first := h.visitVariable f.type f.name
    have others := ih (h.declareVariable f.type f.name).1
    rw [List.map_cons, Declared.madeAll, ← List.append_assoc made]
    exact (first.mono _).append others

theorem Decl.fieldVisits_accounts (structName : String) {struct : SymbolId} (fields : List Decl)
    (shaped : ∀ d ∈ fields, d.kind = .varDecl) (h : s.AgreesAt (.fields struct) made ds scopes) :
    Accounts (made ++ Declared.madeAll ds (fields.map Decl.declared)) (Decl.identsAll fields)
      (Decl.fieldVisits structName struct s fields) s
      (Decl.resolveFields structName struct fields s).2 := by
  induction fields generalizing made ds s with
  | nil => exact .of_reads (.refl s) []
  | cons d fields ih =>
    obtain ⟨isVariable, others⟩ := List.forall_mem_cons.mp shaped
    cases d with
    | var pos type name =>
      have first := h.visitVariable type name
      have others := ih others (h.declareVariable type name).1
      rw [List.map_cons, Declared.madeAll, ← List.append_assoc made]
      exact (first.mono _).append others
    | func => cases isVariable
    | struct => cases isVariable

/-! ## Structs -/

theorem Decl.visits_struct_accounts (pos : Position) (name : Ident) (fieldsPos : Position)
    {fields : List Decl} (shaped : ∀ d ∈ fields, d.kind = .varDecl)
    (h : s.Agrees made (ds :: scopes)) :
    let d := Decl.struct pos name fieldsPos fields
    Accounts (made ++ d.made ds) d.idents (d.visits s) s (d.resolve s).2 := by
  intro d
  let v : Visit := ⟨.scope, name, .definition (.structDef .root), s⟩
  have agreesAt : v.before.AgreesAt v.target made ds scopes := h
  have first : Accounts (made ++ d.declared.made ds) [name] [v] s v.after :=
    Accounts.visit agreesAt (by rintro _ ⟨⟩; rfl)
  have answer : Resolution.declare .scope name (.structDef .root) s = (v.symbol?, v.after) :=
    Visit.declare_eq agreesAt rfl
  have declared := h.declareStruct (d := d.declared) rfl
  rw [show d.declared.name = name from rfl, answer] at declared
  have visits : d.visits s = v :: v.symbol?.elim [] fun struct =>
    Decl.fieldVisits name.name struct v.after fields := rfl
  rw [visits, Decl.resolve, bind_run, answer]
  rcases declared with ⟨s', run, isNew, -, opened⟩ | ⟨run, old⟩
  · obtain ⟨symbol, rfl⟩ := Prod.mk.inj run
    rw [symbol, Decl.made, if_pos isNew, List.append_cons]
    rw [Declared.made, if_pos isNew] at first
    exact (first.mono _).append (Decl.fieldVisits_accounts name.name fields shaped opened)
  · obtain ⟨symbol, -⟩ := Prod.mk.inj run
    rw [symbol, Decl.made, if_neg old, List.append_nil]
    rw [Declared.made, if_neg old, List.append_nil] at first
    exact first.widen (List.singleton_sublist.mpr (List.mem_cons_self ..))

/-! ## Declarations, statements and blocks -/

theorem Resolution.State.Agrees.afterOpen (h : s.Agrees made scopes) :
    (Resolution.openScope s).2.Agrees made ([] :: scopes) := by
  obtain ⟨s', run, agrees, -⟩ := h.openScope
  rwa [run]

theorem Resolution.State.Agrees.afterClose (h : s.Agrees made (ds :: scopes))
    (opened : scopes ≠ []) :
    (Resolution.closeScope s).2.Agrees made scopes := by
  obtain ⟨s', run, agrees, -⟩ := h.closeScope opened
  rwa [run]

theorem Resolution.State.Agrees.afterExpr (h : s.Agrees made scopes) {e : Expr}
    (shaped : e.Shaped) : (e.resolve s).2.Agrees made scopes := by
  obtain ⟨e', found, run, -⟩ := e.resolve_settles shaped h
  rw [run]
  exact h.logged found

mutual

theorem Decl.visits_accounts {made ds : List Declared} {scopes : List (List Declared)} {s : State}
    (d : Decl) (shaped : d.Shaped) (h : s.Agrees made (ds :: scopes)) :
    Accounts (made ++ d.made ds) d.idents (d.visits s) s (d.resolve s).2 := by
  cases d with
  | var pos type name =>
    have agreesAt : s.AgreesAt .scope made ds scopes := h
    exact agreesAt.visitVariable type name
  | struct pos name fieldsPos fields =>
    exact Decl.visits_struct_accounts pos name fieldsPos shaped h
  | func pos returnType name formals bodyPos body =>
    let v : Visit :=
      ⟨.scope, name,
        .definition (.func returnType.dataType (formals.items.map (·.type.dataType))), s⟩
    have agreesAt : v.before.AgreesAt v.target made ds scopes := h
    have first := Accounts.visit agreesAt (by rintro _ ⟨⟩; rfl)
    have after : v.after.Agrees (made ++ v.declared.made ds) ((ds ++ [v.declared]) :: scopes) :=
      Visit.agreesAt_after agreesAt (by rintro _ ⟨⟩; rfl)
    -- The formal parameters are declared in the scope that the body goes on with.
    have inside : (openScope v.after).2.AgreesAt .scope (made ++ v.declared.made ds) []
      ((ds ++ [v.declared]) :: scopes) := after.afterOpen
    have parameters := Formal.visitsAll_accounts formals.items inside
    have block := body.visits_accounts shaped (inside.declareFormals formals.items).1
    have parts := ((first.mono _).mono _).append (((parameters.mono _).append block).inScope)
    rw [Decl.made, ← List.append_assoc made, ← List.append_assoc]
    exact parts.widen (List.sublist_append_right _ _)

theorem Stmt.visits_accounts {made : List Declared} {scopes : List (List Declared)} {s : State}
    (st : Stmt) (shaped : st.Shaped) (h : s.Agrees made scopes) :
    Accounts (made ++ st.made) st.idents (st.visits s) s (st.resolve s).2 := by
  cases st with
  | assign pos a => exact .of_reads (a.resolve_reads s) _
  | call pos c => exact .of_reads (c.resolve_reads s) _
  | increment pos e | decrement pos e | read pos e | write pos e =>
    exact .of_reads (e.resolve_reads s) _
  | ret pos value =>
    cases value with
    | none => exact .of_reads (.refl s) _
    | some e => exact .of_reads (e.resolve_reads s) _
  | ifThen pos cond body | loop pos cond body =>
    have first : Accounts (made ++ body.made []) cond.idents [] s (cond.resolve s).2 :=
      .of_reads (cond.resolve_reads s) _
    have block := body.visits_accounts shaped.2 (h.afterExpr shaped.1).afterOpen
    exact first.append block.inScope
  | ifElse pos cond yes no =>
    have first : Accounts (made ++ yes.made [] ++ no.made []) cond.idents [] s
        (cond.resolve s).2 := .of_reads (cond.resolve_reads s) _
    have opened := (h.afterExpr shaped.1).afterOpen
    have block := yes.visits_accounts shaped.2.1 opened
    have closed := ((yes.resolveInside_walks shaped.2.1 opened [] []).1).afterClose h.opened
    have block' := no.visits_accounts shaped.2.2 closed.afterOpen
    rw [Stmt.made, ← List.append_assoc made]
    exact first.append ((block.inScope.mono _).append block'.inScope)

theorem Block.visits_accounts {made formals : List Declared} {scopes : List (List Declared)}
    {s : State} (b : Block) (shaped : b.Shaped) (h : s.Agrees made (formals :: scopes)) :
    Accounts (made ++ b.made formals) b.idents (b.visits s) s (b.resolveInside s).2 := by
  cases b with
  | mk declsPos decls stmtsPos stmts =>
    obtain ⟨areVariables, shaped⟩ := shaped
    have declsShaped : ∀ d ∈ decls, d.Shaped := fun d mem =>
      Decl.shaped_of_kind (areVariables d mem)
    have first := Decl.visitsAll_accounts decls declsShaped h
    have after := (Decl.resolveAll_walks decls declsShaped h []).1
    have others := Stmt.visitsAll_accounts stmts shaped after
    rw [Block.made, ← List.append_assoc made]
    exact (first.mono _).append others

theorem Decl.visitsAll_accounts {made earlier : List Declared} {scopes : List (List Declared)}
    {s : State} (ds : List Decl) (shaped : ∀ d ∈ ds, d.Shaped)
    (h : s.Agrees made (earlier :: scopes)) :
    Accounts (made ++ Decl.madeAll earlier ds) (Decl.identsAll ds) (Decl.visitsAll s ds) s
      (Decl.resolveAll ds s).2 := by
  cases ds with
  | nil => exact .of_reads (.refl s) []
  | cons d ds =>
    obtain ⟨shaped, shaped'⟩ := List.forall_mem_cons.mp shaped
    have first := d.visits_accounts shaped h
    have others := Decl.visitsAll_accounts ds shaped' (d.resolve_walks shaped h []).1
    rw [Decl.madeAll, ← List.append_assoc made]
    exact (first.mono _).append others

theorem Stmt.visitsAll_accounts {made : List Declared} {scopes : List (List Declared)} {s : State}
    (ss : List Stmt) (shaped : Stmt.AllShaped ss) (h : s.Agrees made scopes) :
    Accounts (made ++ Stmt.madeAll ss) (Stmt.identsAll ss) (Stmt.visitsAll s ss) s
      (Stmt.resolveAll ss s).2 := by
  cases ss with
  | nil => exact .of_reads (.refl s) []
  | cons st ss =>
    have first := st.visits_accounts shaped.1 h
    have others := Stmt.visitsAll_accounts ss shaped.2 (st.resolve_walks shaped.1 h []).1
    rw [Stmt.madeAll, ← List.append_assoc made]
    exact (first.mono _).append others

end

/-! ## Lists of visits -/

section

variable {visits : List Visit}

theorem Visit.Answered.symbol?_eq {v : Visit} (h : v.Answered) :
    (v.verdict = .made ∧ ∃ id, v.symbol? = some id) ∨ (v.verdict ≠ .made ∧ v.symbol? = none) := by
  cases h with
  | void written =>
    have verdict : v.verdict = .void := by rw [Visit.verdict, written]
    exact .inr ⟨by rw [verdict]; decide, by rw [Visit.symbol?, verdict]⟩
  | duplicate written bound =>
    have verdict : v.verdict = .duplicate := by rw [Visit.verdict, written, bound]
    exact .inr ⟨by rw [verdict]; decide, by rw [Visit.symbol?, verdict]⟩
  | made written free makes =>
    exact .inl ⟨by rw [Visit.verdict, written, free], _,
      Visit.Answered.symbol?_of_makes written free makes⟩

/-- The symbols of some visits are those of the visits that make one. -/
theorem map_some_filterMap_symbol? (answered : ∀ v ∈ visits, v.Answered) :
    (visits.filterMap Visit.symbol?).map some =
      (visits.filter (·.verdict = .made)).map Visit.symbol? := by
  induction visits with
  | nil => rfl
  | cons v visits ih =>
    obtain ⟨first, others⟩ := List.forall_mem_cons.mp answered
    rcases first.symbol?_eq with ⟨made, id, symbol⟩ | ⟨unmade, none⟩
    · simp [symbol, made, ih others]
    · simp [none, unmade, ih others]

/-- Each visit of a verdict has one fault of a kind, if the other visits have none. -/
theorem length_filter_faults {kind : DiagnosticKind} {verdict : Verdict}
    (each : ∀ v : Visit, (v.faults.filter (·.kind = kind)).length =
      if v.verdict = verdict then 1 else 0) :
    ((visits.flatMap Visit.faults).filter (·.kind = kind)).length =
      (visits.filter (·.verdict = verdict)).length := by
  induction visits with
  | nil => rfl
  | cons v visits ih =>
    rw [List.flatMap_cons, List.filter_append, List.length_append, each, ih, List.filter_cons]
    split
    · rw [if_pos (by simpa using ‹_›), List.length_cons]
      omega
    · rw [if_neg (by simpa using ‹_›)]
      omega

theorem Visit.filter_typeFaults (v : Visit) {kind : DiagnosticKind}
    (other : kind ≠ .invalidStructType) : v.typeFaults.filter (·.kind = kind) = [] := by
  rw [typeFaults]
  split
  · split
    · simp [Log.entry, other.symm]
    · rfl
  · rfl

theorem Visit.length_voidVariable (v : Visit) :
    (v.faults.filter (·.kind = .voidVariable)).length = if v.verdict = .void then 1 else 0 := by
  have none : v.typeFaults.filter (·.kind = .voidVariable) = [] := v.filter_typeFaults nofun
  rw [faults]
  cases v.verdict <;> simp [none, Log.entry]

theorem Visit.length_duplicateName (v : Visit) :
    (v.faults.filter (·.kind = .duplicateName)).length =
      if v.verdict = .duplicate then 1 else 0 := by
  have none : v.typeFaults.filter (·.kind = .duplicateName) = [] := v.filter_typeFaults nofun
  rw [faults]
  cases v.verdict <;> simp [none, Log.entry]

theorem length_visits (visits : List Visit) :
    visits.length = (visits.filter (·.verdict = .made)).length +
      (visits.filter (·.verdict = .void)).length +
      (visits.filter (·.verdict = .duplicate)).length := by
  induction visits with
  | nil => rfl
  | cons v visits ih =>
    rw [List.length_cons, ih, List.filter_cons, List.filter_cons, List.filter_cons]
    cases v.verdict <;> simp <;> omega

/-- The faults of a visit are all that stand at its name. -/
theorem filter_faults (ordered : visits.Pairwise fun v v' => v.name.pos < v'.name.pos) {v : Visit}
    (mem : v ∈ visits) :
    (visits.flatMap Visit.faults).filter (·.pos = v.name.pos) = v.faults := by
  have elsewhere (others : List Visit) (apart : ∀ other ∈ others, other.name.pos ≠ v.name.pos) :
      (others.flatMap Visit.faults).filter (·.pos = v.name.pos) = [] := by
    refine List.filter_eq_nil_iff.mpr fun fault inside same => ?_
    obtain ⟨other, mem, ofOther⟩ := List.mem_flatMap.mp inside
    exact apart other mem
      ((other.faults_isOfDeclaration fault ofOther).2.symm.trans (of_decide_eq_true same))
  have here : v.faults.filter (·.pos = v.name.pos) = v.faults :=
    List.filter_eq_self.mpr fun fault inside =>
      decide_eq_true (v.faults_isOfDeclaration fault inside).2
  obtain ⟨before, after, rfl⟩ := List.append_of_mem mem
  obtain ⟨-, later, earlier⟩ := List.pairwise_append.mp ordered
  rw [List.flatMap_append, List.flatMap_cons, List.filter_append, List.filter_append, here,
    elsewhere before fun other inside => (earlier other inside v (List.mem_cons_self ..)).ne,
    elsewhere after fun other inside => ((List.pairwise_cons.mp later).1 other inside).ne',
    List.nil_append, List.append_nil]

end

/-! ## Programs -/

/-- The faults that the analysis of a program finds at declared names. -/
def Program.declarationFaults (T : Program) : List Diagnostic :=
  T.analyze.state.log.entries.filter (·.kind.isOfDeclaration)

/-- The visits of a program that make a symbol. -/
def Program.makingVisits (T : Program) : List Visit := T.visits.filter (·.verdict = .made)

/-- Each declared name that the analysis of a program visits is answered, and the answers are all
that it finds at declared names and all that it makes. -/
structure Program.AccountsForNames (T : Program) : Prop where
  /-- The names are visited in the order of the text. -/
  ordered : T.visits.Pairwise fun v v' => v.name.pos < v'.name.pos
  answered : ∀ v ∈ T.visits, v.Answered
  faults : T.declarationFaults = T.visits.flatMap Visit.faults
  faultsAt : ∀ v ∈ T.visits, T.declarationFaults.filter (·.pos = v.name.pos) = v.faults
  /-- The arena has the symbols that are made, each at the place that it knows. -/
  size : T.analyze.state.arena.size = T.makingVisits.length
  symbols : ∀ number v, T.makingVisits[number]? = some v → ∃ id symbol, v.symbol? = some id ∧
    T.analyze.state.arena.ids[number]? = some id ∧ T.analyze.state.store.get? id = some symbol ∧
    symbol.Records v.declared number
  count : T.visits.length = T.analyze.state.arena.size +
    (T.analyze.state.log.ofKind .voidVariable).length +
    (T.analyze.state.log.ofKind .duplicateName).length

theorem Log.ofKind_eq (log : Log) {kind : DiagnosticKind}
    (ofDeclaration : kind.isOfDeclaration = true) :
    log.ofKind kind =
      (log.entries.filter (·.kind.isOfDeclaration)).filter (·.kind = kind) := by
  rw [ofKind, List.filter_filter]
  refine List.filter_congr fun fault _ => ?_
  by_cases same : fault.kind = kind <;> simp [same, ofDeclaration]

/-- **Declared names.** In the analysis of a program that was read from a text, every declared name
that is visited is of type void, or a duplicate in its scope, or makes the next symbol; and there
are no other symbols, and no other faults at declared names. -/
theorem analyze_accounts {text : String} {T : Program} (read : parseText text = .ok T) :
    T.AccountsForNames := by
  have formed := shaped_of_parseText read
  have agrees := (Program.analyze_walks formed).1
  have accounts : Accounts T.made T.idents T.visits {} T.analyze.state :=
    Decl.visitsAll_accounts T.decls formed agrees_fresh
  have ordered : T.visits.Pairwise fun v v' => v.name.pos < v'.name.pos := by
    have names := (idents_inOrder_of_parseText read).sublist accounts.within
    rwa [List.pairwise_map] at names
  have faults : T.declarationFaults = T.visits.flatMap Visit.faults := by
    obtain ⟨found, log, same⟩ := accounts.log
    -- A fresh log is empty, so what was found on the way is the whole log.
    rw [Program.declarationFaults, log]
    exact same
  have arena : T.analyze.state.arena.ids.map some = T.makingVisits.map Visit.symbol? := by
    rw [accounts.arena]
    exact map_some_filterMap_symbol? accounts.answered
  have size : T.analyze.state.arena.size = T.makingVisits.length := by
    have length := congrArg List.length arena
    rwa [List.length_map, List.length_map] at length
  refine ⟨ordered, accounts.answered, faults, ?_, size, ?_, ?_⟩
  · intro v mem
    rw [faults]
    exact filter_faults ordered mem
  · intro number v making
    have place : (T.analyze.state.arena.ids[number]?).map some = some v.symbol? := by
      rw [← List.getElem?_map, arena, List.getElem?_map, making]
      rfl
    obtain ⟨id, found, symbol⟩ := Option.map_eq_some_iff.mp place
    have visited : v ∈ T.visits := (List.mem_filter.mp (List.mem_of_getElem? making)).1
    have stands := accounts.stands v visited id symbol.symm
    obtain rfl : id = ⟨number⟩ := by
      rw [agrees.stores.arena, List.getElem?_map] at found
      obtain ⟨i, inRange, rfl⟩ := Option.map_eq_some_iff.mp found
      obtain ⟨small, rfl⟩ := List.getElem?_eq_some_iff.mp inRange
      rw [List.getElem_range]
    obtain ⟨symbol', known, records⟩ := agrees.stores.symbols number v.declared stands
    exact ⟨_, symbol', symbol.symm, found, known, records⟩
  · have total := length_visits T.visits
    rw [Log.ofKind_eq _ rfl, Log.ofKind_eq _ rfl]
    show _ = _ + (T.declarationFaults.filter _).length + (T.declarationFaults.filter _).length
    rw [faults, length_filter_faults Visit.length_voidVariable,
      length_filter_faults Visit.length_duplicateName, size]
    exact total

/-- A struct with a field of type void and one of an unknown struct, a variable of the struct's
name, and a parameter of type void. -/
def declaringText : String :=
  "struct s \x7bvoid a; struct t b;\x7d int s; int f(void x) \x7b\x7d"

/-- The program in that text. -/
def declaringProgram : Program where
  pos := ⟨1, 1⟩
  declsPos := ⟨1, 1⟩
  decls :=
    let name (w : String) (column : Int) : Ident := { pos := ⟨1, column⟩, value := .text w }
    [.struct ⟨1, 1⟩ (name "s" 8) ⟨1, 11⟩
        [.var ⟨1, 11⟩ (.void ⟨1, 11⟩) (name "a" 16),
          .var ⟨1, 19⟩ (.struct ⟨1, 19⟩ (name "t" 26)) (name "b" 28)],
      .var ⟨1, 32⟩ (.int ⟨1, 32⟩) (name "s" 36),
      .func ⟨1, 39⟩ (.int ⟨1, 39⟩) (name "f" 43)
        { pos := ⟨1, 44⟩, items := [⟨⟨1, 45⟩, .void ⟨1, 45⟩, name "x" 50⟩] } ⟨1, 53⟩
        (.mk ⟨1, 54⟩ [] ⟨1, 54⟩ [])]

theorem parseText_declaringText : parseText declaringText = .ok declaringProgram := by
  decide +kernel

theorem analyze_accounts_of_declaringText :
    parseText declaringText = .ok declaringProgram ∧ declaringProgram.AccountsForNames :=
  ⟨parseText_declaringText, analyze_accounts parseText_declaringText⟩

/-- Only the struct, its second field and the function make symbols. -/
example : declaringProgram.visits.map Visit.verdict =
    [.made, .void, .made, .duplicate, .made, .void] := by
  decide

end Minim
