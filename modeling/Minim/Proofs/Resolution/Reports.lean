import Minim.Proofs.Resolution.Steps
import Minim.Proofs.Syntax.Idents
import Minim.Syntax.Equality

/-!
# The order of the faults

An analysis goes through the identifiers of a tree from left to right and reports at each of them at
most one fault. Only at the name of a variable, a formal parameter or a field there can be two: that
the struct of its type is not declared, and then that the name is a duplicate. Identifiers that were
read from a text stand one behind the other, so the faults of a program come in the order of the
text.
-/

namespace Minim

open Resolution

/-! ## Faults along identifiers -/

/-- Faults that are reported along some identifiers, from left to right. There are at most two at
each of them, and two only at the name of a variable. -/
inductive FoundAlong (isVariable : Ident → Prop) : List Ident → List Diagnostic → Prop
  | nil : FoundAlong isVariable [] []
  | silent (name : Ident) {names : List Ident} {found : List Diagnostic}
      (rest : FoundAlong isVariable names found) : FoundAlong isVariable (name :: names) found
  | single (name : Ident) (kind : DiagnosticKind) {names : List Ident} {found : List Diagnostic}
      (rest : FoundAlong isVariable names found) :
      FoundAlong isVariable (name :: names) (Log.entry name.pos kind :: found)
  | pair {name : Ident} (var : isVariable name) {names : List Ident} {found : List Diagnostic}
      (rest : FoundAlong isVariable names found) :
      FoundAlong isVariable (name :: names)
        (Log.entry name.pos .invalidStructType :: Log.entry name.pos .duplicateName :: found)

namespace FoundAlong

variable {isVariable : Ident → Prop} {name : Ident} {names names' : List Ident}
  {found found' : List Diagnostic}

theorem none (names : List Ident) : FoundAlong isVariable names [] := by
  induction names with
  | nil => exact .nil
  | cons name names ih => exact .silent name ih

theorem append (h : FoundAlong isVariable names found)
    (h' : FoundAlong isVariable names' found') :
    FoundAlong isVariable (names ++ names') (found ++ found') := by
  induction h with
  | nil => exact h'
  | silent name _ ih => exact .silent name ih
  | single name kind _ ih => exact .single name kind ih
  | pair var _ ih => exact .pair var ih

/-- Every fault stands at one of the identifiers. -/
theorem exists_pos (h : FoundAlong isVariable names found) :
    ∀ fault ∈ found, ∃ name ∈ names, name.pos = fault.pos := by
  have further {name : Ident} {names : List Ident} {fault : Diagnostic} :
      (∃ name ∈ names, name.pos = fault.pos) → ∃ name' ∈ name :: names, name'.pos = fault.pos :=
    fun ⟨name, mem, pos⟩ => ⟨name, .tail _ mem, pos⟩
  induction h with
  | nil => exact fun _ mem => nomatch mem
  | silent name _ ih => exact fun fault mem => further (ih fault mem)
  | single name kind _ ih =>
    rintro fault (_ | ⟨_, mem⟩)
    · exact ⟨name, .head _, rfl⟩
    · exact further (ih fault mem)
  | @pair name _ _ _ _ ih =>
    rintro fault (_ | ⟨_, _ | ⟨_, mem⟩⟩)
    · exact ⟨name, .head _, rfl⟩
    · exact ⟨name, .head _, rfl⟩
    · exact further (ih fault mem)

/-- Every fault has the standard message of its kind. -/
theorem exists_kind (h : FoundAlong isVariable names found) :
    ∀ fault ∈ found, ∃ pos kind, fault = Log.entry pos kind := by
  induction h with
  | nil => exact List.forall_mem_nil _
  | silent name _ ih => exact ih
  | single name kind _ ih => exact List.forall_mem_cons.mpr ⟨⟨_, _, rfl⟩, ih⟩
  | pair _ _ ih =>
    exact List.forall_mem_cons.mpr ⟨⟨_, _, rfl⟩, List.forall_mem_cons.mpr ⟨⟨_, _, rfl⟩, ih⟩⟩

/-- Behind an identifier only later positions are reported. -/
theorem pos_lt (ordered : Ident.InOrder (name :: names))
    (rest : FoundAlong isVariable names found) :
    ∀ fault ∈ found, name.pos < fault.pos := by
  intro fault mem
  obtain ⟨name', mem', pos⟩ := rest.exists_pos fault mem
  rw [← pos]
  exact List.rel_of_pairwise_cons ordered mem'

/-- The faults come in the order of the text. -/
theorem pairwise_pos (ordered : Ident.InOrder names) (h : FoundAlong isVariable names found) :
    found.Pairwise fun fault fault' => fault.pos ≤ fault'.pos := by
  induction h with
  | nil => exact .nil
  | silent name _ ih => exact ih ordered.of_cons
  | single name kind rest ih =>
    exact .cons (fun fault mem => (pos_lt ordered rest fault mem).le) (ih ordered.of_cons)
  | @pair name _ _ _ rest ih =>
    have later := fun fault mem => (pos_lt ordered rest fault mem).le
    exact .cons (List.forall_mem_cons.mpr ⟨le_refl _, later⟩) (.cons later (ih ordered.of_cons))

/-- Two faults at one position are the two that are reported at the name of a variable, one right
behind the other. -/
theorem eq_pair_of_pos (ordered : Ident.InOrder names) (h : FoundAlong isVariable names found)
    {i j : Nat} {fault fault' : Diagnostic} (behind : i < j) (first : found[i]? = some fault)
    (second : found[j]? = some fault') (same : fault.pos = fault'.pos) :
    j = i + 1 ∧ ∃ name, isVariable name ∧ fault = Log.entry name.pos .invalidStructType ∧
      fault' = Log.entry name.pos .duplicateName := by
  -- What is reported at the first identifier is at no position of the rest.
  have apart {name : Ident} {names : List Ident} {found : List Diagnostic} {n : Nat}
      (ordered : Ident.InOrder (name :: names)) (rest : FoundAlong isVariable names found)
      (second : found[n]? = some fault') (same : name.pos = fault'.pos) : False := by
    refine (pos_lt ordered rest fault' (List.mem_of_getElem? second)).ne same
  induction h generalizing i j with
  | nil => cases first
  | silent name _ ih => exact ih ordered.of_cons behind first second
  | single name kind rest ih =>
    obtain ⟨j, rfl⟩ := Nat.exists_eq_succ_of_ne_zero (Nat.ne_zero_of_lt behind)
    cases i with
    | zero =>
      cases first
      exact (apart ordered rest second same).elim
    | succ i =>
      obtain ⟨rfl, atVariable⟩ := ih ordered.of_cons (Nat.lt_of_succ_lt_succ behind) first second
      exact ⟨rfl, atVariable⟩
  | @pair name var _ _ rest ih =>
    obtain ⟨j, rfl⟩ := Nat.exists_eq_succ_of_ne_zero (Nat.ne_zero_of_lt behind)
    match i, j with
    | 0, 0 =>
      cases first
      cases second
      exact ⟨rfl, name, var, rfl, rfl⟩
    | 0, j + 1 =>
      cases first
      exact (apart ordered rest second same).elim
    | 1, j + 1 =>
      cases first
      exact (apart ordered rest second same).elim
    | i + 2, j + 1 =>
      obtain ⟨rfl, atVariable⟩ := ih ordered.of_cons (by omega) first second
      exact ⟨rfl, atVariable⟩
    | i + 1, 0 => omega

/-- No kind of fault is reported twice at a position. -/
theorem nodup (ordered : Ident.InOrder names) (h : FoundAlong isVariable names found) :
    (found.map fun fault => (fault.pos, fault.kind)).Nodup := by
  rw [List.Nodup, List.pairwise_map, List.pairwise_iff_getElem]
  intro i j inRange inRange' behind same
  obtain ⟨pos, kind⟩ := Prod.mk.inj same
  obtain ⟨-, name, -, first, second⟩ := h.eq_pair_of_pos ordered behind
    (List.getElem?_eq_getElem inRange) (List.getElem?_eq_getElem inRange') pos
  rw [first, second] at kind
  cases kind

end FoundAlong

namespace Resolution

/-- From one state to another some identifiers are analysed, and faults are reported along them. -/
def State.Reports (isVariable : Ident → Prop) (names : List Ident) (s s' : State) : Prop :=
  ∃ found, s'.log.entries = s.log.entries ++ found ∧ FoundAlong isVariable names found

namespace State.Reports

variable {isVariable : Ident → Prop} {names names' : List Ident} {s s' s'' : State}

/-- Nothing is reported. -/
theorem none (names : List Ident) (log : s'.log = s.log) : Reports isVariable names s s' :=
  ⟨[], by rw [log, List.append_nil], .none names⟩

theorem report (name : Ident) (kind : DiagnosticKind) :
    Reports isVariable [name] s (s.report name kind) :=
  ⟨[_], rfl, .single name kind .nil⟩

theorem append (h : Reports isVariable names s s') (h' : Reports isVariable names' s' s'') :
    Reports isVariable (names ++ names') s s'' := by
  obtain ⟨found, log, along⟩ := h
  obtain ⟨found', log', along'⟩ := h'
  refine ⟨found ++ found', ?_, along.append along'⟩
  rw [log', log, List.append_assoc]

/-- A part in a scope of its own. -/
theorem inScope (h : Reports isVariable names (openScope s).2 s') :
    Reports isVariable names s (closeScope s').2 := by
  obtain ⟨found, log, along⟩ := h
  refine ⟨found, ?_, along⟩
  rw [(closeScope_keeps s').log, log, (openScope_keeps s).log]

end State.Reports

/-! ## Steps -/

section

variable (isVariable : Ident → Prop)

theorem fail_reports (failure : Failure) (names : List Ident) (s : State) :
    s.Reports isVariable names (fail failure s).2 :=
  unlessFailed_cases (motive := fun after : Unit × State => s.Reports isVariable names after.2)
    (.none names rfl) fun _ => .none names rfl

theorem report_reports (name : Ident) (kind : DiagnosticKind) (s : State) :
    s.Reports isVariable [name] (report name kind s).2 :=
  unlessFailed_cases (motive := fun after : Unit × State => s.Reports isVariable [name] after.2)
    (.none [name] rfl) fun _ => .report name kind

theorem useName_reports (name : Ident) (s : State) :
    s.Reports isVariable [name] (useName name s).2 := by
  refine unlessFailed_cases
    (motive := fun after : Ident × State => s.Reports isVariable [name] after.2)
    (.none [name] rfl) fun _ => ?_
  split
  · exact .none [name] rfl
  · exact .report name _
  · exact .none [name] rfl

theorem useField_reports (structName : String) (field : Ident) (s : State) :
    s.Reports isVariable [field] (useField structName field s).2 := by
  refine unlessFailed_cases
    (motive := fun after : Ident × State => s.Reports isVariable [field] after.2)
    (.none [field] rfl) fun _ => ?_
  split
  · exact .none [field] rfl
  · split
    · exact .none [field] rfl
    · split
      · exact .none [field] rfl
      · exact .report field _
      · exact .none [field] rfl

theorem useBase_reports (base : Ident) (s : State) :
    s.Reports isVariable [base] (useBase base s).2 := by
  refine unlessFailed_cases
    (motive := fun after : (Ident × Option String) × State => s.Reports isVariable [base] after.2)
    (.none [base] rfl) fun _ => ?_
  split
  · exact .none [base] rfl
  · split
    · exact .report base _
    · exact .none [base] rfl

theorem log_useStructName (structName declared : Ident) (s : State) :
    (useStructName structName declared s).2.log = s.log ∨
      (useStructName structName declared s).2.log =
        s.log.report (Log.entry declared.pos .invalidStructType) := by
  refine unlessFailed_cases (motive := fun after : Ident × State => after.2.log = s.log ∨
    after.2.log = s.log.report (Log.entry declared.pos .invalidStructType)) (.inl rfl) fun _ => ?_
  split
  · exact .inl rfl
  · exact .inr rfl
  · split <;> exact .inl rfl

theorem log_declare (target : Target) (name : Ident) (meaning : Meaning) (s : State) :
    (declare target name meaning s).2.log = s.log ∨
      (declare target name meaning s).2.log =
        s.log.report (Log.entry name.pos .duplicateName) := by
  refine unlessFailed_cases (motive := fun after : Option SymbolId × State => after.2.log = s.log ∨
    after.2.log = s.log.report (Log.entry name.pos .duplicateName)) (.inl rfl) fun _ => ?_
  rw [State.declare]
  split
  · exact .inr rfl
  · exact .inl rfl
  · exact .inl (State.log_withNew ..)

theorem declare_reports (target : Target) (name : Ident) (meaning : Meaning) (s : State) :
    s.Reports isVariable [name] (declare target name meaning s).2 := by
  rcases log_declare target name meaning s with log | log
  · exact .none [name] log
  · exact ⟨[_], congrArg Log.entries log, .single name .duplicateName .nil⟩

/-- At the name of a variable of a struct two faults can be reported. -/
theorem declare_struct_reports {name : Ident} (var : isVariable name) (target : Target)
    (structName : Ident) (meaning : Meaning) (s : State) :
    s.Reports isVariable [structName, name]
      (declare target name meaning (useStructName structName name s).2).2 := by
  have declared := log_declare target name meaning (useStructName structName name s).2
  rcases log_useStructName structName name s with log | log <;> rw [log] at declared <;>
    rcases declared with log' | log'
  · exact .none _ log'
  · exact ⟨[_], congrArg Log.entries log', .silent _ (.single _ _ .nil)⟩
  · exact ⟨[_], congrArg Log.entries log', .silent _ (.single _ _ .nil)⟩
  · refine ⟨[_, _], ?_, .silent _ (.pair var .nil)⟩
    rw [log', Log.entries_report, Log.entries_report, List.append_assoc]
    rfl

end

end Resolution

/-! ## Names of variables -/

mutual

/-- The names that a declaration declares as variables, formal parameters and fields. -/
def Decl.variables : Decl → List Ident
  | .var _ _ name => [name]
  | .func _ _ _ formals _ body => formals.items.map Formal.name ++ body.variables
  | .struct _ _ _ fields => Decl.variablesAll fields

/-- The names that a statement declares as variables, formal parameters and fields. -/
def Stmt.variables : Stmt → List Ident
  | .ifThen _ _ body | .loop _ _ body => body.variables
  | .ifElse _ _ yes no => yes.variables ++ no.variables
  | _ => []

/-- The names that a block declares as variables, formal parameters and fields. -/
def Block.variables : Block → List Ident
  | .mk _ decls _ stmts => Decl.variablesAll decls ++ Stmt.variablesAll stmts

/-- The names that declarations declare as variables, formal parameters and fields. -/
def Decl.variablesAll : List Decl → List Ident
  | [] => []
  | d :: ds => d.variables ++ Decl.variablesAll ds

/-- The names that statements declare as variables, formal parameters and fields. -/
def Stmt.variablesAll : List Stmt → List Ident
  | [] => []
  | s :: ss => s.variables ++ Stmt.variablesAll ss

end

/-- The names that a program declares as variables, formal parameters and fields. -/
def Program.variables (T : Program) : List Ident := Decl.variablesAll T.decls

/-! ## Expressions -/

section

variable {isVariable : Ident → Prop}

theorem Ident.resolveMember_reports (base field : Ident) (s : State) :
    s.Reports isVariable [base, field] (base.resolveMember field s).2 := by
  cases found : (useBase base s).1.2 with
  | none =>
    rw [resolveMember_of_none found]
    exact (useBase_reports isVariable base s).append (.none [field] rfl)
  | some structName =>
    rw [resolveMember_of_some found]
    exact (useBase_reports isVariable base s).append
      (useField_reports isVariable structName field _)

mutual

theorem Expr.resolve_reports (e : Expr) (s : State) :
    s.Reports isVariable e.idents (e.resolve s).2 := by
  cases e with
  | int | string | bool => exact .none [] rfl
  | ident name => exact useName_reports isVariable name s
  | dot pos base field =>
    cases base with
    | ident name => exact name.resolveMember_reports field s
    | dot pos' base' field' =>
      exact (Expr.resolve_reports (.dot pos' base' field') s).append
        (useName_reports isVariable field _)
    | _ => exact fail_reports isVariable _ _ s
  | assign pos target value => exact (target.resolve_reports s).append (value.resolve_reports _)
  | call pos callee argsPos args =>
    exact (useName_reports isVariable callee s).append (Expr.resolveAll_reports args _)
  | unary pos op operand => exact operand.resolve_reports s
  | binary pos left op right => exact (left.resolve_reports s).append (right.resolve_reports _)

theorem Expr.resolveAll_reports (es : List Expr) (s : State) :
    s.Reports isVariable (Expr.identsAll es) (Expr.resolveAll es s).2 := by
  cases es with
  | nil => exact .none [] rfl
  | cons e es => exact (e.resolve_reports s).append (Expr.resolveAll_reports es _)

end

/-! ## Variables -/

theorem TypeExpr.declare_reports {name : Ident} (var : isVariable name) (target : Target)
    (type : TypeExpr) (s : State) :
    s.Reports isVariable (type.idents ++ [name]) (type.declare target name s).2 := by
  cases type with
  | int | bool => exact Resolution.declare_reports isVariable target name _ s
  | void pos => exact report_reports isVariable name .voidVariable s
  | struct pos structName => exact declare_struct_reports isVariable var target structName _ s

theorem Formal.resolveAll_reports (fs : List Formal) (s : State)
    (vars : ∀ name ∈ fs.map Formal.name, isVariable name) :
    s.Reports isVariable (fs.flatMap Formal.idents) (Formal.resolveAll fs s).2 := by
  induction fs generalizing s with
  | nil => exact .none [] rfl
  | cons f fs ih =>
    rw [List.map_cons, List.forall_mem_cons] at vars
    exact (TypeExpr.declare_reports vars.1 .scope f.type s).append (ih _ vars.2)

theorem Decl.resolveField_reports (structName : String) (struct : SymbolId) (d : Decl)
    (s : State) (vars : ∀ name ∈ d.variables, isVariable name) :
    s.Reports isVariable d.idents (d.resolveField structName struct s).2 := by
  cases d with
  | var pos type name =>
    exact type.declare_reports (vars name (.head _)) (.fields struct) s
  | func | struct => exact fail_reports isVariable _ _ s

theorem Decl.resolveFields_reports (structName : String) (struct : SymbolId) (fields : List Decl)
    (s : State) (vars : ∀ name ∈ Decl.variablesAll fields, isVariable name) :
    s.Reports isVariable (Decl.identsAll fields)
      (Decl.resolveFields structName struct fields s).2 := by
  induction fields generalizing s with
  | nil => exact .none [] rfl
  | cons d fields ih =>
    rw [Decl.variablesAll, List.forall_mem_append] at vars
    exact (d.resolveField_reports structName struct s vars.1).append (ih _ vars.2)

/-! ## Declarations, statements and blocks -/

theorem Decl.resolve_struct_reports (pos : Position) (name : Ident) (fieldsPos : Position)
    (fields : List Decl) (s : State)
    (vars : ∀ name ∈ Decl.variablesAll fields, isVariable name) :
    s.Reports isVariable (name :: Decl.identsAll fields)
      ((Decl.struct pos name fieldsPos fields).resolve s).2 := by
  have declared := Resolution.declare_reports isVariable .scope name (.structDef .root) s
  cases answer : (Resolution.declare .scope name (.structDef .root) s).1 with
  | none =>
    rw [resolve_struct_of_none answer]
    exact declared.append (.none _ rfl)
  | some struct =>
    rw [resolve_struct_of_some answer]
    exact declared.append (Decl.resolveFields_reports name.name struct fields _ vars)

mutual

theorem Decl.resolve_reports (d : Decl) (s : State)
    (vars : ∀ name ∈ d.variables, isVariable name) :
    s.Reports isVariable d.idents (d.resolve s).2 := by
  cases d with
  | var pos type name => exact type.declare_reports (vars name (.head _)) .scope s
  | struct pos name fieldsPos fields =>
    exact Decl.resolve_struct_reports pos name fieldsPos fields s vars
  | func pos returnType name formals bodyPos body =>
    rw [Decl.variables, List.forall_mem_append] at vars
    have inside (s : State) := ((Formal.resolveAll_reports formals.items (openScope s).2
      vars.1).append (body.resolveInside_reports _ vars.2)).inScope
    -- The struct of a return type is not looked up.
    have returned : s.Reports isVariable returnType.idents s := .none returnType.idents rfl
    exact returned.append
      ((Resolution.declare_reports isVariable .scope name _ s).append (inside _))

theorem Stmt.resolve_reports (st : Stmt) (s : State)
    (vars : ∀ name ∈ st.variables, isVariable name) :
    s.Reports isVariable st.idents (st.resolve s).2 := by
  cases st with
  | assign pos a => exact a.expr.resolve_reports s
  | call pos c => exact c.expr.resolve_reports s
  | increment pos e | decrement pos e | read pos e | write pos e => exact e.resolve_reports s
  | ret pos value =>
    cases value with
    | none => exact .none [] rfl
    | some e => exact e.resolve_reports s
  | ifThen pos cond body | loop pos cond body =>
    exact (cond.resolve_reports s).append (body.resolveInside_reports _ vars).inScope
  | ifElse pos cond yes no =>
    rw [Stmt.variables, List.forall_mem_append] at vars
    exact (cond.resolve_reports s).append ((yes.resolveInside_reports _ vars.1).inScope.append
      (no.resolveInside_reports _ vars.2).inScope)

theorem Block.resolveInside_reports (b : Block) (s : State)
    (vars : ∀ name ∈ b.variables, isVariable name) :
    s.Reports isVariable b.idents (b.resolveInside s).2 := by
  cases b with
  | mk declsPos decls stmtsPos stmts =>
    rw [Block.variables, List.forall_mem_append] at vars
    exact (Decl.resolveAll_reports decls s vars.1).append
      (Stmt.resolveAll_reports stmts _ vars.2)

theorem Decl.resolveAll_reports (ds : List Decl) (s : State)
    (vars : ∀ name ∈ Decl.variablesAll ds, isVariable name) :
    s.Reports isVariable (Decl.identsAll ds) (Decl.resolveAll ds s).2 := by
  cases ds with
  | nil => exact .none [] rfl
  | cons d ds =>
    rw [Decl.variablesAll, List.forall_mem_append] at vars
    exact (d.resolve_reports s vars.1).append (Decl.resolveAll_reports ds _ vars.2)

theorem Stmt.resolveAll_reports (ss : List Stmt) (s : State)
    (vars : ∀ name ∈ Stmt.variablesAll ss, isVariable name) :
    s.Reports isVariable (Stmt.identsAll ss) (Stmt.resolveAll ss s).2 := by
  cases ss with
  | nil => exact .none [] rfl
  | cons st ss =>
    rw [Stmt.variablesAll, List.forall_mem_append] at vars
    exact (st.resolve_reports s vars.1).append (Stmt.resolveAll_reports ss _ vars.2)

end

end

/-! ## Programs -/

/-- The faults of a program are reported along its identifiers. -/
theorem Program.analyze_foundAlong (T : Program) :
    FoundAlong (· ∈ T.variables) T.idents T.analyze.state.log.entries := by
  have reports : State.Reports (· ∈ T.variables) T.idents {} (Decl.resolveAll T.decls {}).2 :=
    Decl.resolveAll_reports T.decls {} fun _ mem => mem
  obtain ⟨found, log, along⟩ := reports
  -- A fresh log is empty, so what was found on the way is the whole log.
  have entries : T.analyze.state.log.entries = found := log
  rwa [entries]

/-- **The faults come in the order of the text.** In the analysis of a program that was read from a
text, every fault stands at a name among the tokens, and no fault before another one in the text is
reported behind it. Two faults at one position are reported one right behind the other, at the name
of a variable, a formal parameter or a field: its struct is not declared, and it is a duplicate. So
no fault is reported twice. -/
theorem analyze_reports_inOrder {text : String} {T : Program} (read : parseText text = .ok T) :
    let found := T.analyze.state.log.entries
    found.Pairwise (fun fault fault' => fault.pos ≤ fault'.pos) ∧
    (∃ tokens, tokenize text = .ok tokens ∧
      ∀ fault ∈ found, ∃ t ∈ tokens, t.kind = .identifier ∧ t.pos = fault.pos) ∧
    (∀ (i j : Nat) (fault fault' : Diagnostic), i < j → found[i]? = some fault →
      found[j]? = some fault' → fault.pos = fault'.pos →
        j = i + 1 ∧ ∃ name ∈ T.variables, fault = Log.entry name.pos .invalidStructType ∧
          fault' = Log.entry name.pos .duplicateName) ∧
    (found.map fun fault => (fault.pos, fault.kind)).Nodup := by
  have along := T.analyze_foundAlong
  have ordered := idents_inOrder_of_parseText read
  refine ⟨along.pairwise_pos ordered, ?_, ?_, along.nodup ordered⟩
  · obtain ⟨tokens, lexed, names⟩ := idents_of_parseText read
    refine ⟨tokens, lexed, fun fault mem => ?_⟩
    obtain ⟨name, inTree, pos⟩ := along.exists_pos fault mem
    rw [names, Grammar.namesOf] at inTree
    obtain ⟨t, isName, rfl⟩ := List.mem_map.mp inTree
    obtain ⟨inText, kind⟩ := List.mem_filter.mp isName
    exact ⟨t, (List.takeWhile_sublist _).subset inText, of_decide_eq_true kind, pos⟩
  · intro i j fault fault' behind first second same
    exact along.eq_pair_of_pos ordered behind first second same

/-- A second `x`, of a struct that is not declared, and an assignment to the field of a number. -/
def twiceText : String := "int x;\nstruct P x;\nvoid f() \x7b x.a = y; \x7d"

/-- The program in that text. -/
def twiceProgram : Program where
  pos := ⟨1, 1⟩
  declsPos := ⟨1, 1⟩
  decls :=
    let name (w : String) (line column : Int) : Ident := { pos := ⟨line, column⟩, value := .text w }
    [.var ⟨1, 1⟩ (.int ⟨1, 1⟩) (name "x" 1 5),
      .var ⟨2, 1⟩ (.struct ⟨2, 1⟩ (name "P" 2 8)) (name "x" 2 10),
      .func ⟨3, 1⟩ (.void ⟨3, 1⟩) (name "f" 3 6) { pos := ⟨3, 7⟩ } ⟨3, 10⟩
        (.mk ⟨3, 12⟩ [] ⟨3, 12⟩
          [.assign ⟨3, 12⟩
            ⟨⟨3, 12⟩, .dot ⟨3, 12⟩ (.ident (name "x" 3 12)) (name "a" 3 14),
              .ident (name "y" 3 18)⟩])]

theorem parseText_twiceText : parseText twiceText = .ok twiceProgram := by
  decide +kernel

theorem analyze_reports_inOrder_of_twiceText :
    parseText twiceText = .ok twiceProgram ∧
      (twiceProgram.analyze.state.log.entries.map fun fault => (fault.pos, fault.kind)).Nodup :=
  ⟨parseText_twiceText, (analyze_reports_inOrder parseText_twiceText).2.2.2⟩

/-- The pair at the second `x`, and then the faults of the assignment from left to right. -/
example : twiceProgram.analyze.state.log.entries.map (fun fault => (fault.pos, fault.kind)) =
    [(⟨2, 10⟩, .invalidStructType), (⟨2, 10⟩, .duplicateName), (⟨3, 12⟩, .dotAccessNonStruct),
      (⟨3, 18⟩, .undeclaredIdentifier)] := by
  decide

end Minim
