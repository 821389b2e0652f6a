import Minim.Proofs.Resolution.Fates
import Minim.Proofs.Scoping.Arena
import Minim.Proofs.Scoping.Mentions
import Minim.Syntax.Equality

/-!
# Analyses without faults

Where an analysis finds no fault, whatever it looks up is found, but for one thing: the field of a
dot access is passed over if the base is a variable of a struct whose name stands for something else
than a struct where the access stands. All else that a program refers to is annotated.
-/

namespace Minim

open Resolution

variable {made ds : List Declared} {scopes outer : List (List Declared)} {s s' s'' : State}

/-! ## What is met on the way -/

/-- A state that agrees with the source, and in which everything leads to the arena. -/
structure Resolution.State.Tracks (made : List Declared) (scopes : List (List Declared))
    (s : State) : Prop where
  agrees : s.Agrees made scopes
  consistent : s.Consistent

/-- What a mention refers to is looked up in a state that agrees with the scopes around it, and no
fault is found. -/
def Mention.Met (m : Mention) (after : Reference) : Prop :=
  ∃ made s, State.Tracks made m.scopes s ∧ m.reference.resolve s = (after, s)

/-- On the way from one state to another some references are looked up, unless there are faults. -/
def Clears (mentions : List Mention) (afters : List Reference) (s s' : State) : Prop :=
  ∃ found, s'.log.entries = s.log.entries ++ found ∧
    (found = [] → List.Forall₂ Mention.Met mentions afters)

namespace Clears

variable {mentions mentions' : List Mention} {afters afters' : List Reference}

theorem append (h : Clears mentions afters s s') (h' : Clears mentions' afters' s' s'') :
    Clears (mentions ++ mentions') (afters ++ afters') s s'' := by
  obtain ⟨found, log, met⟩ := h
  obtain ⟨found', log', met'⟩ := h'
  refine ⟨found ++ found', by rw [log', log, List.append_assoc], fun none => ?_⟩
  obtain ⟨none, none'⟩ := List.append_eq_nil_iff.mp none
  exact List.rel_append (met none) (met' none')

/-- Two parts of a tree, one behind the other. -/
theorem join {left right : List Mention} (h : Clears mentions (left.map Mention.reference) s s')
    (h' : Clears mentions' (right.map Mention.reference) s' s'') :
    Clears (mentions ++ mentions') ((left ++ right).map Mention.reference) s s'' := by
  rw [List.map_append]
  exact h.append h'

/-- Nothing is looked up. -/
theorem silent (grows : s.log.entries <+: s'.log.entries) : Clears [] [] s s' := by
  obtain ⟨found, log⟩ := grows
  exact ⟨found, log.symm, fun _ => .nil⟩

theorem refl (s : State) : Clears [] [] s s := .silent (List.prefix_refl _)

/-- Where there is a fault, nothing is said. -/
theorem faulty {found : List Diagnostic} (log : s'.log.entries = s.log.entries ++ found)
    (some : found ≠ []) : Clears mentions afters s s' :=
  ⟨found, log, fun none => absurd none some⟩

/-- A single reference. -/
theorem single {reference after : Reference} {found : List Diagnostic} (h : s.Tracks made scopes)
    (run : reference.resolve s = (after, s.logged found)) :
    Clears [⟨reference, scopes⟩] [after] s (s.logged found) := by
  refine ⟨found, rfl, ?_⟩
  rintro rfl
  rw [State.logged_nil] at run
  exact .cons ⟨made, s, h, run⟩ .nil

/-- A part in a scope of its own. -/
theorem inScope (h : Clears mentions afters (openScope s).2 s') :
    Clears mentions afters s (closeScope s').2 := by
  obtain ⟨found, log, met⟩ := h
  refine ⟨found, ?_, met⟩
  rw [(closeScope_keeps s').log, log, (openScope_keeps s).log]

end Clears

theorem FaultsAt.clears {name : Ident} (h : FaultsAt name s s') : Clears [] [] s s' := by
  obtain ⟨found, log, -⟩ := h
  exact .silent ⟨found, log.symm⟩

/-! ### States on the way -/

namespace Resolution.State.Tracks

theorem expr (h : s.Tracks made scopes) {e : Expr} (shaped : e.Shaped) :
    (e.resolve s).2.Tracks made scopes :=
  ⟨h.agrees.afterExpr shaped, (e.resolve_leads s).consistent h.consistent⟩

theorem useName (h : s.Tracks made scopes) (name : Ident) :
    (Resolution.useName name s).2.Tracks made scopes := by
  obtain ⟨after, found, run, -⟩ := h.agrees.useName name
  have consistent := (useName_leads name s).consistent h.consistent
  rw [run] at consistent ⊢
  exact ⟨h.agrees.logged found, consistent⟩

theorem openScope (h : s.Tracks made scopes) :
    (Resolution.openScope s).2.Tracks made ([] :: scopes) :=
  ⟨h.agrees.afterOpen, openScope_consistent h.consistent⟩

theorem closeScope (h : s.Tracks made (ds :: scopes)) (opened : scopes ≠ []) :
    (Resolution.closeScope s).2.Tracks made scopes :=
  ⟨h.agrees.afterClose opened,
    (State.Leads.of_keeps (closeScope_keeps s) (State.closeScope_backs s)).consistent h.consistent⟩

theorem decl (h : s.Tracks made (ds :: scopes)) {d : Decl} (shaped : d.Shaped) :
    (d.resolve s).2.Tracks (made ++ d.made ds) ((ds ++ [d.declared]) :: scopes) :=
  ⟨(d.resolve_walks shaped h.agrees []).1, (d.resolve_leads s).consistent h.consistent⟩

theorem decls (h : s.Tracks made (ds :: scopes)) {decls : List Decl}
    (shaped : ∀ d ∈ decls, d.Shaped) :
    (Decl.resolveAll decls s).2.Tracks (made ++ Decl.madeAll ds decls)
      ((ds ++ decls.map Decl.declared) :: scopes) :=
  ⟨(Decl.resolveAll_walks decls shaped h.agrees []).1,
    (Decl.resolveAll_leads decls s).consistent h.consistent⟩

theorem stmt (h : s.Tracks made scopes) {st : Stmt} (shaped : st.Shaped) :
    (st.resolve s).2.Tracks (made ++ st.made) scopes :=
  ⟨(st.resolve_walks shaped h.agrees []).1, (st.resolve_leads s).consistent h.consistent⟩

theorem block (h : s.Tracks made (ds :: scopes)) {b : Block} (shaped : b.Shaped) :
    (b.resolveInside s).2.Tracks (made ++ b.made ds)
      ((ds ++ b.decls.map Decl.declared) :: scopes) :=
  ⟨(b.resolveInside_walks shaped h.agrees [] []).1,
    (b.resolveInside_leads s).consistent h.consistent⟩

end Resolution.State.Tracks

/-! ## Expressions -/

theorem Mention.map_reference_all (scopes : List (List Declared)) (references : List Reference) :
    (Mention.all scopes references).map Mention.reference = references := by
  rw [Mention.all, List.map_map]
  exact List.map_id _

theorem Mention.all_append (scopes : List (List Declared)) (left right : List Reference) :
    Mention.all scopes (left ++ right) = Mention.all scopes left ++ Mention.all scopes right :=
  List.map_append

theorem useName_clears (h : s.Tracks made scopes) (name : Ident) :
    Clears [⟨.use name, scopes⟩] [.use (useName name s).1] s (useName name s).2 := by
  obtain ⟨after, found, run, -⟩ := h.agrees.useName name
  have single : Clears [⟨.use name, scopes⟩] [.use after] s (s.logged found) :=
    .single h (by rw [Reference.resolve, bind_run, run, pure_run])
  rwa [run]

theorem Ident.resolveMember_clears (h : s.Tracks made scopes) (base field : Ident) :
    Clears [⟨.access base field, scopes⟩]
      [.access (base.resolveMember field s).1.1 (base.resolveMember field s).1.2] s
      (base.resolveMember field s).2 := by
  obtain ⟨base', field', found, run, -⟩ := h.agrees.resolveMember base field
  have single : Clears [⟨.access base field, scopes⟩] [.access base' field'] s (s.logged found) :=
    .single h (by rw [Reference.resolve, bind_run, run]; rfl)
  rwa [run]

mutual

theorem Expr.resolve_clears {made : List Declared} {scopes : List (List Declared)} {s : State}
    (e : Expr) (shaped : e.Shaped) (h : s.Tracks made scopes) :
    Clears (e.mentions scopes) (e.resolve s).1.references s (e.resolve s).2 := by
  cases e with
  | int | string | bool => exact .refl s
  | ident name => exact useName_clears h name
  | dot pos base field =>
    cases base with
    | ident name => exact name.resolveMember_clears h field
    | dot pos' base' field' =>
      have first := Expr.resolve_clears (.dot pos' base' field') shaped.2 h
      have second := useName_clears (h.expr shaped.2) field
      -- That the field is an ordinary use is told by the base, which has to be an access still.
      obtain ⟨base₂, field₂, isDot⟩ := Expr.resolve_dot pos' base' field' s
      have answer : ((Expr.dot pos (.dot pos' base' field') field).resolve s).1 =
          .dot pos (.dot pos' base₂ field₂)
            (useName field ((Expr.dot pos' base' field').resolve s).2).1 := by
        rw [← isDot]
        rfl
      have both := first.append second
      rw [isDot] at both
      have mentions : (Expr.dot pos (.dot pos' base' field') field).mentions scopes =
          (Expr.dot pos' base' field').mentions scopes ++ [⟨.use field, scopes⟩] :=
        Mention.all_append ..
      rw [answer, mentions]
      exact both
    -- Other bases are no locations.
    | _ => cases shaped.1
  | assign pos target value =>
    have first := Expr.resolve_clears target shaped.2.1 h
    have second := Expr.resolve_clears value shaped.2.2 (h.expr shaped.2.1)
    rw [Expr.mentions, Expr.references, Mention.all_append]
    exact first.append second
  | call pos callee argsPos args =>
    exact (useName_clears h callee).append (Expr.resolveAll_clears args shaped (h.useName callee))
  | unary pos op operand => exact Expr.resolve_clears operand shaped h
  | binary pos left op right =>
    have first := Expr.resolve_clears left shaped.1 h
    have second := Expr.resolve_clears right shaped.2 (h.expr shaped.1)
    rw [Expr.mentions, Expr.references, Mention.all_append]
    exact first.append second

theorem Expr.resolveAll_clears {made : List Declared} {scopes : List (List Declared)} {s : State}
    (es : List Expr) (shaped : Expr.AllShaped es) (h : s.Tracks made scopes) :
    Clears (Mention.all scopes (Expr.referencesAll es))
      (Expr.referencesAll (Expr.resolveAll es s).1) s (Expr.resolveAll es s).2 := by
  cases es with
  | nil => exact .refl s
  | cons e es =>
    have first := Expr.resolve_clears e shaped.1 h
    have others := Expr.resolveAll_clears es shaped.2 (h.expr shaped.1)
    rw [Expr.referencesAll, Mention.all_append]
    exact first.append others

end

/-! ## Variables -/

/-- The type of a declared name. -/
theorem TypeExpr.declare_clears {target : Target} (h : s.AgreesAt target made ds outer)
    (tracks : s.Tracks made scopes) (type : TypeExpr) (name : Ident)
    (around : List (List Declared)) :
    Clears (Mention.all scopes (type.references name))
      ((Mention.all around ((type.declare target name s).1.references name)).map Mention.reference)
      s (type.declare target name s).2 := by
  rw [Mention.map_reference_all]
  cases type with
  | int pos => exact (h.declareVariable (.int pos) name).2.clears
  | bool pos => exact (h.declareVariable (.bool pos) name).2.clears
  | void pos => exact (h.declareVariable (.void pos) name).2.clears
  | struct pos structName =>
    obtain ⟨structName', found, run, -, -⟩ := tracks.agrees.useStructName structName name
    have first : Clears [⟨.ofType structName name, scopes⟩] [.ofType structName' name] s
        (s.logged found) := .single tracks (by rw [Reference.resolve, bind_run, run, pure_run])
    have declared := ((h.logged found).declare (d := ⟨name, some (.structVar structName'.name)⟩)
      rfl rfl).2.clears
    have answer : (TypeExpr.struct pos structName).declare target name s =
        (.struct pos structName',
          (Resolution.declare target name (.structVar structName'.name) (s.logged found)).2) := by
      rw [TypeExpr.declare, bind_run, run]
      rfl
    rw [answer]
    exact first.append declared

theorem Formal.resolveAll_clears (fs : List Formal) (h : s.Tracks made (ds :: scopes))
    (earlier : List Declared) (around : List (List Declared)) :
    Clears (Formal.mentionsAll ds scopes fs)
      ((Formal.mentionsAll earlier around (Formal.resolveAll fs s).1).map Mention.reference) s
      (Formal.resolveAll fs s).2 := by
  induction fs generalizing made ds s earlier with
  | nil => exact .refl s
  | cons f fs ih =>
    have agreesAt : s.AgreesAt .scope made ds scopes := h.agrees
    have first := f.type.declare_clears agreesAt h f.name (earlier :: around)
    have after : (f.resolve s).2.Tracks (made ++ f.declared.made ds)
        ((ds ++ [f.declared]) :: scopes) :=
      ⟨(agreesAt.declareVariable f.type f.name).1, (f.resolve_leads s).consistent h.consistent⟩
    exact first.join (ih after (earlier ++ [(f.resolve s).1.declared]))

theorem Decl.resolveFields_clears (structName : String) {struct : SymbolId} (fields : List Decl)
    (shaped : ∀ d ∈ fields, d.kind = .varDecl) {passed : List Declared}
    (h : s.AgreesAt (.fields struct) made ds (passed :: scopes)) (consistent : s.Consistent)
    (inArena : struct ∈ s.arena.ids) (earlier : List Declared) (around : List (List Declared)) :
    Clears (Decl.fieldMentions passed scopes fields)
      ((Decl.fieldMentions earlier around (Decl.resolveFields structName struct fields s).1).map
        Mention.reference) s (Decl.resolveFields structName struct fields s).2 := by
  induction fields generalizing made ds s with
  | nil => exact .refl s
  | cons d fields ih =>
    obtain ⟨isVariable, areVariables⟩ := List.forall_mem_cons.mp shaped
    cases d with
    | var pos type name =>
      have first := type.declare_clears h ⟨h.1, consistent⟩ name (earlier :: around)
      have leads := Decl.resolveField_leads structName inArena (.var pos type name)
      exact first.join (ih areVariables (h.declareVariable type name).1
        (leads.consistent consistent) (leads.grows.arena.subset inArena))
    | func => cases isVariable
    | struct => cases isVariable

/-! ## Declarations, statements and blocks -/

/-- The fields of a struct are passed over only where its name is a duplicate. -/
theorem Decl.resolve_struct_clears (pos : Position) (name : Ident) (fieldsPos : Position)
    {fields : List Decl} (shaped : ∀ d ∈ fields, d.kind = .varDecl)
    (h : s.Tracks made (ds :: scopes)) (earlier : List Declared) (around : List (List Declared)) :
    let d := Decl.struct pos name fieldsPos fields
    Clears (d.mentions ds scopes) (((d.resolve s).1.mentions earlier around).map Mention.reference)
      s (d.resolve s).2 := by
  intro d
  have declared := h.agrees.declareStruct (d := d.declared) rfl
  rw [show d.declared.name = name from rfl] at declared
  rcases declared with ⟨s', run, isNew, log, opened⟩ | ⟨run, old⟩
  · have consistent : (Resolution.declare .scope name (.structDef .root) s).2.Consistent :=
      declare_consistent name (by rintro _ ⟨⟩; rfl) h.consistent
    have inArena := mem_arena_of_declare .scope name (.structDef .root) s
    rw [run] at consistent inArena
    have inside := Decl.resolveFields_clears name.name fields shaped opened consistent
      (inArena _ rfl) (earlier ++ [(d.resolve s).1.declared]) around
    have run' : d.resolve s =
        (.struct pos name fieldsPos (Decl.resolveFields name.name ⟨made.length⟩ fields s').1,
          (Decl.resolveFields name.name ⟨made.length⟩ fields s').2) := by
      rw [Decl.resolve, bind_run, run]
      rfl
    rw [run'] at inside ⊢
    have first : Clears [] [] s s' := .silent (log ▸ List.prefix_refl _)
    exact first.append inside
  · have run' : d.resolve s = (d, s.report name .duplicateName) := by
      rw [Decl.resolve, bind_run, run]
      rfl
    have log : (s.report name .duplicateName).log.entries =
        s.log.entries ++ [Log.entry name.pos .duplicateName] := rfl
    rw [run']
    exact .faulty log (List.cons_ne_nil _ _)

/-- The references in an expression that was annotated do not depend on the scopes around it. -/
theorem Expr.resolve_clears_in (e : Expr) (shaped : e.Shaped) (h : s.Tracks made scopes)
    (around : List (List Declared)) :
    Clears (e.mentions scopes) (((e.resolve s).1.mentions around).map Mention.reference) s
      (e.resolve s).2 := by
  rw [Expr.mentions, Expr.mentions, Mention.map_reference_all]
  exact e.resolve_clears shaped h

mutual

theorem Decl.resolve_clears {made ds : List Declared} {scopes : List (List Declared)} {s : State}
    (d : Decl) (shaped : d.Shaped) (h : s.Tracks made (ds :: scopes)) (earlier : List Declared)
    (around : List (List Declared)) :
    Clears (d.mentions ds scopes) (((d.resolve s).1.mentions earlier around).map Mention.reference)
      s (d.resolve s).2 := by
  have agreesAt : s.AgreesAt .scope made ds scopes := h.agrees
  cases d with
  | var pos type name =>
    exact type.declare_clears agreesAt h name (earlier :: around)
  | struct pos name fieldsPos fields =>
    exact Decl.resolve_struct_clears pos name fieldsPos shaped h earlier around
  | func pos returnType name formals bodyPos body =>
    let d := (Decl.func pos returnType name formals bodyPos body).declared
    let meaning := Meaning.func returnType.dataType (formals.items.map (·.type.dataType))
    obtain ⟨after, faults⟩ := State.AgreesAt.declare (d := d) agreesAt rfl rfl
    have declared : (Resolution.declare .scope name meaning s).2.Tracks (made ++ d.made ds)
        ((ds ++ [d]) :: scopes) := ⟨after, declare_consistent name (by simp) h.consistent⟩
    have opened := declared.openScope
    -- The formal parameters are declared in the scope that the body goes on with.
    have parameters := Formal.resolveAll_clears formals.items opened []
    have inside : (Formal.resolveAll formals.items
        (openScope (Resolution.declare .scope name meaning s).2).2).2.Tracks _ _ :=
      ⟨(State.AgreesAt.declareFormals formals.items opened.agrees).1,
        (Formal.resolveAll_leads formals.items _).consistent opened.consistent⟩
    have block := body.resolveInside_clears shaped inside
    exact faults.clears.append ((parameters _).join (block _ _)).inScope

theorem Stmt.resolve_clears {made : List Declared} {scopes : List (List Declared)} {s : State}
    (st : Stmt) (shaped : st.Shaped) (h : s.Tracks made scopes) (opened : scopes ≠ [])
    (around : List (List Declared)) :
    Clears (st.mentions scopes) (((st.resolve s).1.mentions around).map Mention.reference) s
      (st.resolve s).2 := by
  cases st with
  | assign pos a =>
    have inside := a.expr.resolve_clears_in shaped h around
    rwa [a.resolve_expr] at inside
  | call pos c =>
    have inside := c.expr.resolve_clears_in shaped h around
    rwa [c.resolve_expr] at inside
  | increment pos e | decrement pos e | read pos e => exact e.resolve_clears_in shaped.2 h around
  | write pos e => exact e.resolve_clears_in shaped h around
  | ret pos value =>
    cases value with
    | none => exact .refl s
    | some e => exact e.resolve_clears_in (shaped e rfl) h around
  | ifThen pos cond body | loop pos cond body =>
    have first := cond.resolve_clears_in shaped.1 h around
    have block := body.resolveInside_clears shaped.2 (h.expr shaped.1).openScope [] around
    exact first.join block.inScope
  | ifElse pos cond yes no =>
    have first := cond.resolve_clears_in shaped.1 h around
    have opened' := (h.expr shaped.1).openScope
    have block := yes.resolveInside_clears shaped.2.1 opened' [] around
    have closed := (opened'.block shaped.2.1).closeScope opened
    have block' := no.resolveInside_clears shaped.2.2 closed.openScope [] around
    exact first.join (block.inScope.join block'.inScope)

theorem Block.resolveInside_clears {made ds : List Declared} {scopes : List (List Declared)}
    {s : State} (b : Block) (shaped : b.Shaped) (h : s.Tracks made (ds :: scopes))
    (earlier : List Declared) (around : List (List Declared)) :
    Clears (b.mentions ds scopes)
      (((b.resolveInside s).1.mentions earlier around).map Mention.reference) s
      (b.resolveInside s).2 := by
  cases b with
  | mk declsPos decls stmtsPos stmts =>
    have declsShaped : ∀ d ∈ decls, d.Shaped := fun d mem =>
      Decl.shaped_of_kind (shaped.1 d mem)
    have first := Decl.resolveAll_clears decls declsShaped h earlier around
    have others := Stmt.resolveAll_clears stmts shaped.2 (h.decls declsShaped)
      (List.cons_ne_nil _ _) ((earlier ++ (Decl.resolveAll decls s).1.map Decl.declared) :: around)
    exact first.join others

theorem Decl.resolveAll_clears {made ds : List Declared} {scopes : List (List Declared)}
    {s : State} (decls : List Decl) (shaped : ∀ d ∈ decls, d.Shaped)
    (h : s.Tracks made (ds :: scopes)) (earlier : List Declared) (around : List (List Declared)) :
    Clears (Decl.mentionsAll ds scopes decls)
      ((Decl.mentionsAll earlier around (Decl.resolveAll decls s).1).map Mention.reference) s
      (Decl.resolveAll decls s).2 := by
  cases decls with
  | nil => exact .refl s
  | cons d decls =>
    obtain ⟨shaped, shaped'⟩ := List.forall_mem_cons.mp shaped
    have first := d.resolve_clears shaped h earlier around
    have others := Decl.resolveAll_clears decls shaped' (h.decl shaped)
      (earlier ++ [(d.resolve s).1.declared]) around
    exact first.join others

theorem Stmt.resolveAll_clears {made : List Declared} {scopes : List (List Declared)} {s : State}
    (ss : List Stmt) (shaped : Stmt.AllShaped ss) (h : s.Tracks made scopes)
    (opened : scopes ≠ []) (around : List (List Declared)) :
    Clears (Stmt.mentionsAll scopes ss)
      ((Stmt.mentionsAll around (Stmt.resolveAll ss s).1).map Mention.reference) s
      (Stmt.resolveAll ss s).2 := by
  cases ss with
  | nil => exact .refl s
  | cons st ss =>
    have first := st.resolve_clears shaped.1 h opened around
    have others := Stmt.resolveAll_clears ss shaped.2 (h.stmt shaped.1) opened around
    exact first.join others

end

/-! ## What mentions come to -/

/-- The innermost scope has a variable of a struct under a name. -/
def Declared.VariableOf (scopes : List (List Declared)) (name structName : String) : Prop :=
  ∃ scope outer d, scopes = scope :: outer ∧ scope.find? (·.Gives name) = some d ∧
    d.meaning = some (.structVar structName)

/-- A declaration defines a struct. -/
def Declared.IsStruct (d : Declared) : Prop := ∃ fields, d.meaning = some (.structDef fields)

/-- What becomes of a mention where no fault is found. -/
inductive Mention.Resolved : Mention → Reference → Prop
  | use {name : Ident} {scopes : List (List Declared)} (place : Nat) :
      Resolved ⟨.use name, scopes⟩ (.use (name.attach (some place)))
  | access {base field : Ident} {scopes : List (List Declared)} {structName : String}
      {d : Declared} (place place' : Nat)
      (isVariable : Declared.VariableOf scopes base.name structName)
      (visible : Declared.lookup scopes structName = some d) (isStruct : d.IsStruct) :
      Resolved ⟨.access base field, scopes⟩
        (.access (base.attach (some place)) (field.attach (some place')))
  /-- The field is passed over, for the name of the struct stands for something else there. -/
  | hidden {base field : Ident} {scopes : List (List Declared)} {structName : String}
      {d : Declared} (place : Nat) (isVariable : Declared.VariableOf scopes base.name structName)
      (visible : Declared.lookup scopes structName = some d) (noStruct : ¬ d.IsStruct)
      (unannotated : field.symbol = none) :
      Resolved ⟨.access base field, scopes⟩ (.access (base.attach (some place)) field)
  | ofStruct {structName declared : Ident} {scopes : List (List Declared)} {d : Declared}
      (place : Nat) (visible : Declared.lookup scopes structName.name = some d)
      (isStruct : d.IsStruct) :
      Resolved ⟨.ofType structName declared, scopes⟩
        (.ofType (structName.attach (some place)) declared)
  | ofOther {structName declared : Ident} {scopes : List (List Declared)} {d : Declared}
      (visible : Declared.lookup scopes structName.name = some d) (noStruct : ¬ d.IsStruct) :
      Resolved ⟨.ofType structName declared, scopes⟩ (.ofType structName declared)

namespace Resolution.State

theorem eq_nil_of_logged {found : List Diagnostic} (same : s.logged found = s) : found = [] :=
  List.append_right_eq_self.mp (congrArg (·.log.entries) same)

theorem report_ne (s : State) (name : Ident) (kind : DiagnosticKind) : s.report name kind ≠ s :=
  fun same => List.cons_ne_nil _ _ (eq_nil_of_logged same)

variable {id : SymbolId} {d : Declared}

/-- A declaration says of which struct its symbol is a variable. -/
theorem Stores.structOf?_eq_some_iff (h : s.Stores made) (stands : made[id.number]? = some d)
    {structName : String} :
    s.structOf? id = some structName ↔ d.meaning = some (.structVar structName) := by
  obtain ⟨⟨name, meaning, index⟩, found, records⟩ := h.symbols id.number d stands
  rw [structOf?, show id = ⟨id.number⟩ from rfl, found, records.meaning]
  cases meaning with
  | structVar structName' =>
    refine ⟨fun isVariable => ?_, fun means => ?_⟩
    · rw [← Option.some.inj isVariable]
      rfl
    · cases means
      rfl
  | _ => exact ⟨by rintro ⟨⟩, by rintro ⟨⟩⟩

/-- A symbol has a table of fields if its declaration defines a struct. -/
theorem Stores.fields?_isSome_iff (h : s.Stores made) (stands : made[id.number]? = some d) :
    (s.store.fields? id).isSome = true ↔ d.IsStruct := by
  obtain ⟨⟨name, meaning, index⟩, found, records⟩ := h.symbols id.number d stands
  rw [Store.fields?, show id = ⟨id.number⟩ from rfl, found, Declared.IsStruct, records.meaning]
  cases meaning with
  | structDef fields => exact ⟨fun _ => ⟨_, rfl⟩, fun _ => rfl⟩
  | _ => exact ⟨fun none => absurd none Bool.false_ne_true, by rintro ⟨_, ⟨⟩⟩⟩

/-- The base of an access is annotated with the symbol of the first declaration of its name in the
innermost scope, if that is a variable of a struct, or it is reported. -/
theorem Agrees.useBase_run (h : s.Agrees made (ds :: outer)) (base : Ident) :
    (∃ d structName place, ds.find? (·.Gives base.name) = some d ∧
        d.meaning = some (.structVar structName) ∧ made[place]? = some d ∧
        Resolution.useBase base s = ((base.attach (some place), some structName), s)) ∨
      ((∀ d structName, ds.find? (·.Gives base.name) = some d →
          d.meaning ≠ some (.structVar structName)) ∧
        Resolution.useBase base s =
          ((base, none), s.report base .dotAccessNonStruct)) := by
  obtain ⟨scope, table, binds, -, split⟩ := List.forall₂_cons_right_iff.mp h.binds
  have stands := binds base.name
  have looked : s.table.lookupLocal base.name = .ok (scope.find? base.name) := by
    rw [ScopeStack.lookupLocal, split]
  rw [Resolution.useBase, unlessFailed_of_running h.stores.running]
  simp only [looked]
  generalize ds.find? (·.Gives base.name) = d at stands
  generalize scope.find? base.name = id at stands
  cases stands with
  | none =>
    refine .inr ⟨fun d structName declared => ?_, rfl⟩
    cases declared
  | @some id d stands =>
    have isVariable_iff {structName : String} :
        s.structOf? id = some structName ↔ d.meaning = some (.structVar structName) :=
      h.stores.structOf?_eq_some_iff stands
    rw [Option.bind_some]
    cases isVariable : s.structOf? id with
    | none =>
      refine .inr ⟨?_, rfl⟩
      rintro _ structName ⟨⟩ means
      cases isVariable.symm.trans (isVariable_iff.mpr means)
    | some structName =>
      have index := congrArg base.attach (h.stores.index? stands)
      exact .inl ⟨d, structName, id.number, rfl, isVariable_iff.mp isVariable, stands,
        congrArg (fun base => ((base, some structName), s)) index⟩

/-! ### Steps without a fault -/

namespace Tracks

variable (h : s.Tracks made scopes)

include h

theorem useName_silent {name : Ident} (silent : (Resolution.useName name s).2 = s) :
    ∃ place : Nat, (Resolution.useName name s).1 = name.attach (some place) := by
  obtain ⟨id, looked, stands⟩ := h.agrees.lookup name.name
  rw [Resolution.useName, unlessFailed_of_running h.agrees.stores.running] at silent ⊢
  simp only [looked] at silent ⊢
  generalize Declared.lookup scopes name.name = d at stands
  cases stands with
  | none => exact absurd silent (report_ne s name .undeclaredIdentifier)
  | some stands => exact ⟨_, congrArg name.attach (h.agrees.stores.index? stands)⟩

theorem useStructName_silent {structName declared : Ident}
    (silent : (Resolution.useStructName structName declared s).2 = s) :
    ∃ d, Declared.lookup scopes structName.name = some d ∧
      ((d.IsStruct ∧ ∃ place : Nat,
          (Resolution.useStructName structName declared s).1 = structName.attach (some place)) ∨
        (¬ d.IsStruct ∧ (Resolution.useStructName structName declared s).1 = structName)) := by
  obtain ⟨id, looked, stands⟩ := h.agrees.lookup structName.name
  rw [Resolution.useStructName, unlessFailed_of_running h.agrees.stores.running] at silent ⊢
  simp only [looked] at silent ⊢
  generalize Declared.lookup scopes structName.name = d at stands
  cases stands with
  | none => exact absurd silent (report_ne s declared .invalidStructType)
  | @some id d stands =>
    refine ⟨d, rfl, ?_⟩
    by_cases isStruct : (s.store.fields? id).isSome = true
    · refine .inl ⟨(h.agrees.stores.fields?_isSome_iff stands).mp isStruct, id.number, ?_⟩
      simp only [if_pos isStruct]
      exact congrArg structName.attach (h.agrees.stores.index? stands)
    · refine .inr ⟨mt (h.agrees.stores.fields?_isSome_iff stands).mpr isStruct, ?_⟩
      simp only [if_neg isStruct]

theorem useBase_silent {base : Ident} (silent : (Resolution.useBase base s).2 = s) :
    ∃ (place : Nat) (structName : String), Declared.VariableOf scopes base.name structName ∧
      (Resolution.useBase base s).1 = (base.attach (some place), some structName) := by
  obtain ⟨ds, outer, rfl⟩ := List.exists_cons_of_ne_nil h.agrees.opened
  rcases h.agrees.useBase_run base with ⟨d, structName, place, found, means, -, run⟩ | ⟨-, run⟩
  · exact ⟨place, structName, ⟨ds, outer, d, rfl, found, means⟩, by rw [run]⟩
  · rw [run] at silent
    exact absurd silent (report_ne s base .dotAccessNonStruct)

theorem useField_silent {structName : String} {field : Ident} {d : Declared}
    (visible : Declared.lookup scopes structName = some d)
    (silent : (Resolution.useField structName field s).2 = s) :
    (d.IsStruct ∧ ∃ place : Nat,
        (Resolution.useField structName field s).1 = field.attach (some place)) ∨
      (¬ d.IsStruct ∧ (Resolution.useField structName field s).1 = field) := by
  obtain ⟨id, looked, stands⟩ := h.agrees.lookup structName
  rw [visible] at stands
  cases stands with
  | @some id d stands =>
    have isStruct_iff := h.agrees.stores.fields?_isSome_iff stands
    rw [Resolution.useField, unlessFailed_of_running h.agrees.stores.running] at silent ⊢
    simp only [looked, Option.bind_some] at silent ⊢
    cases fields : s.store.fields? id with
    | none =>
      rw [fields] at isStruct_iff
      exact .inr ⟨mt isStruct_iff.mpr Bool.false_ne_true, rfl⟩
    | some table =>
      obtain ⟨scope, outer, split⟩ :=
        List.exists_cons_of_ne_nil (h.agrees.stores.fields_opened stands fields)
      have found : table.lookupLocal field.name = .ok (scope.find? field.name) := by
        rw [ScopeStack.lookupLocal, split]
      have backs := h.consistent.fields_of_lookup looked fields
      rw [fields] at isStruct_iff silent
      refine .inl ⟨isStruct_iff.mp rfl, ?_⟩
      simp only [found] at silent ⊢
      cases bound : scope.find? field.name with
      | none =>
        rw [bound] at silent
        exact absurd silent (report_ne s field .invalidFieldName)
      | some id =>
        obtain ⟨index, known⟩ := Option.ne_none_iff_exists'.mp
          (backs.lookupLocal (found.trans (congrArg Except.ok bound))).index?_ne_none
        exact ⟨index, congrArg field.attach known⟩

end Tracks

end Resolution.State

namespace Mention.Met

variable {after : Reference}

theorem use {name : Ident} (h : Met ⟨.use name, scopes⟩ after) :
    Resolved ⟨.use name, scopes⟩ after := by
  obtain ⟨made, s, tracks, run⟩ := h
  have run : (Reference.use (useName name s).1, (useName name s).2) = (after, s) := run
  obtain ⟨rfl, silent⟩ := Prod.mk.inj run
  obtain ⟨place, answer⟩ := tracks.useName_silent silent
  rw [answer]
  exact .use place

theorem ofType {structName declared : Ident} (h : Met ⟨.ofType structName declared, scopes⟩ after) :
    Resolved ⟨.ofType structName declared, scopes⟩ after := by
  obtain ⟨made, s, tracks, run⟩ := h
  have run : (Reference.ofType (useStructName structName declared s).1 declared,
    (useStructName structName declared s).2) = (after, s) := run
  obtain ⟨rfl, silent⟩ := Prod.mk.inj run
  obtain ⟨d, visible, ⟨isStruct, place, answer⟩ | ⟨noStruct, answer⟩⟩ :=
    tracks.useStructName_silent silent
  · rw [answer]
    exact .ofStruct place visible isStruct
  · rw [answer]
    exact .ofOther visible noStruct

theorem known {m : Mention} (h : m.Met after) : m.Known := by
  intro structName declared isType
  obtain ⟨reference, scopes⟩ := m
  obtain rfl : reference = .ofType structName declared := isType
  cases h.ofType with
  | ofStruct _ visible _ => rw [visible]; rfl
  | ofOther visible _ => rw [visible]; rfl

/-- The base of an access is a variable of a struct, and what the name of the struct stands for
decides about the field. -/
theorem access {base field : Ident} (h : Met ⟨.access base field, scopes⟩ after)
    (backed : Mention.Backed ⟨.access base field, scopes⟩) (unannotated : field.symbol = none) :
    Resolved ⟨.access base field, scopes⟩ after := by
  obtain ⟨made, s, tracks, run⟩ := h
  have run : (Reference.access (base.resolveMember field s).1.1 (base.resolveMember field s).1.2,
    (base.resolveMember field s).2) = (after, s) := run
  obtain ⟨rfl, silent⟩ := Prod.mk.inj run
  -- Neither the base nor the field is reported, for the log only grows.
  have atBase : (useBase base s).2 = s := by
    obtain ⟨answer, found, run, -⟩ := tracks.agrees.useBase base
    cases ofStruct : (useBase base s).1.2 with
    | none => rwa [Ident.resolveMember_of_none ofStruct] at silent
    | some structName =>
      obtain ⟨field', found', run', -⟩ := (tracks.agrees.logged found).useField structName field
      rw [Ident.resolveMember_of_some ofStruct, run, run', State.logged_logged] at silent
      obtain ⟨rfl, -⟩ := List.append_eq_nil_iff.mp (State.eq_nil_of_logged silent)
      rw [run, State.logged_nil]
  obtain ⟨place, structName, isVariable, answer⟩ := tracks.useBase_silent atBase
  have ofStruct : (useBase base s).1.2 = some structName := by rw [answer]
  rw [Ident.resolveMember_of_some ofStruct, atBase] at silent ⊢
  rw [answer]
  -- The struct was known where the variable was declared.
  obtain ⟨d, visible⟩ : ∃ d, Declared.lookup scopes structName = some d := by
    obtain ⟨scope, outer, rfl, backed⟩ := backed
    obtain ⟨_, _, inst, same, found, means⟩ := isVariable
    obtain ⟨rfl, rfl⟩ := List.cons.inj same
    exact Option.isSome_iff_exists.mp
      (backed inst (List.mem_of_find?_eq_some found) structName means)
  rcases tracks.useField_silent visible silent with
    ⟨isStruct, place', atField⟩ | ⟨noStruct, atField⟩
  · rw [atField]
    exact .access place place' isVariable visible isStruct
  · rw [atField]
    exact .hidden place isVariable visible noStruct unannotated

end Mention.Met

/-- What is met without a fault is resolved, where the structs of variables stand for something. -/
theorem Mention.Met.resolved {m : Mention} {after : Reference} (h : m.Met after)
    (backed : m.Backed) (unannotated : ∀ name ∈ m.reference.used, name.symbol = none) :
    m.Resolved after := by
  obtain ⟨reference, scopes⟩ := m
  cases reference with
  | use name => exact h.use
  | access base field =>
    exact h.access backed (unannotated field (List.mem_cons_of_mem _ (List.mem_singleton_self _)))
  | ofType structName declared => exact h.ofType

theorem known_of_met {mentions : List Mention} {afters : List Reference}
    (h : List.Forall₂ Mention.Met mentions afters) : ∀ m ∈ mentions, m.Known := by
  induction h with
  | nil => exact List.forall_mem_nil _
  | cons met _ ih => exact List.forall_mem_cons.mpr ⟨met.known, ih⟩

/-! ## Programs -/

theorem tracks_fresh : State.Tracks [] [[]] {} :=
  ⟨agrees_fresh, State.consistent_fresh⟩

/-- The identifiers in the expressions of a program that was read are not annotated. -/
theorem symbol_of_mem_used {tokens : List Token} {T : Program}
    (read : parseTokens tokens = .ok T) {m : Mention} (mem : m ∈ T.mentions) :
    ∀ name ∈ m.reference.used, name.symbol = none := by
  intro name used
  have mem : name ∈ Mention.usedAll T.mentions := List.mem_flatMap.mpr ⟨m, mem, used⟩
  rw [Program.used_mentions] at mem
  exact symbol_of_parseTokens read name ((Decl.usesAll_sublist T.decls).subset mem)

/-- **An analysis without faults leaves nothing open.** If the analysis of a program that was read
from tokens finds no fault, every identifier in an expression is annotated but the fields of those
accesses whose base is a variable, in the innermost scope, of a struct whose name stands for
something else than a struct at the access. That name stands for something at least; and every
struct that is named in the type of a variable, a formal parameter or a field is annotated, if its
name stands for a struct there. -/
theorem analyze_clean_resolves {tokens : List Token} {T : Program}
    (read : parseTokens tokens = .ok T) (clean : T.analyze.isClean = true) :
    List.Forall₂ Mention.Resolved T.mentions
        (T.analyze.program.mentions.map Mention.reference) ∧
      Mention.usedAll T.mentions = (Node.program T).uses ∧
      Mention.usedAll T.analyze.program.mentions = (Node.program T.analyze.program).uses := by
  refine ⟨?_, T.used_mentions, T.analyze.program.used_mentions⟩
  obtain ⟨found, log, met⟩ :=
    Decl.resolveAll_clears T.decls (shaped_of_parseTokens read) tracks_fresh [] []
  -- A fresh log is empty, so what was found on the way is the whole log.
  have entries : T.analyze.state.log.entries = found := log
  have met : List.Forall₂ Mention.Met T.mentions
      (T.analyze.program.mentions.map Mention.reference) :=
    met (entries ▸ (Log.isClean_iff _).mp clean)
  have backed := Program.backed_mentions (known_of_met met)
  have plain : ∀ m ∈ T.mentions, m.Backed ∧ ∀ name ∈ m.reference.used, name.symbol = none :=
    fun m mem => ⟨backed m mem, symbol_of_mem_used read mem⟩
  refine ((List.forall₂_and_left _ _).mpr ⟨plain, met⟩).imp ?_
  rintro m after ⟨⟨backed, unannotated⟩, met⟩
  exact met.resolved backed unannotated

/-- A function whose variable `P` hides the struct `P` of its formal parameter, and one whose formal
parameter is not hidden. -/
def gapText : String :=
  "struct P \x7b int x; \x7d\n" ++
  "void f(struct P p) \x7b int P; p.x = P; \x7d\n" ++
  "void g(struct P q) \x7b q.x = 1; \x7d"

/-- The program in that text. -/
def gapProgram : Program where
  pos := ⟨1, 1⟩
  declsPos := ⟨1, 1⟩
  decls :=
    let name (w : String) (line column : Int) : Ident := { pos := ⟨line, column⟩, value := .text w }
    let struct (line column : Int) : TypeExpr := .struct ⟨line, column⟩ (name "P" line (column + 7))
    let field (base : String) (line column : Int) : Expr :=
      .dot ⟨line, column⟩ (.ident (name base line column)) (name "x" line (column + 2))
    [.struct ⟨1, 1⟩ (name "P" 1 8) ⟨1, 12⟩ [.var ⟨1, 12⟩ (.int ⟨1, 12⟩) (name "x" 1 16)],
      .func ⟨2, 1⟩ (.void ⟨2, 1⟩) (name "f" 2 6)
        { pos := ⟨2, 7⟩, items := [⟨⟨2, 8⟩, struct 2 8, name "p" 2 17⟩] } ⟨2, 20⟩
        (.mk ⟨2, 22⟩ [.var ⟨2, 22⟩ (.int ⟨2, 22⟩) (name "P" 2 26)] ⟨2, 29⟩
          [.assign ⟨2, 29⟩ ⟨⟨2, 29⟩, field "p" 2 29, .ident (name "P" 2 35)⟩]),
      .func ⟨3, 1⟩ (.void ⟨3, 1⟩) (name "g" 3 6)
        { pos := ⟨3, 7⟩, items := [⟨⟨3, 8⟩, struct 3 8, name "q" 3 17⟩] } ⟨3, 20⟩
        (.mk ⟨3, 22⟩ [] ⟨3, 22⟩
          [.assign ⟨3, 22⟩ ⟨⟨3, 22⟩, field "q" 3 22, .int ⟨3, 28⟩ (.number 1)⟩])]

theorem parseText_gapText : parseText gapText = .ok gapProgram := by
  decide +kernel

theorem analyze_clean_resolves_of_gapText :
    (∃ tokens, tokenize gapText = .ok tokens ∧ parseTokens tokens = .ok gapProgram) ∧
      gapProgram.analyze.isClean = true ∧
      List.Forall₂ Mention.Resolved gapProgram.mentions
        (gapProgram.analyze.program.mentions.map Mention.reference) ∧
      (Node.program gapProgram.analyze.program).uses.map Ident.symbol =
        [some 3, none, some 4, some 6, some 1] := by
  obtain ⟨tokens, lexed, parsed⟩ := parseText_eq_ok.mp parseText_gapText
  have clean : gapProgram.analyze.isClean = true := by decide
  exact ⟨⟨tokens, lexed, parsed⟩, clean, (analyze_clean_resolves parsed clean).1, by decide⟩

end Minim
