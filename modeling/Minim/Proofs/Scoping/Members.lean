import Minim.Proofs.Resolution.Renoting
import Minim.Proofs.Resolution.Reports
import Minim.Proofs.Scoping.Accesses
import Minim.Syntax.Equality

/-!
# Dot accesses in programs

Only expressions hold dot accesses, and only declarations at the top level are structs. While a
program is analysed, every struct that made a symbol keeps its table, so whatever becomes of an
access is told by the source alone.
-/

namespace Minim

open Resolution

variable {made : List Declared} {scopes : List (List Declared)} {s s' s'' : State}
  {decls : List Decl}

/-! ## Symbols of declarations -/

theorem Declared.made_sublist (earlier : List Declared) (d : Declared) :
    (d.made earlier).Sublist [d] := by
  rw [Declared.made]
  split
  · exact .refl _
  · exact List.nil_sublist _

theorem Declared.madeAll_sublist (earlier ds : List Declared) :
    (Declared.madeAll earlier ds).Sublist ds := by
  induction ds generalizing earlier with
  | nil => exact .slnil
  | cons d ds ih => exact (d.made_sublist earlier).append (ih (earlier ++ [d]))

/-! ## Parts without structs -/

theorem TypeExpr.not_isStruct (type : TypeExpr) (name : Ident) :
    ¬ Declared.IsStruct ⟨name, type.meaning?⟩ := by
  rintro ⟨fields, means⟩
  cases type <;> cases means

theorem Declared.not_isStruct_of_func (name : Ident) (returnType : DataType)
    (paramTypes : List DataType) : ¬ IsStruct ⟨name, some (.func returnType paramTypes)⟩ := by
  rintro ⟨fields, ⟨⟩⟩

theorem Formal.not_isStruct (fs : List Formal) : ∀ d ∈ fs.map Formal.declared, ¬ d.IsStruct :=
  List.forall_mem_map.mpr fun f _ => f.type.not_isStruct f.name

theorem Declared.not_isStruct_of_made {earlier : List Declared} {d : Declared}
    (plain : ¬ d.IsStruct) : ∀ d' ∈ d.made earlier, ¬ d'.IsStruct := fun d' mem => by
  obtain rfl := List.mem_singleton.mp ((d.made_sublist earlier).subset mem)
  exact plain

theorem Declared.not_isStruct_of_madeAll {earlier ds : List Declared}
    (plain : ∀ d ∈ ds, ¬ d.IsStruct) : ∀ d ∈ Declared.madeAll earlier ds, ¬ d.IsStruct :=
  fun d mem => plain d ((Declared.madeAll_sublist earlier ds).subset mem)

theorem Decl.not_isStruct_of_variables {ds : List Decl}
    (areVariables : ∀ d ∈ ds, d.kind = .varDecl) : ∀ d ∈ ds.map Decl.declared, ¬ d.IsStruct := by
  refine List.forall_mem_map.mpr fun d mem => ?_
  have isVariable := areVariables d mem
  cases d with
  | var pos type name => exact type.not_isStruct name
  | func => cases isVariable
  | struct => cases isVariable

theorem Decl.not_isStruct_of_madeAll (ds : List Decl) (areVariables : ∀ d ∈ ds, d.kind = .varDecl)
    (earlier : List Declared) : ∀ d ∈ Decl.madeAll earlier ds, ¬ d.IsStruct := by
  induction ds generalizing earlier with
  | nil => exact List.forall_mem_nil _
  | cons d ds ih =>
    obtain ⟨isVariable, others⟩ := List.forall_mem_cons.mp areVariables
    cases d with
    | var pos type name =>
      exact List.forall_mem_append.mpr
        ⟨Declared.not_isStruct_of_made (type.not_isStruct name), ih others _⟩
    | func => cases isVariable
    | struct => cases isVariable

mutual

theorem Stmt.not_isStruct_of_made (st : Stmt) (shaped : st.Shaped) :
    ∀ d ∈ st.made, ¬ d.IsStruct := by
  cases st with
  | ifThen pos cond body | loop pos cond body => exact body.not_isStruct_of_made shaped.2 []
  | ifElse pos cond yes no =>
    exact List.forall_mem_append.mpr
      ⟨yes.not_isStruct_of_made shaped.2.1 [], no.not_isStruct_of_made shaped.2.2 []⟩
  | _ => exact List.forall_mem_nil _

theorem Block.not_isStruct_of_made (b : Block) (shaped : b.Shaped) (formals : List Declared) :
    ∀ d ∈ b.made formals, ¬ d.IsStruct := by
  cases b with
  | mk declsPos decls stmtsPos stmts =>
    exact List.forall_mem_append.mpr
      ⟨Decl.not_isStruct_of_madeAll decls shaped.1 formals,
        Stmt.not_isStruct_of_madeAll stmts shaped.2⟩

theorem Stmt.not_isStruct_of_madeAll (ss : List Stmt) (shaped : Stmt.AllShaped ss) :
    ∀ d ∈ Stmt.madeAll ss, ¬ d.IsStruct := by
  cases ss with
  | nil => exact List.forall_mem_nil _
  | cons st ss =>
    exact List.forall_mem_append.mpr
      ⟨st.not_isStruct_of_made shaped.1, Stmt.not_isStruct_of_madeAll ss shaped.2⟩

end

/-! ## What is known on the way -/

namespace Resolution.State.Knows

/-- Declarations that are no structs leave the structs what they are. -/
theorem extend {more : List Declared} {scopes' : List (List Declared)}
    (h : s.Knows decls made scopes) (agrees : s'.Agrees (made ++ more) scopes')
    (kept : ∀ id table, s.store.fields? id = some table → s'.store.fields? id = some table)
    (plain : ∀ d ∈ more, ¬ d.IsStruct) : s'.Knows decls (made ++ more) scopes' := by
  refine ⟨agrees, fun i d stands isStruct => ?_⟩
  rcases lt_or_ge i made.length with small | large
  · rw [List.getElem?_append_left small] at stands
    obtain ⟨fields, scope, defined, known, binds⟩ := h.structs i d stands isStruct
    exact ⟨fields, scope, defined, kept _ _ known, binds.mono more⟩
  · rw [List.getElem?_append_right large] at stands
    exact absurd isStruct (plain d (List.mem_of_getElem? stands))

variable {ds : List Declared}

theorem expr (h : s.Knows decls made scopes) {e : Expr} (shaped : e.Shaped) :
    (e.resolve s).2.Knows decls made scopes := by
  obtain ⟨e', found, run, -⟩ := e.resolve_settles shaped h.agrees
  rw [run]
  exact h.logged found

theorem useName (h : s.Knows decls made scopes) (name : Ident) :
    (Resolution.useName name s).2.Knows decls made scopes := by
  obtain ⟨after, found, run, -⟩ := h.agrees.useName name
  rw [run]
  exact h.logged found

theorem openScope (h : s.Knows decls made scopes) :
    (Resolution.openScope s).2.Knows decls made ([] :: scopes) :=
  ⟨h.agrees.afterOpen, by rw [(openScope_keeps s).store]; exact h.structs⟩

theorem closeScope (h : s.Knows decls made (ds :: scopes)) (opened : scopes ≠ []) :
    (Resolution.closeScope s).2.Knows decls made scopes :=
  ⟨h.agrees.afterClose opened, by rw [(closeScope_keeps s).store]; exact h.structs⟩

theorem stmt (h : s.Knows decls made scopes) {st : Stmt} (shaped : st.Shaped) :
    (st.resolve s).2.Knows decls (made ++ st.made) scopes :=
  h.extend (st.resolve_walks shaped h.agrees []).1 (st.resolve_binds s).fields
    (st.not_isStruct_of_made shaped)

theorem block (h : s.Knows decls made (ds :: scopes)) {b : Block} (shaped : b.Shaped) :
    (b.resolveInside s).2.Knows decls (made ++ b.made ds)
      ((ds ++ b.decls.map Decl.declared) :: scopes) :=
  h.extend (b.resolveInside_walks shaped h.agrees [] []).1 (b.resolveInside_binds s).fields
    (b.not_isStruct_of_made shaped ds)

theorem formals (h : s.Knows decls made (ds :: scopes)) (fs : List Formal) :
    (Formal.resolveAll fs s).2.Knows decls
      (made ++ Declared.madeAll ds (fs.map Formal.declared))
      ((ds ++ fs.map Formal.declared) :: scopes) :=
  h.extend (AgreesAt.declareFormals fs h.agrees).1 (Formal.resolveAll_binds fs s).fields
    (Declared.not_isStruct_of_madeAll (Formal.not_isStruct fs))

theorem varDecls (h : s.Knows decls made (ds :: scopes)) {vars : List Decl}
    (areVariables : ∀ d ∈ vars, d.kind = .varDecl) :
    (Decl.resolveAll vars s).2.Knows decls (made ++ Decl.madeAll ds vars)
      ((ds ++ vars.map Decl.declared) :: scopes) :=
  h.extend (Decl.resolveAll_walks vars (fun d mem => Decl.shaped_of_kind (areVariables d mem))
      h.agrees []).1 (Decl.resolveAll_binds vars s).fields
    (Decl.not_isStruct_of_madeAll vars areVariables ds)

/-- A function is declared. -/
theorem declareFunc (h : s.Knows decls made (ds :: scopes)) (name : Ident) (returnType : DataType)
    (paramTypes : List DataType) :
    let d : Declared := ⟨name, some (.func returnType paramTypes)⟩
    (Resolution.declare .scope name (.func returnType paramTypes) s).2.Knows decls
      (made ++ d.made ds) ((ds ++ [d]) :: scopes) := by
  intro d
  have agreesAt : s.AgreesAt .scope made ds scopes := h.agrees
  exact h.extend (agreesAt.declare (d := d) rfl rfl).1 (declare_binds .scope name _ s).fields
    (Declared.not_isStruct_of_made (Declared.not_isStruct_of_func _ _ _))

/-- The table of a struct that makes a symbol binds its fields afterwards. -/
theorem fields?_struct (h : s.Knows decls made (ds :: scopes)) (pos : Position) (name : Ident)
    (fieldsPos : Position) {fields : List Decl} (shaped : ∀ d ∈ fields, d.kind = .varDecl) :
    let d := Decl.struct pos name fieldsPos fields
    d.declared.IsNew ds → ∃ scope,
      (d.resolve s).2.store.fields? ⟨made.length⟩ = some ⟨[scope]⟩ ∧
        scope.Binds (made ++ [d.declared] ++ Declared.madeAll [] (fields.map Decl.declared))
          (fields.map Decl.declared) := by
  intro d isNew
  have declared := h.agrees.declareStruct (d := d.declared) rfl
  rw [show d.declared.name = name from rfl] at declared
  rcases declared with ⟨s', run, -, -, opened⟩ | ⟨-, old⟩
  · have answer : (Resolution.declare .scope name (.structDef .root) s).1 = some ⟨made.length⟩ := by
      rw [run]
    obtain ⟨-, scope, known, binds⟩ := (opened.declareFields name.name fields shaped).1
    refine ⟨scope, ?_, binds⟩
    rw [show d.resolve s = _ from Decl.resolve_struct_of_some answer, run]
    exact known
  · exact absurd isNew old

/-- A struct has a table for its fields afterwards, if it makes a symbol. -/
theorem struct (h : s.Knows decls made (ds :: scopes)) {pos : Position} {name : Ident}
    {fieldsPos : Position} {fields : List Decl}
    (mem : Decl.struct pos name fieldsPos fields ∈ decls)
    (shaped : ∀ d ∈ fields, d.kind = .varDecl) :
    let d := Decl.struct pos name fieldsPos fields
    (d.resolve s).2.Knows decls (made ++ d.made ds) ((ds ++ [d.declared]) :: scopes) := by
  intro d
  have walked := (Decl.resolve_struct_walks pos name fieldsPos shaped h.agrees []).1
  have kept := (Decl.resolve_struct_binds pos name fieldsPos fields s).fields
  by_cases isNew : d.declared.IsNew ds
  · obtain ⟨scope, known, binds⟩ := h.fields?_struct pos name fieldsPos shaped isNew
    have all : made ++ d.made ds =
        made ++ [d.declared] ++ Declared.madeAll [] (fields.map Decl.declared) := by
      rw [show d.made ds = _ from if_pos isNew, List.append_cons]
    refine ⟨walked, fun i d' stands isStruct => ?_⟩
    rw [all] at stands ⊢
    -- The struct comes after what was made before, and its fields, which are none, after it.
    rcases lt_trichotomy i made.length with small | rfl | large
    · rw [List.append_assoc, List.getElem?_append_left small] at stands
      obtain ⟨fields', scope', defined, known', binds'⟩ := h.structs i d' stands isStruct
      exact ⟨fields', scope', defined, kept _ _ known', (binds'.mono _).mono _⟩
    · obtain rfl : d.declared = d' := by simpa using stands
      exact ⟨_, scope, ⟨pos, name, fieldsPos, fields, mem, rfl, rfl⟩, known, binds⟩
    · rw [List.getElem?_append_right (by simpa using Nat.succ_le_of_lt large)] at stands
      refine absurd isStruct (Declared.not_isStruct_of_madeAll ?_ d' (List.mem_of_getElem? stands))
      exact Decl.not_isStruct_of_variables shaped
  · have none : d.made ds = [] := if_neg isNew
    rw [none] at walked ⊢
    exact h.extend walked kept (List.forall_mem_nil _)

/-- A declaration of the program. -/
theorem decl (h : s.Knows decls made (ds :: scopes)) {d : Decl} (mem : d ∈ decls)
    (shaped : d.Shaped) :
    (d.resolve s).2.Knows decls (made ++ d.made ds) ((ds ++ [d.declared]) :: scopes) := by
  have agrees := (d.resolve_walks shaped h.agrees []).1
  cases d with
  | var pos type name =>
    exact h.extend agrees (Decl.resolve_binds _ s).fields
      (Declared.not_isStruct_of_made (type.not_isStruct name))
  | struct pos name fieldsPos fields => exact h.struct mem shaped
  | func pos returnType name formals bodyPos body =>
    refine h.extend agrees (Decl.resolve_binds _ s).fields (List.forall_mem_append.mpr ⟨?_, ?_⟩)
    · exact Declared.not_isStruct_of_made (Declared.not_isStruct_of_func _ _ _)
    · exact List.forall_mem_append.mpr
        ⟨Declared.not_isStruct_of_madeAll (Formal.not_isStruct _),
          body.not_isStruct_of_made shaped _⟩

end Resolution.State.Knows

/-! ## What becomes of the accesses in a part of a tree -/

/-- An identifier is annotated with the place of a declaration among those that made symbols. -/
def Annotated (made : List Declared) (name : Ident) (d : Declared) : Prop :=
  ∃ number : Nat, made[number]? = some d ∧ name.symbol = some (number : Int)

/-- What becomes of the accesses in a part of a tree, and where faults are found there. -/
structure Access.Outcome (decls : List Decl) (made : List Declared) (names : List Ident)
    (mentions afters : List Mention) (found : List Diagnostic) : Prop where
  places : ∀ fault ∈ found, ∃ name ∈ names, name.pos = fault.pos
  within : ∀ a ∈ mentions.filterMap Mention.access?, a.base ∈ names ∧ a.field ∈ names
  treated : Ident.InOrder names →
    List.Forall₂ (Access.Treated decls (Annotated made) fun pos => found.filter (·.pos = pos))
      (mentions.filterMap Mention.access?) (afters.filterMap Mention.access?)

namespace Access.Outcome

variable {names names' : List Ident} {mentions mentions' afters afters' : List Mention}
  {found found' : List Diagnostic}

theorem mono (h : Access.Outcome decls made names mentions afters found) (more : List Declared) :
    Access.Outcome decls (made ++ more) names mentions afters found := by
  refine ⟨h.places, h.within, fun ordered => (h.treated ordered).imp fun a after treated => ?_⟩
  refine treated.imp ?_ rfl rfl
  rintro name d ⟨number, stands, symbol⟩
  obtain ⟨small, -⟩ := List.getElem?_eq_some_iff.mp stands
  exact ⟨number, by rwa [List.getElem?_append_left small], symbol⟩

/-- No fault of a part stands where no identifier of it does. -/
theorem filter_eq_nil (h : Access.Outcome decls made names mentions afters found) {pos : Position}
    (apart : ∀ name ∈ names, name.pos ≠ pos) : found.filter (·.pos = pos) = [] := by
  rw [List.filter_eq_nil_iff]
  intro fault mem same
  obtain ⟨name, inside, place⟩ := h.places fault mem
  exact apart name inside (place.trans (of_decide_eq_true same))

/-- Parts that stand one behind the other do not meddle with each other. -/
theorem append (h : Access.Outcome decls made names mentions afters found)
    (h' : Access.Outcome decls made names' mentions' afters' found') :
    Access.Outcome decls made (names ++ names') (mentions ++ mentions') (afters ++ afters')
      (found ++ found') := by
  refine ⟨List.forall_mem_append.mpr ⟨?_, ?_⟩, ?_, fun ordered => ?_⟩
  · intro fault mem
    obtain ⟨name, inside, place⟩ := h.places fault mem
    exact ⟨name, List.mem_append_left _ inside, place⟩
  · intro fault mem
    obtain ⟨name, inside, place⟩ := h'.places fault mem
    exact ⟨name, List.mem_append_right _ inside, place⟩
  · rw [List.filterMap_append, List.forall_mem_append]
    exact ⟨fun a mem => (h.within a mem).imp (List.mem_append_left _) (List.mem_append_left _),
      fun a mem => (h'.within a mem).imp (List.mem_append_right _) (List.mem_append_right _)⟩
  · obtain ⟨first, second, apart⟩ := List.pairwise_append.mp ordered
    -- What is found in the one part stands where its identifiers do, so at no access of the other.
    have left {name : Ident} (inside : name ∈ names) :
        (found ++ found').filter (·.pos = name.pos) = found.filter (·.pos = name.pos) := by
      rw [List.filter_append, h'.filter_eq_nil fun name' mem => (apart _ inside name' mem).ne',
        List.append_nil]
    have right {name : Ident} (inside : name ∈ names') :
        (found ++ found').filter (·.pos = name.pos) = found'.filter (·.pos = name.pos) := by
      rw [List.filter_append, h.filter_eq_nil fun name' mem => (apart name' mem _ inside).ne,
        List.nil_append]
    rw [List.filterMap_append, List.filterMap_append]
    refine List.rel_append ?_ ?_
    · refine ((List.forall₂_and_left _ _).mpr ⟨h.within, h.treated first⟩).imp ?_
      rintro a after ⟨⟨base, field⟩, treated⟩
      exact treated.imp (fun _ _ annotated => annotated) (left base) (left field)
    · refine ((List.forall₂_and_left _ _).mpr ⟨h'.within, h'.treated second⟩).imp ?_
      rintro a after ⟨⟨base, field⟩, treated⟩
      exact treated.imp (fun _ _ annotated => annotated) (right base) (right field)

end Access.Outcome

/-- On the way from one state to another the accesses in a part of a tree are treated. -/
def Treats (decls : List Decl) (made : List Declared) (names : List Ident)
    (mentions afters : List Mention) (s s' : State) : Prop :=
  ∃ found, s'.log.entries = s.log.entries ++ found ∧
    Access.Outcome decls made names mentions afters found

namespace Treats

variable {names names' : List Ident} {mentions mentions' afters afters' : List Mention}

theorem mono (h : Treats decls made names mentions afters s s') (more : List Declared) :
    Treats decls (made ++ more) names mentions afters s s' := by
  obtain ⟨found, log, outcome⟩ := h
  exact ⟨found, log, outcome.mono more⟩

theorem append (h : Treats decls made names mentions afters s s')
    (h' : Treats decls made names' mentions' afters' s' s'') :
    Treats decls made (names ++ names') (mentions ++ mentions') (afters ++ afters') s s'' := by
  obtain ⟨found, log, outcome⟩ := h
  obtain ⟨found', log', outcome'⟩ := h'
  exact ⟨found ++ found', by rw [log', log, List.append_assoc], outcome.append outcome'⟩

/-- A part without accesses. -/
theorem silent (reports : s.Reports (fun _ => True) names s')
    (none : mentions.filterMap Mention.access? = [])
    (none' : afters.filterMap Mention.access? = []) :
    Treats decls made names mentions afters s s' := by
  obtain ⟨found, log, along⟩ := reports
  refine ⟨found, log, along.exists_pos, ?_, fun _ => ?_⟩
  · rw [none]
    exact List.forall_mem_nil _
  · rw [none, none']
    exact .nil

/-- A single access. -/
theorem single {base field base' field' : Ident} {around : List (List Declared)}
    {found : List Diagnostic} (log : s'.log.entries = s.log.entries ++ found)
    (places : ∀ fault ∈ found, base.pos = fault.pos ∨ field.pos = fault.pos)
    (treated : base.pos ≠ field.pos →
      Access.Treated decls (Annotated made) (fun pos => found.filter (·.pos = pos))
        ⟨base, field, scopes⟩ ⟨base', field', around⟩) :
    Treats decls made [base, field] [⟨.access base field, scopes⟩]
      [⟨.access base' field', around⟩] s s' := by
  refine ⟨found, log, fun fault mem => ?_, ?_, fun ordered => ?_⟩
  · rcases places fault mem with place | place
    · exact ⟨base, List.mem_cons_self .., place⟩
    · exact ⟨field, List.mem_cons_of_mem _ (List.mem_singleton_self _), place⟩
  · exact List.forall_mem_singleton.mpr
      ⟨List.mem_cons_self .., List.mem_cons_of_mem _ (List.mem_singleton_self _)⟩
  · have apart := List.rel_of_pairwise_cons ordered (List.mem_singleton_self field)
    exact .cons (treated apart.ne) .nil

/-- References in the same scopes, in two parts one behind the other. -/
theorem both {references references' left right : List Reference} {around : List (List Declared)}
    (h : Treats decls made names (Mention.all scopes references) (Mention.all around left) s s')
    (h' : Treats decls made names' (Mention.all scopes references') (Mention.all around right)
      s' s'') :
    Treats decls made (names ++ names') (Mention.all scopes (references ++ references'))
      (Mention.all around (left ++ right)) s s'' := by
  rw [Mention.all_append, Mention.all_append]
  exact h.append h'

/-- A part in a scope of its own. -/
theorem inScope (h : Treats decls made names mentions afters (openScope s).2 s') :
    Treats decls made names mentions afters s (closeScope s').2 := by
  obtain ⟨found, log, outcome⟩ := h
  refine ⟨found, ?_, outcome⟩
  rw [(closeScope_keeps s').log, log, (openScope_keeps s).log]

end Treats

/-! ## Expressions -/

theorem useName_treats (name : Ident) (s : State) (around : List (List Declared)) :
    Treats decls made [name] [⟨.use name, scopes⟩] [⟨.use (useName name s).1, around⟩] s
      (useName name s).2 :=
  .silent (useName_reports _ name s) rfl rfl

/-- The base is looked up first, and the field only if the base is a variable of a struct. -/
theorem Ident.resolveMember_treats (h : s.Knows decls made scopes) (base field : Ident)
    (around : List (List Declared)) :
    let answer := base.resolveMember field s
    Treats decls made [base, field] [⟨.access base field, scopes⟩]
      [⟨.access answer.1.1 answer.1.2, around⟩] s answer.2 := by
  have here (pos : Position) (kind : DiagnosticKind) :
      [Log.entry pos kind].filter (·.pos = pos) = [Log.entry pos kind] := by
    simp [Log.entry]
  have apart {pos pos' : Position} {kind : DiagnosticKind} (ne : pos ≠ pos') :
      [Log.entry pos kind].filter (·.pos = pos') = [] := by
    simp [Log.entry, ne]
  rcases h.useBase base field with ⟨d, structName, place, hasBase, stands, run⟩ | ⟨none, run⟩
  · have atBase : Annotated made (base.attach (some place)) d := ⟨place, stands, rfl⟩
    have ofStruct : (useBase base s).1.2 = some structName := by rw [run]
    rw [resolveMember_of_some ofStruct, run]
    rcases h.useField structName field with
      ⟨struct, fields, visible, defined, ⟨d', place', found, stands', run'⟩ | ⟨none, run'⟩⟩ |
        ⟨noStruct, run'⟩
    · rw [run']
      exact .single (List.append_nil _).symm (List.forall_mem_nil _) fun _ => .field place place'
        hasBase atBase visible defined found ⟨place', stands', rfl⟩ rfl rfl
    · rw [run']
      exact .single rfl (List.forall_mem_singleton.mpr (.inr rfl)) fun ne => .noField place hasBase
        atBase visible defined none (apart ne.symm) (here _ _)
    · rw [run']
      exact .single (List.append_nil _).symm (List.forall_mem_nil _) fun _ => .hidden place hasBase
        atBase noStruct rfl rfl
  · rw [resolveMember_of_none (by rw [run]), run]
    exact .single rfl (List.forall_mem_singleton.mpr (.inl rfl)) fun ne => .noBase none (here _ _)
      (apart ne)

mutual

theorem Expr.resolve_treats {made : List Declared} {scopes : List (List Declared)} {s : State}
    {decls : List Decl} (e : Expr) (shaped : e.Shaped) (h : s.Knows decls made scopes)
    (around : List (List Declared)) :
    Treats decls made e.idents (e.mentions scopes) ((e.resolve s).1.mentions around) s
      (e.resolve s).2 := by
  cases e with
  | int | string | bool => exact .silent (.none [] rfl) rfl rfl
  | ident name => exact useName_treats name s around
  | dot pos base field =>
    cases base with
    | ident name => exact name.resolveMember_treats h field around
    | dot pos' base' field' =>
      have first := Expr.resolve_treats (.dot pos' base' field') shaped.2 h around
      have second : Treats decls made [field] (Mention.all scopes [.use field]) _ _ _ :=
        useName_treats field ((Expr.dot pos' base' field').resolve s).2 around
      -- That the field is an ordinary use is told by the base, which has to be an access still.
      obtain ⟨base₂, field₂, isDot⟩ := Expr.resolve_dot pos' base' field' s
      have answer : ((Expr.dot pos (.dot pos' base' field') field).resolve s).1 =
          .dot pos (.dot pos' base₂ field₂)
            (useName field ((Expr.dot pos' base' field').resolve s).2).1 := by
        rw [← isDot]
        rfl
      rw [isDot] at first
      rw [answer]
      exact first.both second
    -- Other bases are no locations.
    | _ => cases shaped.1
  | assign pos target value =>
    have first := Expr.resolve_treats target shaped.2.1 h around
    exact first.both (Expr.resolve_treats value shaped.2.2 (h.expr shaped.2.1) around)
  | call pos callee argsPos args =>
    exact (useName_treats callee s around).append
      (Expr.resolveAll_treats args shaped (h.useName callee) around)
  | unary pos op operand => exact Expr.resolve_treats operand shaped h around
  | binary pos left op right =>
    have first := Expr.resolve_treats left shaped.1 h around
    exact first.both (Expr.resolve_treats right shaped.2 (h.expr shaped.1) around)

theorem Expr.resolveAll_treats {made : List Declared} {scopes : List (List Declared)} {s : State}
    {decls : List Decl} (es : List Expr) (shaped : Expr.AllShaped es)
    (h : s.Knows decls made scopes) (around : List (List Declared)) :
    Treats decls made (Expr.identsAll es) (Mention.all scopes (Expr.referencesAll es))
      (Mention.all around (Expr.referencesAll (Expr.resolveAll es s).1)) s
      (Expr.resolveAll es s).2 := by
  cases es with
  | nil => exact .silent (.none [] rfl) rfl rfl
  | cons e es =>
    have first := Expr.resolve_treats e shaped.1 h around
    exact first.both (Expr.resolveAll_treats es shaped.2 (h.expr shaped.1) around)

end

/-! ## Parts without accesses -/

/-- Where no identifier stands in an expression, there are no accesses. -/
theorem Mention.accesses_eq_nil {mentions : List Mention} (none : Mention.usedAll mentions = []) :
    mentions.filterMap Mention.access? = [] := by
  rw [List.filterMap_eq_nil_iff]
  rintro ⟨reference, scopes⟩ mem
  have unused := List.flatMap_eq_nil_iff.mp none _ mem
  cases reference with
  | access base field => cases unused
  | use | ofType => rfl

theorem Decl.usesAll_of_variables {ds : List Decl} (areVariables : ∀ d ∈ ds, d.kind = .varDecl) :
    Decl.usesAll ds = [] := by
  induction ds with
  | nil => rfl
  | cons d ds ih =>
    obtain ⟨isVariable, others⟩ := List.forall_mem_cons.mp areVariables
    rw [Decl.usesAll, ih others]
    cases d with
    | var => rfl
    | func => cases isVariable
    | struct => cases isVariable

theorem Decl.kind_of_erase {d d' : Decl} (words : d'.erase = d.erase) : d'.kind = d.kind := by
  cases d <;> cases d' <;> first | rfl | cases words

/-- Trees of the words of variables are variables. -/
theorem Decl.areVariables_of_erase {ds ds' : List Decl} (words : eraseAll ds' = eraseAll ds)
    (areVariables : ∀ d ∈ ds, d.kind = .varDecl) : ∀ d ∈ ds', d.kind = .varDecl := by
  induction ds generalizing ds' with
  | nil =>
    cases ds' with
    | nil => exact List.forall_mem_nil _
    | cons d' ds' => cases words
  | cons d ds ih =>
    cases ds' with
    | nil => cases words
    | cons d' ds' =>
      obtain ⟨isVariable, others⟩ := List.forall_mem_cons.mp areVariables
      obtain ⟨first, rest⟩ := List.cons.inj words
      exact List.forall_mem_cons.mpr ⟨(kind_of_erase first).trans isVariable, ih rest others⟩

/-- Variables hold no accesses. -/
theorem Decl.resolveAll_treats_of_variables {vars : List Decl}
    (areVariables : ∀ d ∈ vars, d.kind = .varDecl) (s : State) (earlier earlier' : List Declared)
    (around : List (List Declared)) :
    Treats decls made (Decl.identsAll vars) (Decl.mentionsAll earlier scopes vars)
      (Decl.mentionsAll earlier' around (Decl.resolveAll vars s).1) s
      (Decl.resolveAll vars s).2 := by
  have areVariables' := areVariables_of_erase (Decl.eraseAll_resolveAll vars s) areVariables
  refine .silent (Decl.resolveAll_reports vars s fun _ _ => trivial) ?_ ?_
  · refine Mention.accesses_eq_nil ?_
    rw [Decl.used_mentionsAll, Decl.usesAll_of_variables areVariables]
  · refine Mention.accesses_eq_nil ?_
    rw [Decl.used_mentionsAll, Decl.usesAll_of_variables areVariables']

/-- The fields of a struct hold no accesses. -/
theorem Decl.resolve_struct_treats (pos : Position) (name : Ident) (fieldsPos : Position)
    {fields : List Decl} (shaped : ∀ d ∈ fields, d.kind = .varDecl) (s : State)
    (earlier earlier' : List Declared) (around : List (List Declared)) :
    let d := Decl.struct pos name fieldsPos fields
    Treats decls made d.idents (d.mentions earlier scopes)
      ((d.resolve s).1.mentions earlier' around) s (d.resolve s).2 := by
  intro d
  have words : (d.resolve s).1.erase = d.erase := d.erase_resolve s
  have uses : (d.resolve s).1.uses = [] := by
    generalize (d.resolve s).1 = d' at words
    cases d' with
    | struct pos' name' fieldsPos' fields' =>
      obtain ⟨-, -, -, words⟩ := Decl.struct.inj words
      exact Decl.usesAll_of_variables (areVariables_of_erase words shaped)
    | var => cases words
    | func => cases words
  refine .silent (d.resolve_reports s fun _ _ => trivial) ?_ ?_
  · refine Mention.accesses_eq_nil ?_
    rw [Decl.used_mentions]
    exact Decl.usesAll_of_variables shaped
  · refine Mention.accesses_eq_nil ?_
    rw [Decl.used_mentions, uses]

/-- A name is declared after identifiers that are not looked up. -/
theorem declare_treats (passed : List Ident) (name : Ident) (meaning : Meaning) (s : State) :
    Treats decls made (passed ++ [name]) [] [] s (declare .scope name meaning s).2 :=
  .silent ((State.Reports.none passed rfl).append (declare_reports _ .scope name meaning s)) rfl rfl

/-- Formal parameters hold no accesses. -/
theorem Formal.resolveAll_treats (fs : List Formal) (s : State) (earlier earlier' : List Declared)
    (around : List (List Declared)) :
    Treats decls made (fs.flatMap Formal.idents) (Formal.mentionsAll earlier scopes fs)
      (Formal.mentionsAll earlier' around (Formal.resolveAll fs s).1) s
      (Formal.resolveAll fs s).2 :=
  .silent (Formal.resolveAll_reports fs s fun _ _ => trivial)
    (Mention.accesses_eq_nil (Formal.used_mentionsAll fs))
    (Mention.accesses_eq_nil (Formal.used_mentionsAll _))

/-! ## Statements, blocks and declarations -/

mutual

theorem Stmt.resolve_treats {made : List Declared} {scopes : List (List Declared)} {s : State}
    {decls : List Decl} (st : Stmt) (shaped : st.Shaped) (h : s.Knows decls made scopes)
    (opened : scopes ≠ []) (around : List (List Declared)) :
    Treats decls (made ++ st.made) st.idents (st.mentions scopes)
      ((st.resolve s).1.mentions around) s (st.resolve s).2 := by
  cases st with
  | assign pos a =>
    have inside := a.expr.resolve_treats shaped h around
    rw [a.resolve_expr] at inside
    exact inside.mono []
  | call pos c =>
    have inside := c.expr.resolve_treats shaped h around
    rw [c.resolve_expr] at inside
    exact inside.mono []
  | increment pos e | decrement pos e | read pos e =>
    exact (e.resolve_treats shaped.2 h around).mono []
  | write pos e => exact (e.resolve_treats shaped h around).mono []
  | ret pos value =>
    cases value with
    | none => exact .silent (.none [] rfl) rfl rfl
    | some e => exact (e.resolve_treats (shaped e rfl) h around).mono []
  | ifThen pos cond body | loop pos cond body =>
    have first := cond.resolve_treats shaped.1 h around
    have block := body.resolveInside_treats shaped.2 (h.expr shaped.1).openScope [] around
    exact (first.mono _).append block.inScope
  | ifElse pos cond yes no =>
    have first := cond.resolve_treats shaped.1 h around
    have opened' := (h.expr shaped.1).openScope
    have block := yes.resolveInside_treats shaped.2.1 opened' [] around
    have closed := (opened'.block shaped.2.1).closeScope opened
    have block' := no.resolveInside_treats shaped.2.2 closed.openScope [] around
    rw [Stmt.made, ← List.append_assoc made]
    exact ((first.mono _).mono _).append ((block.inScope.mono _).append block'.inScope)

theorem Block.resolveInside_treats {made ds : List Declared} {scopes : List (List Declared)}
    {s : State} {decls : List Decl} (b : Block) (shaped : b.Shaped)
    (h : s.Knows decls made (ds :: scopes)) (earlier : List Declared)
    (around : List (List Declared)) :
    Treats decls (made ++ b.made ds) b.idents (b.mentions ds scopes)
      ((b.resolveInside s).1.mentions earlier around) s (b.resolveInside s).2 := by
  cases b with
  | mk declsPos vars stmtsPos stmts =>
    have first : Treats decls made (Decl.identsAll vars) (Decl.mentionsAll ds scopes vars) _ s _ :=
      Decl.resolveAll_treats_of_variables shaped.1 s ds earlier around
    have others := Stmt.resolveAll_treats stmts shaped.2 (h.varDecls shaped.1)
      (List.cons_ne_nil _ _) ((earlier ++ (Decl.resolveAll vars s).1.map Decl.declared) :: around)
    rw [Block.made, ← List.append_assoc made]
    exact ((first.mono _).mono _).append others

theorem Stmt.resolveAll_treats {made : List Declared} {scopes : List (List Declared)} {s : State}
    {decls : List Decl} (ss : List Stmt) (shaped : Stmt.AllShaped ss)
    (h : s.Knows decls made scopes) (opened : scopes ≠ []) (around : List (List Declared)) :
    Treats decls (made ++ Stmt.madeAll ss) (Stmt.identsAll ss) (Stmt.mentionsAll scopes ss)
      (Stmt.mentionsAll around (Stmt.resolveAll ss s).1) s (Stmt.resolveAll ss s).2 := by
  cases ss with
  | nil => exact .silent (.none [] rfl) rfl rfl
  | cons st ss =>
    have first := st.resolve_treats shaped.1 h opened around
    have others := Stmt.resolveAll_treats ss shaped.2 (h.stmt shaped.1) opened around
    rw [Stmt.madeAll, ← List.append_assoc made]
    exact (first.mono _).append others

end

/-- A declaration of the program. -/
theorem Decl.resolve_treats {ds : List Declared} (d : Decl) (shaped : d.Shaped)
    (h : s.Knows decls made (ds :: scopes)) (earlier : List Declared)
    (around : List (List Declared)) :
    Treats decls (made ++ d.made ds) d.idents (d.mentions ds scopes)
      ((d.resolve s).1.mentions earlier around) s (d.resolve s).2 := by
  cases d with
  | var pos type name =>
    refine .silent (Decl.resolve_reports _ s fun _ _ => trivial) ?_ ?_
    · exact Mention.accesses_eq_nil (Decl.used_mentions _)
    · exact Mention.accesses_eq_nil (Decl.used_mentions _)
  | struct pos name fieldsPos fields =>
    exact Decl.resolve_struct_treats pos name fieldsPos shaped s ds earlier around
  | func pos returnType name formals bodyPos body =>
    have opened := (h.declareFunc name returnType.dataType
      (formals.items.map (·.type.dataType))).openScope
    -- The formal parameters are declared in the scope that the body goes on with.
    have block := body.resolveInside_treats shaped (opened.formals formals.items)
    rw [Decl.made, ← List.append_assoc made, ← List.append_assoc, Decl.idents, List.append_cons]
    exact (declare_treats returnType.idents name _ s).append
      ((Formal.resolveAll_treats formals.items _ [] [] _).append (block _ _)).inScope

theorem Decl.resolveAll_treats {made ds : List Declared} {s : State} (rest : List Decl)
    (shaped : ∀ d ∈ rest, d.Shaped) (inside : ∀ d ∈ rest, d ∈ decls)
    (h : s.Knows decls made (ds :: scopes)) (earlier : List Declared)
    (around : List (List Declared)) :
    Treats decls (made ++ Decl.madeAll ds rest) (Decl.identsAll rest)
      (Decl.mentionsAll ds scopes rest)
      (Decl.mentionsAll earlier around (Decl.resolveAll rest s).1) s
      (Decl.resolveAll rest s).2 := by
  induction rest generalizing made ds s earlier with
  | nil => exact .silent (.none [] rfl) rfl rfl
  | cons d rest ih =>
    obtain ⟨shaped, shaped'⟩ := List.forall_mem_cons.mp shaped
    obtain ⟨mem, inside⟩ := List.forall_mem_cons.mp inside
    have first := d.resolve_treats shaped h earlier around
    have others := ih shaped' inside (h.decl mem shaped) (earlier ++ [(d.resolve s).1.declared])
    rw [Decl.madeAll, ← List.append_assoc made]
    exact (first.mono _).append others

/-! ## Programs -/

theorem knows_fresh (decls : List Decl) : State.Knows decls [] [[]] {} :=
  ⟨agrees_fresh, fun _ _ => nofun⟩

/-- The accesses in a program are treated by an analysis. -/
theorem Program.analyze_treats {T : Program} (shaped : T.Shaped) :
    Access.Outcome T.decls T.made T.idents T.mentions T.analyze.program.mentions
      T.analyze.state.log.entries := by
  obtain ⟨found, log, outcome⟩ :=
    Decl.resolveAll_treats T.decls shaped (fun _ mem => mem) (knows_fresh T.decls) [] []
  -- A fresh log is empty, so what was found on the way is the whole log.
  have entries : T.analyze.state.log.entries = found := log
  rw [entries]
  exact outcome

/-- **Dot accesses.** In the analysis of a program that was read from a text, the first declaration
of the base in the innermost scope around an access decides whether the base is annotated or
reported as no variable of a struct. If it is annotated, what the name of its struct stands for at
the access decides about the field: if that is a struct, the field is annotated with the first field
of its name there or reported as no field, and if it is not, the field is passed over. No other
fault is found at either name, and one that is not annotated has no symbol. -/
theorem analyze_accesses {text : String} {T : Program} (read : parseText text = .ok T) :
    List.Forall₂ (Access.Treated T.decls T.Annotates T.faultsAt) T.accesses
        T.analyze.program.accesses ∧
      ∀ a ∈ T.accesses, a.base.symbol = none ∧ a.field.symbol = none := by
  have formed := shaped_of_parseText read
  have outcome := Program.analyze_treats formed
  refine ⟨(outcome.treated (idents_inOrder_of_parseText read)).imp fun a after treated => ?_,
    fun a mem => ?_⟩
  · refine treated.imp ?_ rfl rfl
    rintro name d ⟨number, stands, annotated⟩
    obtain ⟨id, symbol, known, found, records⟩ :=
      Program.symbolOf?_analyze formed stands name annotated
    exact ⟨number, id, symbol, stands, annotated, known, found, records⟩
  · obtain ⟨base, field⟩ := outcome.within a mem
    exact ⟨symbol_of_parseText read _ base, symbol_of_parseText read _ field⟩

/-- A struct whose first field is of type void, a variable of it that is out of the scopes of two
functions, and a variable that hides the struct in the first of them. -/
def membersText : String :=
  "struct P \x7b void v; int x; bool x; \x7d\n" ++
  "struct P p;\n" ++
  "void f(struct P q) \x7b int P; q.x = 1; p.x = 2; \x7d\n" ++
  "void g(struct P q) \x7b q.x = 1; q.y = 2; q.v = 3; \x7d"

/-- The program in that text. -/
def membersProgram : Program where
  pos := ⟨1, 1⟩
  declsPos := ⟨1, 1⟩
  decls :=
    let name (w : String) (line column : Int) : Ident := { pos := ⟨line, column⟩, value := .text w }
    let struct (line column : Int) : TypeExpr := .struct ⟨line, column⟩ (name "P" line (column + 7))
    let formals (line : Int) : Formals :=
      { pos := ⟨line, 7⟩, items := [⟨⟨line, 8⟩, struct line 8, name "q" line 17⟩] }
    let set (base field : String) (line column value : Int) : Stmt :=
      .assign ⟨line, column⟩
        ⟨⟨line, column⟩,
          .dot ⟨line, column⟩ (.ident (name base line column)) (name field line (column + 2)),
          .int ⟨line, column + 6⟩ (.number value)⟩
    [.struct ⟨1, 1⟩ (name "P" 1 8) ⟨1, 12⟩
        [.var ⟨1, 12⟩ (.void ⟨1, 12⟩) (name "v" 1 17),
          .var ⟨1, 20⟩ (.int ⟨1, 20⟩) (name "x" 1 24),
          .var ⟨1, 27⟩ (.bool ⟨1, 27⟩) (name "x" 1 32)],
      .var ⟨2, 1⟩ (struct 2 1) (name "p" 2 10),
      .func ⟨3, 1⟩ (.void ⟨3, 1⟩) (name "f" 3 6) (formals 3) ⟨3, 20⟩
        (.mk ⟨3, 22⟩ [.var ⟨3, 22⟩ (.int ⟨3, 22⟩) (name "P" 3 26)] ⟨3, 29⟩
          [set "q" "x" 3 29 1, set "p" "x" 3 38 2]),
      .func ⟨4, 1⟩ (.void ⟨4, 1⟩) (name "g" 4 6) (formals 4) ⟨4, 20⟩
        (.mk ⟨4, 22⟩ [] ⟨4, 22⟩
          [set "q" "x" 4 22 1, set "q" "y" 4 31 2, set "q" "v" 4 40 3])]

theorem parseText_membersText : parseText membersText = .ok membersProgram := by
  decide +kernel

theorem analyze_accesses_of_membersText :
    parseText membersText = .ok membersProgram ∧
      List.Forall₂ (Access.Treated membersProgram.decls membersProgram.Annotates
        membersProgram.faultsAt) membersProgram.accesses membersProgram.analyze.program.accesses :=
  ⟨parseText_membersText, (analyze_accesses parseText_membersText).1⟩

/-- The first `q` is the parameter of `f`, whose field is passed over; then `p` is reported. The
other three have the parameter of `g` as their base, and only the first one a field. -/
example : membersProgram.analyze.program.accesses.map (fun a => (a.base.symbol, a.field.symbol)) =
    [(some 4, none), (none, none), (some 7, some 1), (some 7, none), (some 7, none)] := by
  decide +kernel

end Minim
