import Minim.Proofs.Resolution.Exports
import Minim.Proofs.Resolution.Fates

/-!
# Analyses of one tree after the other

An analysis gives back the tree that it was given but for what is noted at the identifiers. So the
same tree can be analysed again, by another resolver; that analysis finds what it would have found
in the tree as it was read, and only where it annotates an identifier does it overwrite what is
noted there.
-/

namespace Minim

open Resolution

/-! ## The words stay -/

namespace Resolution

variable {s : State}

theorem erase_useName (name : Ident) (s : State) : (useName name s).1.erase = name.erase := by
  refine unlessFailed_cases (motive := fun after : Ident × State => after.1.erase = name.erase) rfl
    fun _ => ?_
  split <;> rfl

theorem erase_useStructName (structName declared : Ident) (s : State) :
    (useStructName structName declared s).1.erase = structName.erase := by
  refine unlessFailed_cases
    (motive := fun after : Ident × State => after.1.erase = structName.erase) rfl fun _ => ?_
  split
  · rfl
  · rfl
  · split <;> rfl

theorem erase_useField (structName : String) (field : Ident) (s : State) :
    (useField structName field s).1.erase = field.erase := by
  refine unlessFailed_cases (motive := fun after : Ident × State => after.1.erase = field.erase) rfl
    fun _ => ?_
  split
  · rfl
  · split
    · rfl
    · split <;> rfl

theorem erase_useBase (base : Ident) (s : State) : (useBase base s).1.1.erase = base.erase := by
  refine unlessFailed_cases
    (motive := fun after : (Ident × Option String) × State => after.1.1.erase = base.erase) rfl
    fun _ => ?_
  split
  · rfl
  · split <;> rfl

end Resolution

theorem Ident.erase_resolveMember (base field : Ident) (s : State) :
    (base.resolveMember field s).1.1.erase = base.erase ∧
      (base.resolveMember field s).1.2.erase = field.erase := by
  cases found : (useBase base s).1.2 with
  | none =>
    rw [Ident.resolveMember_of_none found]
    exact ⟨erase_useBase base s, rfl⟩
  | some structName =>
    rw [Ident.resolveMember_of_some found]
    exact ⟨erase_useBase base s, erase_useField structName field _⟩

mutual

theorem Expr.erase_resolve (e : Expr) (s : State) : (e.resolve s).1.erase = e.erase := by
  cases e with
  | int | string | bool => rfl
  | ident name => exact congrArg Expr.ident (erase_useName name s)
  | dot pos base field =>
    cases base with
    | ident name =>
      obtain ⟨atBase, atField⟩ := name.erase_resolveMember field s
      exact congrArg₂ (Expr.dot {}) (congrArg Expr.ident atBase) atField
    | dot pos' base' field' =>
      exact congrArg₂ (Expr.dot {}) (Expr.erase_resolve (.dot pos' base' field') s)
        (erase_useName field _)
    | _ => rfl
  | assign pos target value =>
    exact congrArg₂ (Expr.assign {}) (target.erase_resolve s) (value.erase_resolve _)
  | call pos callee argsPos args =>
    exact congrArg₂ (Expr.call {} · {}) (erase_useName callee s) (Expr.eraseAll_resolveAll args _)
  | unary pos op operand => exact congrArg (Expr.unary {} op) (operand.erase_resolve s)
  | binary pos left op right =>
    exact congrArg₂ (Expr.binary {} · op) (left.erase_resolve s) (right.erase_resolve _)

theorem Expr.eraseAll_resolveAll (es : List Expr) (s : State) :
    Expr.eraseAll (Expr.resolveAll es s).1 = Expr.eraseAll es := by
  cases es with
  | nil => rfl
  | cons e es =>
    exact congrArg₂ List.cons (e.erase_resolve s) (Expr.eraseAll_resolveAll es _)

end

theorem Assignment.erase_resolve (a : Assignment) (s : State) :
    (a.resolve s).1.erase = a.erase :=
  congrArg₂ (Assignment.mk {}) (a.target.erase_resolve s) (a.value.erase_resolve _)

theorem Call.erase_resolve (c : Call) (s : State) : (c.resolve s).1.erase = c.erase :=
  congrArg₂ (Call.mk {} · {}) (erase_useName c.callee s) (Expr.eraseAll_resolveAll c.args _)

theorem TypeExpr.erase_declare (target : Target) (name : Ident) (type : TypeExpr) (s : State) :
    (type.declare target name s).1.erase = type.erase := by
  cases type with
  | int | bool | void => rfl
  | struct pos structName =>
    exact congrArg (TypeExpr.struct {}) (erase_useStructName structName name s)

theorem Formal.erase_resolveAll (fs : List Formal) (s : State) :
    (Formal.resolveAll fs s).1.map Formal.erase = fs.map Formal.erase := by
  induction fs generalizing s with
  | nil => rfl
  | cons f fs ih =>
    have head : (f.resolve s).1.erase = f.erase :=
      congrArg (Formal.mk {} · f.name.erase) (f.type.erase_declare .scope f.name s)
    exact congrArg₂ List.cons head (ih _)

namespace Decl

theorem erase_resolveField (structName : String) (struct : SymbolId) (d : Decl) (s : State) :
    (d.resolveField structName struct s).1.erase = d.erase := by
  cases d with
  | var pos type name =>
    exact congrArg (Decl.var {} · name.erase) (type.erase_declare (.fields struct) name s)
  | func | struct => rfl

theorem eraseAll_resolveFields (structName : String) (struct : SymbolId) (fields : List Decl)
    (s : State) :
    eraseAll (resolveFields structName struct fields s).1 = eraseAll fields := by
  induction fields generalizing s with
  | nil => rfl
  | cons d fields ih =>
    exact congrArg₂ List.cons (d.erase_resolveField structName struct s) (ih _)

theorem erase_resolve_struct (pos : Position) (name : Ident) (fieldsPos : Position)
    (fields : List Decl) (s : State) :
    ((Decl.struct pos name fieldsPos fields).resolve s).1.erase =
      (Decl.struct pos name fieldsPos fields).erase := by
  cases declared : (declare .scope name (.structDef .root) s).1 with
  | none => rw [resolve_struct_of_none declared]
  | some struct =>
    rw [resolve_struct_of_some declared]
    exact congrArg (Decl.struct {} name.erase {}) (eraseAll_resolveFields name.name struct fields _)

end Decl

mutual

theorem Decl.erase_resolve (d : Decl) (s : State) : (d.resolve s).1.erase = d.erase := by
  cases d with
  | var pos type name =>
    exact congrArg (Decl.var {} · name.erase) (type.erase_declare .scope name s)
  | struct pos name fieldsPos fields => exact Decl.erase_resolve_struct pos name fieldsPos fields s
  | func pos returnType name formals bodyPos body =>
    exact congrArg₂ (Decl.func {} returnType.erase name.erase · {})
      (congrArg (Formals.mk {}) (Formal.erase_resolveAll formals.items _))
      (Block.erase_resolveInside body _)

theorem Stmt.erase_resolve (st : Stmt) (s : State) : (st.resolve s).1.erase = st.erase := by
  cases st with
  | assign pos a => exact congrArg (Stmt.assign {}) (a.erase_resolve s)
  | call pos c => exact congrArg (Stmt.call {}) (c.erase_resolve s)
  | increment pos e => exact congrArg (Stmt.increment {}) (e.erase_resolve s)
  | decrement pos e => exact congrArg (Stmt.decrement {}) (e.erase_resolve s)
  | read pos e => exact congrArg (Stmt.read {}) (e.erase_resolve s)
  | write pos e => exact congrArg (Stmt.write {}) (e.erase_resolve s)
  | ifThen pos cond body =>
    exact congrArg₂ (Stmt.ifThen {}) (cond.erase_resolve s) (Block.erase_resolveInside body _)
  | loop pos cond body =>
    exact congrArg₂ (Stmt.loop {}) (cond.erase_resolve s) (Block.erase_resolveInside body _)
  | ifElse pos cond yes no =>
    exact (congrArg (Stmt.ifElse {} · _ _) (cond.erase_resolve s)).trans
      (congrArg₂ (Stmt.ifElse {} cond.erase) (Block.erase_resolveInside yes _)
        (Block.erase_resolveInside no _))
  | ret pos value =>
    cases value with
    | none => rfl
    | some e => exact congrArg (fun e => Stmt.ret {} (some e)) (e.erase_resolve s)

theorem Block.erase_resolveInside (b : Block) (s : State) :
    (b.resolveInside s).1.erase = b.erase := by
  obtain ⟨declsPos, decls, stmtsPos, stmts⟩ := b
  exact congrArg₂ (Block.mk {} · {}) (Decl.eraseAll_resolveAll decls s)
    (Stmt.eraseAll_resolveAll stmts _)

theorem Decl.eraseAll_resolveAll (ds : List Decl) (s : State) :
    Decl.eraseAll (Decl.resolveAll ds s).1 = Decl.eraseAll ds := by
  cases ds with
  | nil => rfl
  | cons d ds => exact congrArg₂ List.cons (d.erase_resolve s) (Decl.eraseAll_resolveAll ds _)

theorem Stmt.eraseAll_resolveAll (ss : List Stmt) (s : State) :
    Stmt.eraseAll (Stmt.resolveAll ss s).1 = Stmt.eraseAll ss := by
  cases ss with
  | nil => rfl
  | cons st ss => exact congrArg₂ List.cons (st.erase_resolve s) (Stmt.eraseAll_resolveAll ss _)

end

theorem Program.erase_resolve (T : Program) (s : State) : (T.resolve s).1.erase = T.erase :=
  congrArg (Program.mk {} {} ·) (Decl.eraseAll_resolveAll T.decls s)

/-! ## Annotations of earlier analyses -/

namespace Fate

theorem map_pos_zipWith_after {fates : List Fate} {names : List Ident}
    (each : fates.length = names.length) :
    (List.zipWith after fates names).map Ident.pos = names.map Ident.pos := by
  have pos (fate : Fate) (name : Ident) : (fate.after name).pos = name.pos := by
    cases fate <;> rfl
  induction names generalizing fates with
  | nil => rw [List.zipWith_nil_right]
  | cons name names ih =>
    cases fates with
    | nil => cases each
    | cons fate fates => exact congrArg₂ List.cons (pos fate name) (ih (Nat.succ.inj each))

theorem zipWith_found (fates : List Fate) (names : List Ident) :
    List.zipWith found fates names =
      List.zipWith (fun fate pos => fate.found { pos }) fates (names.map Ident.pos) := by
  rw [List.zipWith_map_right]
  refine congrArg (List.zipWith · fates names) (funext₂ fun fate name => ?_)
  cases fate <;> rfl

end Fate

namespace Resolution.State.SameBut

variable {s t : State}

theorem symbolAt? (h : s.SameBut t) (place : Int) : t.symbolAt? place = s.symbolAt? place := by
  obtain ⟨log, rfl⟩ := h
  rfl

theorem eq_of_log (h : s.SameBut t) (log : s.log.entries = t.log.entries) : t = s := by
  obtain ⟨log', rfl⟩ := h
  exact congrArg (fun entries : List Diagnostic => { s with log := ⟨entries⟩ }) log.symm

end Resolution.State.SameBut

namespace Program

/-- Two trees of the same words, with their identifiers at the same positions. What is noted at
these may differ. -/
structure Renotes (T T' : Program) : Prop where
  words : T'.erase = T.erase
  positions : (Node.program T').identifiers.map Ident.pos =
    (Node.program T).identifiers.map Ident.pos

/-- An analysis renotes a tree. -/
theorem renotes_resolve (T : Program) (s : State) : T.Renotes (T.resolve s).1 := by
  obtain ⟨fates, fares⟩ := T.resolve_fated s
  have here := fares T s rfl (.refl s)
  refine ⟨T.erase_resolve s, ?_⟩
  rw [Program.identifiers_eq, Program.identifiers_eq, here.after,
    Fate.map_pos_zipWith_after here.each]

/-- In an analysis of a tree from a state these are the fates of its identifiers: they make up the
annotations and the faults, and those that are annotated lead to symbols that are called the same.
-/
structure Meets (T : Program) (fates : List Fate) (s : State) : Prop where
  each : fates.length = (Node.program T).identifiers.length
  after : (Node.program (T.resolve s).1).identifiers =
    List.zipWith Fate.after fates (Node.program T).identifiers
  log : (T.resolve s).2.log.entries = s.log.entries ++
    (List.zipWith Fate.found fates (Node.program T).identifiers).flatten
  annotated : ∀ (i : Nat) (name : Ident) (index : Option Nat),
    (Node.program T).identifiers[i]? = some name → fates[i]? = some (.annotated index) →
      ∃ (place : Nat) (symbol : Symbol), index = some place ∧
        (T.resolve s).2.symbolAt? place = some symbol ∧ symbol.name = name.name

/-- Annotations of a tree at which nothing is noted beforehand lead to symbols. -/
theorem places_of_fares {T : Program} {fates : List Fate} {s finish : State} (start : s.Consistent)
    (unannotated : ∀ name ∈ T.idents, name.symbol = none)
    (fares : Fares fates s T.idents (T.resolve s).2 (T.resolve s).1.idents finish) {i : Nat}
    {name : Ident} {index : Option Nat} (stands : T.idents[i]? = some name)
    (fate : fates[i]? = some (.annotated index)) :
    ∃ (place : Nat) (symbol : Symbol), index = some place ∧
      (T.resolve s).2.symbolAt? place = some symbol ∧ symbol.name = name.name := by
  have placed : index ≠ none := by
    rintro rfl
    exact fares.placed start (List.mem_of_getElem? fate)
  obtain ⟨place, rfl⟩ := Option.ne_none_iff_exists'.mp placed
  have after : name.attach (some place) ∈ (T.resolve s).1.idents := by
    rw [fares.after]
    exact List.mem_of_getElem? (List.getElem?_zipWith_eq_some.mpr ⟨_, _, fate, stands, rfl⟩)
  rw [← Program.map_namings] at after
  obtain ⟨n, mem, same⟩ := List.mem_map.mp after
  have links : (T.resolve s).2.Links n := by
    refine (T.resolve_leads s).links start (fun m mem => ?_) n mem
    exact State.links_of_unannotated
      (unannotated m.name (T.map_namings ▸ List.mem_map_of_mem mem))
  have annotated : n.name.symbol = some (place : Int) := by
    rw [same]
    rfl
  obtain ⟨-, -, symbol, known, sameName, -⟩ := links.symbolAt? annotated
  rw [same] at sameName
  exact ⟨place, symbol, rfl, known, sameName⟩

end Program

/-- **Annotations of an earlier analysis are not read.** An earlier analysis changes nothing of a
tree but what is noted at the identifiers. The analyses of all trees that differ in nothing else end
in the same state, and their identifiers have the same fates: the same ones are annotated, with the
same places, and the others keep what is noted at them. -/
theorem resolve_ignores_annotations (T : Program) (s : State) (start : s.Consistent) :
    (∀ earlier, T.Renotes (T.resolve earlier).1) ∧
      ∃ fates, ∀ T', T.Renotes T' → T'.Meets fates s ∧ (T'.resolve s).2 = (T.resolve s).2 := by
  refine ⟨T.renotes_resolve, ?_⟩
  obtain ⟨fates, fares⟩ := T.resolve_fated s
  refine ⟨fates, fun T' renotes => ?_⟩
  have there := fares T s rfl (.refl s)
  have here := fares T' s renotes.words (.refl s)
  -- In the tree of words alone nothing is noted, so that its annotations are known to lead to
  -- symbols.
  have bare := fares T.erase s T.erase_erase (.refl s)
  constructor
  · constructor
    case each => rw [T'.identifiers_eq, here.each]
    case after => rw [Program.identifiers_eq, Program.identifiers_eq, here.after]
    case log => rw [T'.identifiers_eq, here.log]
    case annotated =>
      intro i name index stands fate
      rw [T'.identifiers_eq] at stands
      have stands' : T.erase.idents[i]? = some name.erase := by
        rw [← renotes.words, T'.idents_erase, List.getElem?_map, stands, Option.map_some]
      have unannotated : ∀ name ∈ T.erase.idents, name.symbol = none := by
        intro name mem
        rw [T.idents_erase] at mem
        obtain ⟨name', -, rfl⟩ := List.mem_map.mp mem
        rfl
      obtain ⟨place, symbol, isPlace, known, sameName⟩ :=
        Program.places_of_fares start unannotated bare stands' fate
      refine ⟨place, symbol, isPlace, ?_, sameName⟩
      rw [← known, bare.finish.symbolAt?, here.finish.symbolAt?]
  · refine State.SameBut.eq_of_log here.finish ?_
    rw [there.log, here.log, Fate.zipWith_found, Fate.zipWith_found, ← T.identifiers_eq,
      ← T'.identifiers_eq, renotes.positions]

/-- A function `f` that assigns an undeclared `g` to its parameter `n`, with something noted at all
identifiers. -/
def notedProgram (noted : Option Int) : Program :=
  let name (word : String) : Ident := { value := .text word, symbol := noted }
  { decls :=
      [.func {} (.void {}) (name "f") { items := [{ type := .int {}, name := name "n" }] } {}
        (.mk {} [] {} [.assign {} { target := .ident (name "n"), value := .ident (name "g") }])] }

theorem resolve_ignores_annotations_of_notedProgram :
    ({} : State).Consistent ∧ (notedProgram none).Renotes (notedProgram (some 7)) ∧
      ((notedProgram (some 7)).resolve {}).2 = ((notedProgram none).resolve {}).2 ∧
      ((notedProgram none).resolve {}).2.log.entries.length = 1 ∧
      (Node.program ((notedProgram none).resolve {}).1).identifiers.map Ident.symbol =
        [none, none, some 1, none] ∧
      (Node.program ((notedProgram (some 7)).resolve {}).1).identifiers.map Ident.symbol =
        [some 7, some 7, some 1, some 7] := by
  have renotes : (notedProgram none).Renotes (notedProgram (some 7)) := ⟨rfl, rfl⟩
  obtain ⟨-, fates, meets⟩ :=
    resolve_ignores_annotations (notedProgram none) {} State.consistent_fresh
  exact ⟨State.consistent_fresh, renotes, (meets (notedProgram (some 7)) renotes).2, by decide,
    by decide, by decide⟩

/-- A function `f` that assigns to `g`, which is not declared in the program. -/
def assigningProgram : Program :=
  { decls :=
      [.func {} (.void {}) { value := .text "f" } {} {}
        (.mk {} [] {}
          [.assign {} { target := .ident { value := .text "g" }, value := .int {} (.number 1) }])] }

/-- Where `g` was declared in an earlier analysis, it keeps the place that it got there when it is
reported as undeclared, and now the place is that of `f`. -/
theorem undeclared_keeps_annotation :
    let earlier := (assigningProgram.resolve seededState).1
    assigningProgram.Renotes earlier ∧
      earlier.analyze.state.log.entries.map Diagnostic.kind = [.undeclaredIdentifier] ∧
      (Node.program assigningProgram.analyze.program).identifiers.map Ident.symbol = [none, none] ∧
      (Node.program earlier.analyze.program).identifiers.map Ident.symbol = [none, some 0] ∧
      (Node.program earlier.analyze.program).identifiers.map (fun name =>
        ((earlier.analyze.symbolOf? name).bind earlier.analyze.state.store.get?).map Symbol.name) =
          [none, some "f"] :=
  ⟨⟨rfl, rfl⟩, by decide, by decide, by decide, by decide⟩

end Minim
