import Minim.Proofs.Scoping.Program
import Minim.Syntax.Equality

/-!
# Names stand for what the source says

A program that was read from a text is analysed from a fresh state. Then each ordinary use is
annotated with the symbol of the declaration that it denotes, or it is reported as undeclared.
-/

namespace Minim

open Resolution

/-! ## What an analysis finds -/

/-- The faults that the analysis of a program finds at a position. -/
def Program.faultsAt (T : Program) (pos : Position) : List Diagnostic :=
  T.analyze.state.log.entries.filter (·.pos = pos)

/-- An identifier is annotated with the symbol that a declaration makes in the analysis of a
program. -/
def Program.Annotates (T : Program) (name : Ident) (d : Declared) : Prop :=
  ∃ (number : Nat) (id : SymbolId) (symbol : Symbol), T.made[number]? = some d ∧
    name.symbol = some (number : Int) ∧ T.analyze.symbolOf? name = some id ∧
    T.analyze.state.store.get? id = some symbol ∧ symbol.Records d number

/-- An ordinary use becomes the same identifier, annotated with the symbol of what it denotes and
without a fault; or, if it denotes nothing, without an annotation and with the one fault that it is
undeclared. -/
def Program.Settles (T : Program) (site : Site) (after : Ident) : Prop :=
  after.pos = site.use.pos ∧ after.value = site.use.value ∧
    (∀ d, T.Annotates after d ∧ T.faultsAt site.use.pos = [] ↔ site.Denotes d) ∧
    ((∀ d, ¬ site.Denotes d) → after.symbol = none ∧
      T.faultsAt site.use.pos = [Log.entry site.use.pos .undeclaredIdentifier])

/-! ## From a fresh state -/

theorem agrees_fresh : State.Agrees [] [[]] {} :=
  ⟨⟨rfl, rfl, rfl, fun _ _ => nofun⟩, .cons (.nil []) .nil, List.cons_ne_nil _ _⟩

/-- The analysis of a program makes the symbols of its declarations and settles its uses. -/
theorem Program.analyze_walks {T : Program} (shaped : T.Shaped) :
    T.analyze.state.Agrees T.made [T.decls.map Decl.declared] ∧
      Walks T.made T.idents (Decl.sitesInTurn [] [] T.decls)
        (T.analyze.program.sites.map Site.use) {} T.analyze.state :=
  Decl.resolveAll_walks T.decls shaped agrees_fresh
    [(Decl.resolveAll T.decls {}).1.map Decl.declared]

/-- The symbols of an analysis are those that the declarations make. -/
theorem Program.symbolOf?_analyze {T : Program} (shaped : T.Shaped) {d : Declared}
    {number : Nat} (stands : T.made[number]? = some d) (name : Ident)
    (annotated : name.symbol = some (number : Int)) :
    ∃ id symbol, T.analyze.symbolOf? name = some id ∧
      T.analyze.state.store.get? id = some symbol ∧ symbol.Records d number := by
  obtain ⟨stores, -, -⟩ := (analyze_walks shaped).1
  obtain ⟨symbol, found, records⟩ := stores.symbols number d stands
  refine ⟨⟨number⟩, symbol, ?_, found, records⟩
  obtain ⟨small, -⟩ := List.getElem?_eq_some_iff.mp stands
  rw [symbolOf?, annotated, Option.bind_some, Arena.get?, itemAt?_natCast, stores.arena]
  simp [small]

theorem Program.settles_of_settled {T : Program} (shaped : T.Shaped) {site : Site}
    {after : Ident} (settled : site.seen.Settled T.made T.analyze.state.log.entries after)
    (plain : site.use.symbol = none) : T.Settles site after := by
  cases settled with
  | @declared d number denoted stands silent =>
    have denotes : site.Denotes d := (site.denotes_iff d).mpr denoted
    refine ⟨rfl, rfl, fun d' => ⟨?_, ?_⟩, fun none => absurd denotes (none d)⟩
    · rintro ⟨⟨number', id, symbol, stands', annotated, -⟩, -⟩
      obtain rfl : number = number' := Int.ofNat.inj (Option.some.inj annotated)
      rw [stands] at stands'
      cases stands'
      exact denotes
    · intro denotes'
      obtain rfl : d = d' :=
        Option.some.inj (denoted.symm.trans ((site.denotes_iff d').mp denotes'))
      obtain ⟨id, symbol, known, found, records⟩ :=
        symbolOf?_analyze shaped stands (site.seen.use.attach (some number)) rfl
      exact ⟨⟨number, id, symbol, stands, rfl, known, found, records⟩, silent⟩
  | undeclared unknown reported =>
    have none : ∀ d, ¬ site.Denotes d := by
      intro d denotes
      cases unknown.symm.trans ((site.denotes_iff d).mp denotes)
    refine ⟨rfl, rfl, fun d => ⟨?_, fun denotes => absurd denotes (none d)⟩,
      fun _ => ⟨plain, reported⟩⟩
    rintro ⟨⟨number, id, symbol, -, annotated, -⟩, -⟩
    rw [Site.seen, plain] at annotated
    cases annotated

/-- **Static scoping.** In the analysis of a program that was read from a text, an ordinary use is
annotated with the symbol of a declaration and nothing is reported at it if and only if it denotes
the declaration. A use that denotes none stays as it is, and it is reported once, as undeclared. -/
theorem analyze_scopes {text : String} {T : Program} (read : parseText text = .ok T) :
    List.Forall₂ T.Settles T.sites (T.analyze.program.sites.map Site.use) := by
  have formed := shaped_of_parseText read
  have ordered := idents_inOrder_of_parseText read
  obtain ⟨-, found, log, outcome⟩ := Program.analyze_walks formed
  -- A fresh log is empty, so what was found on the way is the whole log.
  have entries : T.analyze.state.log.entries = found := log
  rw [← entries, ← Program.seen_sites formed ordered] at outcome
  have settled := outcome.settled ordered
  rw [List.forall₂_map_left_iff] at settled
  have within : ∀ site ∈ T.sites, site.use ∈ T.idents := fun site mem =>
    outcome.within site.seen (List.mem_map_of_mem mem)
  refine ((List.forall₂_and_left _ _).mpr ⟨within, settled⟩).imp ?_
  rintro site after ⟨inside, settled⟩
  exact Program.settles_of_settled formed settled (symbol_of_parseText read _ inside)

/-- A formal parameter hides a variable, a variable hides a formal parameter of type void in one of
two branches, and the function calls itself. -/
def hidingText : String :=
  "int x;\n" ++
  "int f(void y, bool x) \x7b\n" ++
  "if (x) \x7b int y; y = f(x); \x7d else \x7b y = x; \x7d\n" ++
  "return x; \x7d"

/-- The program in that text. -/
def hidingProgram : Program where
  pos := ⟨1, 1⟩
  declsPos := ⟨1, 1⟩
  decls :=
    let name (w : String) (line column : Int) : Ident := { pos := ⟨line, column⟩, value := .text w }
    let use (w : String) (line column : Int) : Expr := .ident (name w line column)
    [.var ⟨1, 1⟩ (.int ⟨1, 1⟩) (name "x" 1 5),
      .func ⟨2, 1⟩ (.int ⟨2, 1⟩) (name "f" 2 5)
        { pos := ⟨2, 6⟩,
          items :=
            [⟨⟨2, 7⟩, .void ⟨2, 7⟩, name "y" 2 12⟩, ⟨⟨2, 15⟩, .bool ⟨2, 15⟩, name "x" 2 20⟩] }
        ⟨2, 23⟩
        (.mk ⟨3, 1⟩ [] ⟨3, 1⟩
          [.ifElse ⟨3, 1⟩ (use "x" 3 5)
            (.mk ⟨3, 10⟩ [.var ⟨3, 10⟩ (.int ⟨3, 10⟩) (name "y" 3 14)] ⟨3, 17⟩
              [.assign ⟨3, 17⟩
                ⟨⟨3, 17⟩, use "y" 3 17, .call ⟨3, 21⟩ (name "f" 3 21) ⟨3, 21⟩ [use "x" 3 23]⟩])
            (.mk ⟨3, 36⟩ [] ⟨3, 36⟩
              [.assign ⟨3, 36⟩ ⟨⟨3, 36⟩, use "y" 3 36, use "x" 3 40⟩]),
          .ret ⟨4, 1⟩ (some (use "x" 4 8))])]

theorem parseText_hidingText : parseText hidingText = .ok hidingProgram := by
  decide +kernel

theorem analyze_scopes_of_hidingText :
    parseText hidingText = .ok hidingProgram ∧
      List.Forall₂ hidingProgram.Settles hidingProgram.sites
        (hidingProgram.analyze.program.sites.map Site.use) :=
  ⟨parseText_hidingText, analyze_scopes parseText_hidingText⟩

/-- The symbols are those of `x`, `f`, the parameter `x` and the variable `y`, from zero on. -/
example : hidingProgram.analyze.program.sites.map (·.use.symbol) =
    [some 2, some 3, some 1, some 2, none, some 2, some 2] := by
  decide

end Minim
