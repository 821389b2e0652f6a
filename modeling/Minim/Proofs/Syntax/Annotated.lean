import Minim.Proofs.Syntax.Legends
import Minim.Session

/-!
# Annotated source

Annotated source is plain source with longer names. Where an identifier has a symbol, the text of
the symbol stands in parentheses behind its name, whatever part of the tree the identifier is in.
Nothing else is written in another way.
-/

namespace Minim

open Resolution

/-- An identifier with the text of its symbol behind its name, if it has one of these symbols. -/
def Ident.spellOut (symbols : List Symbol) (name : Ident) : Ident :=
  match name.symbol.bind (itemAt? symbols) with
  | some symbol => { name with value := .text (name.name ++ "(" ++ symbol.text ++ ")") }
  | none => name

/-- All identifiers of a tree with the texts of their symbols. -/
def Edit.spellOut (symbols : List Symbol) : Edit := { ident := Ident.spellOut symbols }

/-- An arena holds these symbols in this order. -/
def Arena.Holds (arena : Arena) (store : Store) (symbols : List Symbol) : Prop :=
  arena.ids.map store.get? = symbols.map some

namespace Arena.Holds

variable {arena : Arena} {store : Store} {symbols : List Symbol}

theorem get? (h : arena.Holds store symbols) (place : Int) :
    (arena.get? place).map store.get? = (itemAt? symbols place).map some := by
  rw [Arena.get?, ← itemAt?_map, h, itemAt?_map]

theorem isSome_get? (h : arena.Holds store symbols) (place : Int) :
    (arena.get? place).isSome = (itemAt? symbols place).isSome := by
  rw [← Option.isSome_map (f := store.get?), h.get?, Option.isSome_map]

theorem textAt (h : arena.Holds store symbols) {place : Int} {symbol : Symbol}
    (found : itemAt? symbols place = some symbol) : arena.textAt store place = symbol.text := by
  have known := h.get? place
  rw [found, Option.map_some] at known
  obtain ⟨id, stands, isSymbol⟩ := Option.map_eq_some_iff.mp known
  rw [Arena.textAt, stands, Option.elim_some, Store.text, isSymbol, Option.elim_some]

end Arena.Holds

/-! ## Names -/

section

variable {symbols : List Symbol} {name : Ident}

theorem Ident.spellOut_of_none (bare : name.symbol = none) : name.spellOut symbols = name := by
  rw [spellOut, bare]
  rfl

theorem Ident.spellOut_of_some {place : Int} {symbol : Symbol} (noted : name.symbol = some place)
    (found : itemAt? symbols place = some symbol) :
    name.spellOut symbols =
      { name with value := .text (name.name ++ "(" ++ symbol.text ++ ")") } := by
  rw [spellOut, noted, Option.bind_some, found]

/-- A name with its symbol is the longer name. -/
theorem Ident.source_spellOut {arena : Arena} {store : Store} (holds : arena.Holds store symbols)
    (inRange : ∀ place, name.symbol = some place → (itemAt? symbols place).isSome = true) :
    (name.spellOut symbols).source none = name.source (some (arena.textAt store)) := by
  cases noted : name.symbol with
  | none =>
    rw [spellOut_of_none noted, source, source, Legend.note?_of_none noted,
      Legend.note?_of_none noted]
  | some place =>
    obtain ⟨symbol, found⟩ := Option.isSome_iff_exists.mp (inRange place noted)
    rw [spellOut_of_some noted found, source, source, Legend.note?_none,
      Legend.note?_of_some noted, holds.textAt found]
    rfl

end

/-! ## Trees -/

/-- **Annotated source is plain source with longer names.** The arena has the places of all
annotations of a tree. Then the source of the tree with the symbols of the arena is the source
without symbols of the tree in which every identifier with a symbol is called by its name and the
text of the symbol in parentheses; the other identifiers are called by their bare names. Whoever
asks for it gets this text. -/
theorem source_annotated {s : State} {symbols : List Symbol} {node : Node}
    (holds : s.arena.Holds s.store symbols)
    (inRange : ∀ name ∈ node.identifiers, ∀ place, name.symbol = some place →
      -symbols.length ≤ place ∧ place < symbols.length) :
    node.source s.legend = (node.edit (.spellOut symbols)).source none ∧
      (node.edit (.spellOut symbols)).identifiers =
        node.identifiers.map (Ident.spellOut symbols) ∧
      (∀ name ∈ node.identifiers,
        (name.symbol = none → name.spellOut symbols = name ∧ name.source s.legend = name.name) ∧
        ∀ place, name.symbol = some place → ∃ symbol, itemAt? symbols place = some symbol ∧
          name.spellOut symbols =
            { name with value := .text (name.name ++ "(" ++ symbol.text ++ ")") }) ∧
      ∀ (session : Session) (number tree : Int) (resolver : Resolver) (index : Nat),
        session.resolver number = .ok resolver → session.load resolver = s →
        session.treeAt tree = .ok (index, node) →
          session.step (.source number tree) =
            (.ok (.text ((node.edit (.spellOut symbols)).source none)), session) := by
  have found (name : Ident) (mem : name ∈ node.identifiers) (place : Int)
      (noted : name.symbol = some place) : (itemAt? symbols place).isSome = true :=
    (itemAt?_isSome symbols place).mpr (inRange name mem place noted)
  have same : node.source s.legend = (node.edit (.spellOut symbols)).source none := by
    refine (node.source_edit fun name mem => ?_).symm
    rw [← node.identifiers_eq_idents] at mem
    exact Ident.source_spellOut holds (found name mem)
  refine ⟨same, ?identifiers, fun name mem => ⟨fun bare => ?bare, fun place noted => ?noted⟩, ?step⟩
  case identifiers =>
    rw [Node.identifiers_eq_idents, Node.identifiers_eq_idents, Node.idents_edit]
    rfl
  case bare =>
    refine ⟨Ident.spellOut_of_none bare, ?_⟩
    rw [Ident.source, Legend.note?_of_none bare]
  case noted =>
    obtain ⟨symbol, isSymbol⟩ := Option.isSome_iff_exists.mp (found name mem place noted)
    exact ⟨symbol, isSymbol, Ident.spellOut_of_some noted isSymbol⟩
  case step =>
    rintro session number tree resolver index isResolver rfl isTree
    have covered : (session.load resolver).arena.covers (node.identifiers.map Ident.symbol) =
        true := by
      rw [Arena.covers, List.all_map, List.all_eq_true]
      intro name mem
      cases noted : name.symbol with
      | none => simp only [Function.comp_apply, noted, Option.all_none]
      | some place =>
        simp only [Function.comp_apply, noted, Option.all_some, holds.isSome_get?,
          found name mem place noted]
    have shown : session.display number tree Node.identifiers Node.source =
        .ok (.text (node.source (session.load resolver).legend)) := by
      rw [Session.display, isResolver, isTree]
      exact if_pos covered
    rw [Session.step, shown, same]

/-- A variable `p` of type `struct P` and a function that assigns to `p.x`. A symbol is noted at
some of the names, for the function once from the end of the arena. -/
def labelledProgram : Program :=
  let name (word : String) (symbol : Option Int) : Ident := { value := .text word, symbol }
  { decls :=
      [.var {} (.struct {} (name "P" (some 0))) (name "p" (some 1)),
        .func {} (.int {}) (name "f" (some (-1)))
          { items := [{ type := .int {}, name := name "n" none }] } {}
          (.mk {} [] {}
            [.assign {}
              { target := .dot {} (.ident (name "p" (some 1))) (name "x" none)
                value := .call {} (name "f" (some 2)) {} [.ident (name "n" none)] }])] }

/-- The symbols of the struct, the variable and the function. -/
def labelSymbols : List Symbol :=
  [{ name := "P", meaning := .structDef .root }, { name := "p", meaning := .structVar "P" },
    { name := "f", meaning := .func .int [.int] }]

/-- The program in a session with these symbols. -/
def labelledSession : Session where
  store := ⟨labelSymbols⟩
  tables := [.root]
  arenas := [⟨[⟨0⟩, ⟨1⟩, ⟨2⟩]⟩]
  logs := [{}]
  resolvers := [⟨0, 0, 0⟩]
  trees := [.program labelledProgram]

theorem source_annotated_of_labelledProgram :
    (Node.program labelledProgram).source none =
        "struct P p;\nint f(int n) \x7b\n    p.x = f(n);\n\x7d\n\n" ∧
      labelledSession.step (.source 0 0) = (.ok (.text <|
        "struct P(struct) p(P);\nint f(int->int)(int n) \x7b\n" ++
          "    p(P).x = f(int->int)(n);\n\x7d\n\n"),
          labelledSession) := by
  have holds : (labelledSession.load ⟨0, 0, 0⟩).arena.Holds labelledSession.store labelSymbols :=
    rfl
  have inRange : ∀ name ∈ (Node.program labelledProgram).identifiers, ∀ place,
      name.symbol = some place → -labelSymbols.length ≤ place ∧ place < labelSymbols.length := by
    decide
  obtain ⟨-, -, -, printed⟩ := source_annotated holds inRange
  refine ⟨rfl, ?_⟩
  rw [printed labelledSession 0 0 ⟨0, 0, 0⟩ 0 rfl rfl rfl]
  rfl

end Minim
