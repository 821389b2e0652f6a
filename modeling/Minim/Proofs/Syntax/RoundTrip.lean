import Minim.Proofs.Parser.Program
import Minim.Proofs.Syntax.Parsed
import Minim.Proofs.Syntax.Reading
import Minim.Proofs.Syntax.Source

/-!
# Source texts and trees

The source text of a well-formed tree is read back as that tree, positions and symbols apart; every
tree read from a text is well-formed; and a source text shows neither positions nor, without a
legend, symbols. So the source text of a program is as good as its structure.
-/

namespace Minim

open Lexeme

/-! ## Texts show structure only -/

theorem Ident.source_erase (name : Ident) : name.erase.source none = name.source none := by
  rw [Ident.source_none, Ident.source_none]
  rfl

theorem TypeExpr.source_erase (ty : TypeExpr) : ty.erase.source none = ty.source none := by
  cases ty with
  | struct pos name => rw [TypeExpr.erase, TypeExpr.source, TypeExpr.source, name.source_erase]
  | _ => rfl

mutual

theorem Expr.source_erase (e : Expr) (nested : Bool) :
    e.erase.source none nested = e.source none nested := by
  cases e with
  | int | string | bool => rfl
  | ident name => exact name.source_erase
  | dot pos base field =>
    rw [Expr.erase, Expr.source, Expr.source, base.source_erase, field.source_erase]
  | assign pos target value =>
    rw [Expr.erase, Expr.source, Expr.source, target.source_erase, value.source_erase]
  | call pos callee argsPos args =>
    rw [Expr.erase, Expr.source, Expr.source, callee.source_erase, Expr.sourceArgs_erase args]
  | unary pos op operand =>
    rw [Expr.erase, Expr.source, Expr.source, operand.source_erase]
  | binary pos left op right =>
    rw [Expr.erase, Expr.source, Expr.source, left.source_erase, right.source_erase]

theorem Expr.sourceArgs_erase (es : List Expr) :
    Expr.sourceArgs none (Expr.eraseAll es) = Expr.sourceArgs none es := by
  cases es with
  | nil => rfl
  | cons e es =>
    cases es with
    | nil => exact e.source_erase true
    | cons next es =>
      show e.erase.source none true ++ ", " ++ Expr.sourceArgs none (Expr.eraseAll (next :: es)) = _
      rw [e.source_erase, Expr.sourceArgs_erase (next :: es)]
      rfl

end

theorem Formals.source_erase (fs : Formals) : fs.erase.source none = fs.source none := by
  rw [Formals.source, Formals.source, Formals.erase, List.map_map]
  refine congrArg _ (List.map_congr_left fun f _ => ?_)
  show f.type.erase.source none ++ " " ++ f.name.erase.source none = _
  rw [f.type.source_erase, f.name.source_erase]
  rfl

mutual

theorem Decl.source_erase (d : Decl) (indent : Nat) :
    d.erase.source none indent = d.source none indent := by
  cases d with
  | var pos ty name =>
    rw [Decl.erase, Decl.source, Decl.source, ty.source_erase, name.source_erase]
  | func pos returnType name formals bodyPos body =>
    rw [Decl.erase, Decl.source, Decl.source, returnType.source_erase, name.source_erase,
      formals.source_erase, body.source_erase]
  | struct pos name fieldsPos fields =>
    rw [Decl.erase, Decl.source, Decl.source, name.source_erase, Decl.sourceAll_erase fields]

theorem Stmt.source_erase (st : Stmt) (indent : Nat) :
    st.erase.source none indent = st.source none indent := by
  cases st with
  | assign pos assignment =>
    rw [Stmt.erase, Stmt.source, Stmt.source, ← assignment.expr.source_erase]
    rfl
  | increment pos place | decrement pos place | read pos place | write pos place =>
    rw [Stmt.erase, Stmt.source, Stmt.source, place.source_erase]
  | ifThen pos cond body | loop pos cond body =>
    rw [Stmt.erase, Stmt.source, Stmt.source, cond.source_erase, body.source_erase]
  | ifElse pos cond yes no =>
    rw [Stmt.erase, Stmt.source, Stmt.source, cond.source_erase, yes.source_erase,
      no.source_erase]
  | call pos call =>
    rw [Stmt.erase, Stmt.source, Stmt.source, ← call.expr.source_erase]
    rfl
  | ret pos value =>
    cases value with
    | none => rfl
    | some value =>
      rw [Stmt.erase, Option.map_some, Stmt.source, Stmt.source, value.source_erase]

theorem Block.source_erase (b : Block) (indent : Nat) :
    b.erase.source none indent = b.source none indent := by
  cases b with
  | mk declsPos decls stmtsPos stmts =>
    rw [Block.erase, Block.source, Block.source, Decl.sourceAll_erase decls,
      Stmt.sourceAll_erase stmts]

theorem Decl.sourceAll_erase (ds : List Decl) (indent : Nat) :
    Decl.sourceAll none indent (Decl.eraseAll ds) = Decl.sourceAll none indent ds := by
  cases ds with
  | nil => rfl
  | cons d ds =>
    rw [Decl.eraseAll, Decl.sourceAll, Decl.sourceAll, d.source_erase, Decl.sourceAll_erase ds]

theorem Stmt.sourceAll_erase (ss : List Stmt) (indent : Nat) :
    Stmt.sourceAll none indent (Stmt.eraseAll ss) = Stmt.sourceAll none indent ss := by
  cases ss with
  | nil => rfl
  | cons st ss =>
    rw [Stmt.eraseAll, Stmt.sourceAll, Stmt.sourceAll, st.source_erase, Stmt.sourceAll_erase ss]

end

theorem Program.source_erase (T : Program) : T.erase.source none = T.source none :=
  Decl.sourceAll_erase T.decls 0

/-! ## Reading back -/

theorem endFree_of_spells {words : List Token} (legal : ∀ c ∈ words.map Token.content, Legal c) :
    Grammar.EndFree words :=
  fun t mem => kind_ne_eof_of_legal (legal t.content (List.mem_map_of_mem mem))

theorem beforeEnd_of_spells {words : List Token} {last : Token} (endFree : Grammar.EndFree words)
    (ends : last.kind = .eof) :
    beforeEnd (words ++ [last]) = words ∧ endOf (words ++ [last]) = last := by
  obtain ⟨before, after⟩ := beforeEnd_append_of_endFree (r := [last]) endFree
  rw [before, after]
  simp [beforeEnd, endOf, ends]

theorem parseText_eq_ok {text : String} {T : Program} :
    parseText text = .ok T ↔ ∃ tokens, tokenize text = .ok tokens ∧ parseTokens tokens = .ok T := by
  rw [parseText]
  cases lexed : tokenize text with
  | error error => simp
  | ok tokens =>
    cases parsed : parseTokens tokens with
    | error error => simp [Except.mapError, parsed]
    | ok T' => simp [Except.mapError, parsed]

/-- The source text of a well-formed program is read as a program of the same structure. -/
theorem parseText_source {T : Program} (h : T.WellFormed) :
    ∃ T', parseText (T.source none) = .ok T' ∧ T'.erase = T.erase := by
  obtain ⟨tokens, lexed, words, last, rfl, spelled, ends⟩ := tokenize_of_lexes (Program.lexes h)
  obtain ⟨T', ⟨derived⟩, same⟩ := Program.readBack h spelled last
  obtain ⟨before, after⟩ := beforeEnd_of_spells derived.endFree ends
  refine ⟨T', parseText_eq_ok.mpr ⟨_, lexed, Parser.parseTokens_complete ?_⟩, same⟩
  rwa [before, after]

/-- What is read from a text is well-formed. -/
theorem wellFormed_of_parseText {text : String} {T : Program} (run : parseText text = .ok T) :
    T.WellFormed := by
  obtain ⟨tokens, lexed, parsed⟩ := parseText_eq_ok.mp run
  obtain ⟨contents, lexes, words, last, rfl, rfl, ends⟩ := lexes_of_tokenize lexed
  obtain ⟨derived⟩ := Parser.parseTokens_sound parsed
  rw [(beforeEnd_of_spells (endFree_of_spells lexes.legal) ends).1] at derived
  exact derived.sound fun t mem => lexes.legal t.content (List.mem_map_of_mem mem)

/-- **Source texts are read back.** The source text of a well-formed program is read as a program
that differs from it in positions and symbols only, and the programs that are read from texts are
well-formed. Two programs read from texts have the same source text if and only if they have the
same structure. -/
theorem source_round_trip :
    (∀ T : Program, T.WellFormed → ∃ T', parseText (T.source none) = .ok T' ∧ T'.erase = T.erase) ∧
    (∀ text T, parseText text = .ok T → T.WellFormed) ∧
    ∀ text₁ text₂ T₁ T₂, parseText text₁ = .ok T₁ → parseText text₂ = .ok T₂ →
      (T₁.source none = T₂.source none ↔ T₁.erase = T₂.erase) := by
  refine ⟨fun T => parseText_source, fun text T => wellFormed_of_parseText, ?_⟩
  intro text₁ text₂ T₁ T₂ run₁ run₂
  constructor
  · intro sameText
    obtain ⟨T, read, same⟩ := parseText_source (wellFormed_of_parseText run₁)
    obtain ⟨T', read', same'⟩ := parseText_source (wellFormed_of_parseText run₂)
    rw [sameText, read'] at read
    cases read
    rw [← same, same']
  · intro sameStructure
    rw [← T₁.source_erase, sameStructure, T₂.source_erase]

/-- A function on a struct that holds a sign before a call in an assignment in an assignment, an
assignment for a condition, and a literal with an escape. -/
def nestedProgram : Program where
  decls :=
    let name (w : String) : Ident := { value := .text w }
    let a : Expr := .dot {} (.ident (name "s")) (name "a")
    [.struct {} (name "pair") {} [.var {} (.int {}) (name "a"), .var {} (.int {}) (name "b")],
      .func {} (.int {}) (name "f")
        { items := [⟨{}, .struct {} (name "pair"), name "s"⟩, ⟨{}, .bool {}, name "c"⟩] } {}
        (.mk {} [.var {} (.int {}) (name "x")] {}
          [.ifElse {}
            (.assign {} (.ident (name "c"))
              (.unary {} (.text "!") (.binary {} a (.text "<=") (.int {} (.number 10)))))
            (.mk {} [] {}
              [.assign {} ⟨{}, .ident (name "x"), .assign {} a (.unary {} (.text "-")
                (.call {} (name "f") {} [.ident (name "s"), .bool {} true]))⟩])
            (.mk {} [] {} [.write {} (.string {} (.text "\"none\\n\"")), .increment {} a]),
          .ret {} (some (.ident (name "x")))])]

theorem nestedProgram_wellFormed : nestedProgram.WellFormed := by
  have pair : Legal (.identifier, .text "pair") :=
    ⟨_, rfl, isName_of_all rfl rfl (by decide), by decide⟩
  have letters : ∀ w ∈ ["a", "b", "c", "f", "s", "x"], Legal (.identifier, .text w) := by
    simp only [List.forall_mem_cons]
    refine ⟨?_, ?_, ?_, ?_, ?_, ?_, List.forall_mem_nil _⟩ <;>
    exact ⟨_, rfl, isName_of_all rfl rfl rfl, by decide⟩
  simp only [List.forall_mem_cons] at letters
  obtain ⟨a, b, c, f, s, x, -⟩ := letters
  have ten : Legal (.integer, .number 10) :=
    ⟨10, rfl, (by decide : (Text.decimalNat 10).length ≤ Numeral.digitLimit)⟩
  have plain {c : Char} {cs : List Char} (h : c ≠ '\\' ∧ c ≠ '"' ∧ c ≠ '\n')
      (body : LiteralBody cs) : LiteralBody (c :: cs) := .plain h.1 h.2.1 h.2.2 body
  have literal : LiteralBody ['n', 'o', 'n', 'e', '\\', 'n', '"'] :=
    plain (by decide) (plain (by decide) (plain (by decide) (plain (by decide)
      (.escape (by decide) .close))))
  have message : Legal (.string, .text "\"none\\n\"") := ⟨_, rfl, _, rfl, literal⟩
  simp [nestedProgram, Program.WellFormed, Decl.WellFormed, Decl.IsVariable, TypeExpr.WellFormed,
    Ident.WellFormed, Formal.WellFormed, Block.WellFormed, Stmt.AllWellFormed, Stmt.WellFormed,
    Expr.WellFormed, Expr.AllWellFormed, Expr.isLocation, Assignment.expr, pair, a, b, c, f, s, x,
    ten, message]
  exact ⟨⟨.inr rfl, 4, .lte, by decide, rfl⟩, .inl rfl⟩

theorem source_round_trip_of_nestedProgram :
    nestedProgram.WellFormed ∧ Program.WellFormed {} ∧
      ∃ T S, parseText (nestedProgram.source none) = .ok T ∧ T.erase = nestedProgram.erase ∧
        T.WellFormed ∧ parseText (Program.source none {}) = .ok S ∧ S.erase = Program.erase {} ∧
        (T.source none = S.source none ↔ T.erase = S.erase) := by
  have emptyFormed : Program.WellFormed {} := List.forall_mem_nil _
  obtain ⟨T, read, same⟩ := source_round_trip.1 nestedProgram nestedProgram_wellFormed
  obtain ⟨S, read', same'⟩ := source_round_trip.1 {} emptyFormed
  exact ⟨nestedProgram_wellFormed, emptyFormed, T, S, read, same, source_round_trip.2.1 _ T read,
    read', same', source_round_trip.2.2 _ _ T S read read'⟩

end Minim
