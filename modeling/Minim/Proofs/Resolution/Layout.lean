import Minim.Proofs.Parser.Moves
import Minim.Proofs.Resolution.Mirrored
import Minim.Proofs.Syntax.RoundTrip
import Minim.Syntax.Equality

/-!
# The layout of a program

Where the words of a program stand matters to nobody. A lexer that skips more between the words
gives the same words in other places, the parser takes the places over into the tree, and name
analysis passes them on into its messages. So a program with more blanks and comments between its
words is the same program elsewhere.
-/

namespace Minim

open Lexeme Resolution

/-! ## Trees in other places -/

namespace Resolution

/-- Other places, and nothing else. -/
def View.move (shift : Position → Position) : View := { pos := shift, ident := Ident.move shift }

/-- A state that was reached with a tree in another place: the faults stand elsewhere. -/
def State.move (shift : Position → Position) (s : State) : State :=
  { s with log := ⟨s.log.entries.map (View.move shift).diagnostic⟩ }

/-- Other places: different names and different symbols stay as they are. -/
def Mirror.move (shift : Position → Position) : Mirror where
  toView := .move shift
  word_injective := Function.injective_id
  entry_injective := Function.injective_id
  name_ident _ := rfl
  pos_ident _ := rfl
  ident_attach name index := by
    rw [View.move, Option.map_id]
    rfl

theorem View.state_move (shift : Position → Position) (s : State) :
    (View.move shift).state s = s.move shift := by
  rw [View.state, State.move, View.table_of_still rfl rfl, View.symbol_of_still rfl rfl rfl,
    View.failure_of_words rfl, List.map_id, Option.map_id]
  rfl

end Resolution

/-- A tree in another place is analysed as the tree is: the same places of the arena are noted at
the identifiers, and the same faults are found at them. -/
theorem Program.analyze_move (shift : Position → Position) (T : Program) :
    (T.edit (.move shift)).analyze.program = T.analyze.program.edit (.move shift) ∧
      (T.edit (.move shift)).analyze.state = T.analyze.state.move shift := by
  obtain ⟨program, state⟩ := Program.analyze_edit (m := .move shift) rfl rfl T
  exact ⟨program, state.trans (View.state_move shift _)⟩

/-! ## More layout -/

/-- **Layout is not noticed.** Let more blanks and comments stand before and between the words of a
text. There is a way to get from the old places of the words to the new ones, by which the new text
has the same words, is a program if and only if the old one is, and then the same program, and by
which its analysis notes the same at the same identifiers, makes the same symbols and scopes and
finds the same faults at the same identifiers. -/
theorem analyze_spread {text text' : String} (spread : Spread text.toList text'.toList) :
    ∃ tokens shift, tokenize text = .ok tokens ∧
      tokenize text' = .ok (tokens.map (Token.move shift)) ∧
      ((∃ T', parseText text' = .ok T') ↔ ∃ T, parseText text = .ok T) ∧
      ∀ T, parseText text = .ok T →
        parseText text' = .ok (T.edit (.move shift)) ∧ (T.edit (.move shift)).erase = T.erase ∧
          (T.edit (.move shift)).analyze.program = T.analyze.program.edit (.move shift) ∧
          (T.edit (.move shift)).analyze.state = T.analyze.state.move shift := by
  obtain ⟨tokens, tokens', lexed, lexed', same⟩ := tokenize_spread spread
  obtain ⟨shift, rfl⟩ := exists_move same (nodup_of_tokenize lexed)
  obtain ⟨back, isBack⟩ := exists_move same.symm (nodup_of_tokenize lexed')
  have forward (T : Program) (read : parseText text = .ok T) :
      parseText text' = .ok (T.edit (.move shift)) := by
    obtain ⟨_, lexed₀, parsed⟩ := parseText_eq_ok.mp read
    cases lexed.symm.trans lexed₀
    exact parseText_eq_ok.mpr
      ⟨_, lexed', parseTokens_move shift (exists_eof_of_tokenize lexed) parsed⟩
  refine ⟨tokens, shift, lexed, lexed', ⟨?_, fun ⟨T, read⟩ => ⟨_, forward T read⟩⟩,
    fun T read => ⟨forward T read, T.erase_edit fun _ => rfl, T.analyze_move shift⟩⟩
  rintro ⟨T', read'⟩
  obtain ⟨_, lexed₀, parsed⟩ := parseText_eq_ok.mp read'
  cases lexed'.symm.trans lexed₀
  have parsed' := parseTokens_move back (exists_eof_of_tokenize lexed') parsed
  rw [← isBack] at parsed'
  exact ⟨_, parseText_eq_ok.mpr ⟨_, lexed, parsed'⟩⟩

/-- A variable of a struct type that is declared nowhere. -/
def structText : String := "struct S s;"

/-- The text with blanks at both ends and a comment behind the first word. -/
def paddedText : String := " struct //of type\n S s; "

/-- The program in the text. -/
def structProgram : Program where
  pos := ⟨1, 1⟩
  declsPos := ⟨1, 1⟩
  decls := [.var ⟨1, 1⟩ (.struct ⟨1, 1⟩ { pos := ⟨1, 8⟩, value := .text "S" })
    { pos := ⟨1, 10⟩, value := .text "s" }]

theorem parseText_structText : parseText structText = .ok structProgram := by
  decide +kernel

theorem spread_paddedText : Spread structText.toList paddedText.toList := by
  have none : Padding [] := ⟨.nil, nofun⟩
  have blank : Padding [' '] := ⟨.blank (by decide) .nil, by rintro _ ⟨⟩; decide⟩
  have filler : Filler ('/' :: '/' :: ("of type".toList ++ ['\n'])) := .comment (by decide) .nil
  have comment : Padding (' ' :: '/' :: '/' :: ("of type".toList ++ ['\n'])) :=
    ⟨.blank (by decide) filler, by rintro _ ⟨⟩; decide⟩
  have space (rest : List Char) : Gap rest [' '] := .blank (by decide) .nil
  have struct : WrittenAs (.structWord, .text "struct") "struct".toList := ⟨rfl, rfl⟩
  have isName : WrittenAs (.identifier, .text "S") "S".toList :=
    ⟨rfl, _, rfl, isName_of_all rfl rfl rfl, by decide⟩
  have isName' : WrittenAs (.identifier, .text "s") "s".toList :=
    ⟨rfl, _, rfl, isName_of_all rfl rfl rfl, by decide⟩
  have semicolon : WrittenAs (.semicolon, .text ";") [';'] := ⟨rfl, rfl⟩
  have apart {written rest : List Char} (next : Char) (first : (' ' :: rest).head? = some next) :
      ¬ CarriesOn written next :=
    Option.some.inj first ▸ not_carriesOn_of_isBlank (by decide)
  have apart' (next : Char) (first : [';'].head? = some next) : ¬ CarriesOn "s".toList next := by
    intro carries
    cases Option.some.inj first
    exact absurd (carries.of_name rfl) (by decide)
  have last : Spread [';'] [';', ' '] := .word none .nil semicolon nofun (.done none .nil blank)
  exact .word blank .nil struct apart (.word comment (space _) isName apart
    (.word none (space _) isName' apart' last))

theorem analyze_spread_of_paddedText :
    Spread structText.toList paddedText.toList ∧ parseText structText = .ok structProgram ∧
      ∃ shift, parseText paddedText = .ok (structProgram.edit (.move shift)) ∧
        (structProgram.edit (.move shift)).analyze.state =
          structProgram.analyze.state.move shift ∧
        structProgram.analyze.state.log.entries.map Diagnostic.kind = [.invalidStructType] := by
  obtain ⟨tokens, shift, -, -, -, same⟩ := analyze_spread spread_paddedText
  obtain ⟨read, -, -, state⟩ := same structProgram parseText_structText
  exact ⟨spread_paddedText, parseText_structText, shift, read, state, by decide⟩

end Minim
