import Minim.Proofs.Token.Layout

/-!
# Spelling tokens and lexing them again

Any words of the language, spelled one behind the other with a space between them, are lexed back:
the lexeme of a token is one way to write its content, and a space carries no word on.
-/

namespace Minim

open Lexeme Unicode

/-! ## Lexemes -/

namespace Lexeme

theorem exists_text_of_legal {kind : TokenKind} {value : TokenValue} (notInteger : kind ≠ .integer)
    (legal : Legal (kind, value)) : ∃ w, value = .text w := by
  cases kind with
  | integer => exact absurd rfl notInteger
  | string | identifier =>
    obtain ⟨w, text, -⟩ := legal
    exact ⟨w, text⟩
  | eof => exact legal.elim
  | _ => exact ⟨_, legal⟩

/-- The decimal notation of a number is a numeral of it. -/
theorem writtenAs_toDigits {n : Nat} (hasNumeral : HasNumeral n) :
    WrittenAs (.integer, .number n) (Nat.toDigits 10 n) := by
  obtain ⟨decimal, short, -⟩ := read_eq_ok.mp (read_toDigits hasNumeral)
  exact ⟨⟨Nat.toDigits_ne_nil, decimal, short⟩, by rw [value_toDigits]⟩

/-- The lexeme of a word is one way to write it. -/
theorem writtenAs_lexeme {t : Token} (legal : Legal t.content) :
    WrittenAs t.content t.lexeme.toList := by
  obtain ⟨kind, value, pos⟩ := t
  by_cases integer : kind = .integer
  · subst integer
    obtain ⟨n, rfl, hasNumeral⟩ := legal
    have digits : (Token.lexeme ⟨.integer, .number n, pos⟩).toList = Nat.toDigits 10 n := by
      change (Text.decimal (n : Int)).toList = _
      rw [Text.decimal_natCast, Text.decimalNat, String.toList_ofList]
    rw [digits]
    exact writtenAs_toDigits hasNumeral
  · obtain ⟨w, rfl⟩ := exists_text_of_legal integer legal
    have written : TokenValue.text w = .text (String.ofList w.toList) := by
      rw [String.ofList_toList]
    change Legal (kind, .text w) at legal
    change WrittenAs (kind, .text w) w.toList
    rw [written] at legal ⊢
    exact writtenAs_of_legal integer legal

theorem LiteralBody.newline_notMem {cs : List Char} (h : LiteralBody cs) : '\n' ∉ cs := by
  induction h with
  | close => decide
  | plain _ _ notNewline _ ih => exact List.not_mem_cons_of_ne_of_not_mem notNewline.symm ih
  | @escape e cs escape _ ih =>
    have notNewline : '\n' ≠ e := by
      rintro rfl
      exact absurd escape (by decide)
    exact List.not_mem_cons_of_ne_of_not_mem (by decide)
      (List.not_mem_cons_of_ne_of_not_mem notNewline ih)

/-- A character that neither begins nor continues names is in no name. -/
theorem IsName.notMem {w : String} (h : IsName w) {c : Char} (starts : startsName c = false)
    (continues : continuesName c = false) : c ∉ w.toList := by
  obtain ⟨first, rest, text, startsFirst, continuesRest⟩ := h
  rw [text, List.mem_cons, not_or]
  refine ⟨?_, fun inside => ?_⟩
  · rintro rfl
    exact absurd startsFirst (by rw [starts]; decide)
  · exact absurd (continuesRest c inside) (by rw [continues]; decide)

theorem IsName.newline_notMem {w : String} (h : IsName w) : '\n' ∉ w.toList :=
  h.notMem (by decide +kernel) (by decide +kernel)

/-- No word goes over the end of a line. -/
theorem WrittenAs.newline_notMem {content : Content} {written : List Char}
    (h : WrittenAs content written) : '\n' ∉ written := by
  obtain ⟨kind, value⟩ := content
  by_cases hasSpelling : HasSpelling kind
  · intro inside
    rw [(eq_spelling_of_writtenAs hasSpelling h).2] at inside
    exact absurd (isBlank_of_mem_spelling inside) (by decide)
  · cases kind with
    | integer => exact fun inside => absurd (h.1.decimal _ inside) (by decide +kernel)
    | string =>
      obtain ⟨rfl, w, same, cs, text, body⟩ := h
      obtain rfl : String.ofList written = w := TokenValue.text.inj same
      rw [String.toList_ofList] at text
      rw [text]
      exact List.not_mem_cons_of_ne_of_not_mem (by decide) body.newline_notMem
    | identifier =>
      obtain ⟨rfl, w, same, isName, -⟩ := h
      obtain rfl : String.ofList written = w := TokenValue.text.inj same
      have noNewline := isName.newline_notMem
      rwa [String.toList_ofList] at noNewline
    | eof => exact h.2.elim
    | _ => exact absurd (by decide) hasSpelling

end Lexeme

/-! ## Spelled texts -/

/-- The lexemes of some tokens with a space between them. -/
def spelled (tokens : List Token) : String :=
  " ".intercalate (tokens.map Token.lexeme)

@[simp]
theorem spelled_nil : spelled [] = "" := rfl

@[simp]
theorem spelled_singleton (t : Token) : spelled [t] = t.lexeme :=
  String.intercalate_singleton

@[simp]
theorem spelled_cons_cons (t u : Token) (tokens : List Token) :
    spelled (t :: u :: tokens) = t.lexeme ++ " " ++ spelled (u :: tokens) :=
  String.intercalate_cons_cons

/-- How many characters some tokens take, with a space behind each lexeme. -/
def spelledWidth : List Token → Nat
  | [] => 0
  | t :: tokens => t.lexeme.length + 1 + spelledWidth tokens

/-- Tokens in the places that they have where they are spelled behind so many characters of the
first line. -/
def placed (before : Nat) (tokens : List Token) : List Token :=
  tokens.mapIdx fun i t => { t with pos := ⟨1, 1 + before + spelledWidth (tokens.take i)⟩ }

@[simp]
theorem placed_nil (before : Nat) : placed before [] = [] := rfl

theorem placed_cons (before : Nat) (t : Token) (tokens : List Token) :
    placed before (t :: tokens) =
      { t with pos := ⟨1, 1 + before⟩ } :: placed (before + t.lexeme.length + 1) tokens := by
  rw [placed, List.mapIdx_cons]
  congr 1
  refine List.mapIdx_eq_mapIdx_iff.mpr fun i _ => ?_
  simp only [List.take_succ_cons, spelledWidth]
  congr 2
  push_cast
  omega

theorem Position.following_of_notMem {before : List Char} (oneLine : '\n' ∉ before) :
    following before = ⟨1, 1 + before.length⟩ := by
  have all : before.reverse.takeWhile (· != '\n') = before.reverse := by
    refine List.takeWhile_eq_self_iff.mpr fun c mem => ?_
    rw [bne_iff_ne]
    rintro rfl
    exact oneLine (List.mem_reverse.mp mem)
  rw [following, List.count_eq_zero.mpr oneLine, all, List.length_reverse]
  rfl

theorem Lexeme.gap_of_blanks {gap : List Char} (blanks : ∀ c ∈ gap, isBlank c = true)
    (rest : List Char) : Gap rest gap := by
  induction gap with
  | nil => exact .nil
  | cons c gap ih =>
    obtain ⟨isBlank, blanks⟩ := List.forall_mem_cons.mp blanks
    exact .blank isBlank (ih blanks)

/-- Tokens that are spelled behind blanks in the first line are lexed. -/
theorem segmented_spelled {tokens : List Token} (legal : ∀ t ∈ tokens, Legal t.content)
    {before gap : List Char} (blanks : ∀ c ∈ gap, isBlank c = true)
    (oneLine : '\n' ∉ before ++ gap) :
    Segmented before (gap ++ (spelled tokens).toList)
      (placed (before ++ gap).length tokens ++
        [{ kind := .eof, pos := ⟨1, 1 + (before ++ gap ++ (spelled tokens).toList).length⟩ }]) := by
  induction tokens generalizing before gap with
  | nil =>
    have ends : Segmented before gap _ := .done (gap_of_blanks blanks [])
    rw [Position.following_of_notMem oneLine] at ends
    simpa using ends
  | cons t tokens ih =>
    obtain ⟨legalHead, others⟩ := List.forall_mem_cons.mp legal
    have isWord := writtenAs_lexeme legalHead
    have oneLine' : '\n' ∉ before ++ gap ++ t.lexeme.toList := by
      rw [List.mem_append, not_or]
      exact ⟨oneLine, isWord.newline_notMem⟩
    have start : Position.following (before ++ gap) = ⟨1, 1 + (before ++ gap).length⟩ :=
      Position.following_of_notMem oneLine
    rw [placed_cons, ← start]
    cases tokens with
    | nil =>
      have behind : Segmented (before ++ gap ++ t.lexeme.toList) ([] ++ (spelled []).toList) _ :=
        ih others nofun (by rwa [List.append_nil])
      have word := Segmented.word (gap_of_blanks blanks _) isWord (by simp) behind
      simpa [Token.content] using word
    | cons u tokens =>
      have behind : Segmented (before ++ gap ++ t.lexeme.toList)
          ([' '] ++ (spelled (u :: tokens)).toList) _ :=
        ih others (List.forall_mem_singleton.mpr (by decide)) (by simpa using oneLine')
      have whole (next : Char)
          (first : ([' '] ++ (spelled (u :: tokens)).toList).head? = some next) :
          ¬ CarriesOn t.lexeme.toList next := by
        cases first
        exact not_carriesOn_of_isBlank (by decide)
      have word := Segmented.word (gap_of_blanks blanks _) isWord whole behind
      simpa [Token.content, Nat.add_assoc, ← String.length_toList] using word

/-- The tokens of a text are words of the language and the end of the text. -/
theorem Segmented.words {before text : List Char} {tokens : List Token}
    (h : Segmented before text tokens) :
    ∃ words last, tokens = words ++ [last] ∧ (∀ t ∈ words, Legal t.content) ∧
      last.content = (.eof, .none) := by
  induction h with
  | done => exact ⟨[], _, rfl, nofun, rfl⟩
  | word _ isWord _ _ ih =>
    obtain ⟨words, last, rfl, legal, ends⟩ := ih
    exact ⟨_ :: words, last, rfl, List.forall_mem_cons.mpr ⟨isWord.legal, legal⟩, ends⟩

theorem content_placed (before : Nat) (tokens : List Token) :
    (placed before tokens).map Token.content = tokens.map Token.content := by
  induction tokens generalizing before with
  | nil => rfl
  | cons t tokens ih =>
    rw [placed_cons, List.map_cons, ih]
    rfl

theorem tokenize_of_legal {tokens : List Token} (legal : ∀ t ∈ tokens, Legal t.content) :
    tokenize (spelled tokens) = .ok (placed 0 tokens ++
      [{ kind := .eof, pos := ⟨1, 1 + (spelled tokens).length⟩ }]) := by
  have segmented : Segmented [] ([] ++ (spelled tokens).toList) _ :=
    segmented_spelled legal nofun nofun
  rw [List.nil_append, List.nil_append, List.nil_append, String.length_toList] at segmented
  exact Cursor.tokens_of_segmented segmented rfl rfl

/-- **Lexing undoes spelling.** Words of the language that are spelled with a space between them are
lexed to tokens of the same kinds and values in the same order. Each of them stands in the first
line, as many columns from its start as the lexemes before it and the spaces behind those have
characters, and the end of the text stands behind the last lexeme. The tokens of a text are such
words, so that its lexemes are lexed to the same kinds and values as the text is. -/
theorem tokenize_spelled :
    (∀ tokens : List Token, (∀ t ∈ tokens, Legal t.content) →
      tokenize (spelled tokens) = .ok (placed 0 tokens ++
          [{ kind := .eof, pos := ⟨1, 1 + (spelled tokens).length⟩ }]) ∧
        (placed 0 tokens).map Token.content = tokens.map Token.content) ∧
    ∀ text lexed, tokenize text = .ok lexed →
      ∃ relexed, tokenize (spelled (lexed.filter (·.kind ≠ .eof))) = .ok relexed ∧
        relexed.map Token.content = lexed.map Token.content := by
  refine ⟨fun tokens legal => ⟨tokenize_of_legal legal, content_placed 0 tokens⟩, ?_⟩
  intro text lexed run
  have segmented : Segmented [] text.toList lexed := Cursor.segmented_of_tokens run rfl
  obtain ⟨words, last, rfl, legal, ends⟩ := segmented.words
  have kept : (words ++ [last]).filter (·.kind ≠ .eof) = words := by
    have goes : ∀ t ∈ words, t.kind ≠ .eof := fun t mem => kind_ne_eof_of_legal (legal t mem)
    have isEnd : last.kind = .eof := congrArg Prod.fst ends
    rw [List.filter_append, List.filter_eq_self.mpr (by simpa using goes)]
    simp [isEnd]
  rw [kept]
  refine ⟨_, tokenize_of_legal legal, ?_⟩
  rw [List.map_append, content_placed, List.map_append, List.map_singleton, List.map_singleton,
    ends]
  rfl

/-- A keyword, a name that begins with one, a mark, a literal with a mark and a quote in it, and a
number. -/
def wordTokens : List Token :=
  [⟨.intType, .text "int", {}⟩, ⟨.identifier, .text "whilex", {}⟩, ⟨.gte, .text ">=", {}⟩,
    ⟨.string, .text "\"// \\\"\"", {}⟩, ⟨.integer, .number 10, {}⟩]

theorem legal_wordTokens : ∀ t ∈ wordTokens, Legal t.content := by
  simp only [wordTokens, List.forall_mem_cons, List.not_mem_nil, false_imp_iff, implies_true,
    and_true]
  refine ⟨rfl, ⟨_, rfl, ?name, by decide⟩, rfl,
    ⟨_, rfl, ['/', '/', ' ', '\\', '"', '"'], by decide, ?literal⟩, ⟨10, rfl, ?numeral⟩⟩
  case name => exact isName_of_all rfl (by decide) (by decide)
  case literal =>
    have run : literalTail ['/', '/', ' ', '\\', '"', '"'] =
        (['/', '/', ' ', '\\', '"', '"'], none) := rfl
    exact literalBody_of_literalTail run
  case numeral =>
    unfold HasNumeral
    decide

theorem spelled_wordTokens : spelled wordTokens = "int whilex >= \"// \\\"\" 10" := by
  decide

theorem tokenize_spelled_of_wordTokens :
    (∀ t ∈ wordTokens, Legal t.content) ∧
      tokenize (spelled wordTokens) = .ok [⟨.intType, .text "int", ⟨1, 1⟩⟩,
        ⟨.identifier, .text "whilex", ⟨1, 5⟩⟩, ⟨.gte, .text ">=", ⟨1, 12⟩⟩,
        ⟨.string, .text "\"// \\\"\"", ⟨1, 15⟩⟩, ⟨.integer, .number 10, ⟨1, 23⟩⟩,
        ⟨.eof, .none, ⟨1, 25⟩⟩] ∧
      ∃ relexed, tokenize (spelled wordTokens) = .ok relexed ∧
        relexed.map Token.content = wordTokens.map Token.content ++ [(.eof, .none)] := by
  obtain ⟨lexed, -⟩ := tokenize_spelled.1 wordTokens legal_wordTokens
  obtain ⟨relexed, run, same⟩ := tokenize_spelled.2 _ _ lexed
  refine ⟨legal_wordTokens, ?_, relexed, run, same⟩
  rw [lexed, spelled_wordTokens]
  rfl

end Minim
