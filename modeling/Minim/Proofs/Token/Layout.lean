import Mathlib.Data.List.Forall2
import Mathlib.Logic.Function.Basic
import Minim.Proofs.Token.Order
import Minim.Proofs.Token.Segmentation

/-!
# Layout

Blanks and comments only keep the words of a text apart. A text keeps its words if more blanks and
comments are put behind them, and if it is put below another text, with a newline in between, its
words are found the same in lower lines.
-/

namespace Minim

open Lexeme Unicode

/-! ## Gaps -/

namespace Lexeme

theorem WrittenAs.ne_nil {content : Content} {written : List Char} (h : WrittenAs content written) :
    written ≠ [] := by
  have finds : Finds written [] content := finds_of_writtenAs h nofun
  obtain ⟨c, tail, rfl, -⟩ := finds
  exact List.cons_ne_nil c tail

theorem WrittenAs.legal {content : Content} {written : List Char}
    (h : WrittenAs content written) : Legal content := by
  have finds : Finds written [] content := finds_of_writtenAs h nofun
  obtain ⟨c, tail, -, found, -⟩ := finds
  exact legal_of_scan (congrArg Scan.result found)

theorem WrittenAs.kind_ne_eof {content : Content} {written : List Char}
    (h : WrittenAs content written) : content.1 ≠ .eof :=
  kind_ne_eof_of_legal h.legal

theorem isBlank_of_mem_spelling {kind : TokenKind} {c : Char} (mem : c ∈ (spelling kind).toList) :
    isBlank c = false := by
  have all : (TokenKind.all.all fun kind => (spelling kind).toList.all (!isBlank ·)) = true := by
    decide
  have ofKind := List.all_eq_true.mp all kind kind.mem_all
  exact Bool.not_eq_true' _ |>.mp (List.all_eq_true.mp ofKind c mem)

/-- No word is carried on by a blank. -/
theorem not_carriesOn_of_isBlank {written : List Char} {next : Char} (blank : isBlank next = true) :
    ¬ CarriesOn written next := by
  intro carries
  have notBlank : isBlank next = false := by
    cases carries with
    | digit _ digit => exact isBlank_of_isDigit digit
    | letter _ letter =>
      rw [continuesName, Bool.or_eq_true, decide_eq_true_eq, isAlphanumeric, Bool.or_eq_true,
        Bool.or_eq_true] at letter
      rcases letter with ((letter | decimal) | numeric) | rfl
      · exact isBlank_of_isLetter letter
      · exact isBlank_of_isDecimal decimal
      · exact Ranges.contains_of_apart (by decide +kernel) numeric
      · decide
    | mark longer =>
      have last : next ∈ written ++ [next] := List.mem_append_right _ (List.mem_singleton_self next)
      exact isBlank_of_mem_spelling (longer ▸ last)
    | comment _ slash =>
      rw [slash]
      decide
  rw [notBlank] at blank
  cases blank

namespace Gap

variable {rest rest' gap gap' : List Char}

/-- Only at the end of a text does a gap depend on what comes after it. -/
theorem before (h : Gap rest gap) (notEnd : rest ≠ []) (rest' : List Char) : Gap rest' gap := by
  induction h with
  | nil => exact .nil
  | blank isBlank _ ih => exact .blank isBlank ih
  | comment oneLine _ ih => exact .comment oneLine ih
  | lastComment _ atEnd => exact absurd atEnd notEnd

/-- A newline ends the last comment of a text. -/
theorem newline (h : Gap [] gap) (h' : Gap rest gap') : Gap rest (gap ++ '\n' :: gap') := by
  induction h with
  | nil => exact .blank (by decide) h'
  | blank isBlank _ ih => exact .blank isBlank ih
  | comment oneLine _ ih =>
    rw [List.cons_append, List.cons_append, List.append_assoc]
    exact .comment oneLine ih
  | lastComment oneLine _ => exact .comment oneLine h'

end Gap

end Lexeme

/-! ## Padding -/

/-- Blanks and whole comments. -/
inductive Filler : List Char → Prop
  | nil : Filler []
  | blank {c : Char} {filler : List Char} (isBlank : isBlank c = true) (others : Filler filler) :
      Filler (c :: filler)
  | comment {body filler : List Char} (oneLine : '\n' ∉ body) (others : Filler filler) :
      Filler ('/' :: '/' :: (body ++ '\n' :: filler))

/-- Nothing, or blanks and whole comments with a blank in front. -/
structure Padding (padding : List Char) : Prop where
  filler : Filler padding
  blank : ∀ c, padding.head? = some c → isBlank c = true

namespace Filler

variable {filler rest : List Char}

theorem append_gap {gap : List Char} (h : Filler filler) (isGap : Gap rest gap) :
    Gap rest (filler ++ gap) := by
  induction h with
  | nil => exact isGap
  | blank isBlank _ ih => exact .blank isBlank ih
  | comment oneLine _ ih =>
    rw [List.cons_append, List.cons_append, List.append_assoc]
    exact .comment oneLine ih

theorem gap (h : Filler filler) : Gap rest filler := by
  have isGap : Gap rest (filler ++ []) := h.append_gap .nil
  rwa [List.append_nil] at isGap

/-- Inside a comment that nothing ends yet, some newline ends it, or it goes on to the end. -/
theorem commentRest (h : Filler filler) : CommentRest [] filler := by
  induction h with
  | nil => exact .atEnd
  | @blank c _ _ others ih =>
    by_cases newline : c = '\n'
    · exact newline ▸ .newline others.gap
    · exact .cons newline ih
  | comment oneLine others _ =>
    refine .cons (by decide) (.cons (by decide) ?_)
    exact ⟨_, oneLine, .inr ⟨_, rfl, others.gap⟩⟩

/-- A comment at the end of a text goes on into what is put behind it. -/
theorem gap_append {gap : List Char} (isGap : Gap [] gap) (h : Filler filler) :
    Gap [] (gap ++ filler) := by
  induction isGap with
  | nil => exact h.gap
  | blank isBlank _ ih => exact .blank isBlank ih
  | comment oneLine _ ih =>
    rw [List.cons_append, List.cons_append, List.append_assoc]
    exact .comment oneLine ih
  | @lastComment body oneLine _ =>
    obtain ⟨body', oneLine', ends⟩ := h.commentRest
    have oneLine'' : '\n' ∉ body ++ body' := by simp [oneLine, oneLine']
    rcases ends with ⟨rfl, -⟩ | ⟨gap, rfl, others⟩
    · exact .lastComment oneLine'' rfl
    · rw [List.cons_append, List.cons_append, ← List.append_assoc]
      exact .comment oneLine'' others

end Filler

/-! ## More layout -/

/-- The second text is the first one with padding at the start or behind words. -/
inductive Spread : List Char → List Char → Prop
  | done {start gap trailing : List Char} (padding : Padding start) (isGap : Gap [] gap)
      (padding' : Padding trailing) : Spread gap (start ++ (gap ++ trailing))
  | word {start gap written rest rest' : List Char} {content : Content} (padding : Padding start)
      (isGap : Gap (written ++ rest) gap) (isWord : WrittenAs content written)
      (whole : ∀ next, rest.head? = some next → ¬ CarriesOn written next)
      (others : Spread rest rest') :
      Spread (gap ++ (written ++ rest)) (start ++ (gap ++ (written ++ rest')))

/-- The text behind a word begins as it did before, or with a blank. -/
theorem Spread.head {text text' : List Char} (h : Spread text text') {next : Char}
    (first : text'.head? = some next) : text.head? = some next ∨ isBlank next = true := by
  cases h with
  | @done start gap trailing padding isGap padding' =>
    rcases start with _ | ⟨c, start⟩
    · rcases text with _ | ⟨c, text⟩
      · exact .inr (padding'.blank next first)
      · exact .inl first
    · exact .inr (padding.blank next first)
  | @word start gap written rest rest' content padding isGap isWord whole others =>
    obtain ⟨c, tail, rfl⟩ := List.exists_cons_of_ne_nil isWord.ne_nil
    rcases start with _ | ⟨c, start⟩
    · rcases gap with _ | ⟨c, gap⟩ <;> exact .inl first
    · exact .inr (padding.blank next first)

/-- Padding changes nothing of the words. -/
theorem Spread.segmented {text text' : List Char} (h : Spread text text')
    (before before' : List Char) :
    ∃ tokens tokens', Segmented before text tokens ∧ Segmented before' text' tokens' ∧
      tokens'.map Token.content = tokens.map Token.content := by
  induction h generalizing before before' with
  | done padding isGap padding' =>
    exact ⟨_, _, .done isGap,
      .done (padding.filler.append_gap (padding'.filler.gap_append isGap)), rfl⟩
  | @word start gap written rest rest' content padding isGap isWord whole others ih =>
    obtain ⟨tokens, tokens', segmented, segmented', same⟩ :=
      ih (before ++ gap ++ written) (before' ++ (start ++ gap) ++ written)
    have notEnd : written ++ rest ≠ [] := List.append_ne_nil_of_left_ne_nil isWord.ne_nil rest
    have isGap' : Gap (written ++ rest') (start ++ gap) :=
      padding.filler.append_gap (isGap.before notEnd _)
    have whole' : ∀ next, rest'.head? = some next → ¬ CarriesOn written next := fun next first =>
      (others.head first).elim (whole next) not_carriesOn_of_isBlank
    have segmented' := Segmented.word isGap' isWord whole' segmented'
    rw [List.append_assoc] at segmented'
    exact ⟨_, _, .word isGap isWord whole segmented, segmented', congrArg (content :: ·) same⟩

/-- Some of a text up to the end of a token: blanks and comments, and the word of the token. -/
def Token.Ends (t : Token) (piece : List Char) : Prop :=
  ∃ gap written, piece = gap ++ written ∧ Gap written gap ∧
    (WrittenAs t.content written ∨ t.kind = .eof ∧ written = [])

/-- Any text that is lexed can be padded, at the start and behind each of its tokens. -/
theorem Segmented.spread {before text : List Char} {tokens : List Token}
    (h : Segmented before text tokens) :
    ∃ pieces, List.Forall₂ Token.Ends tokens pieces ∧ text = pieces.flatten ∧
      ∀ paddings trailing, paddings.length = pieces.length →
        (∀ padding ∈ paddings, Padding padding) → Padding trailing →
          Spread text ((List.zipWith (· ++ ·) paddings pieces).flatten ++ trailing) := by
  induction h with
  | @done before gap isGap =>
    have ends : Token.Ends ⟨.eof, .none, .following (before ++ gap)⟩ gap :=
      ⟨gap, [], (List.append_nil gap).symm, isGap, .inr ⟨rfl, rfl⟩⟩
    refine ⟨[gap], .cons ends .nil, List.flatten_singleton.symm,
      fun paddings trailing length padded padding' => ?_⟩
    obtain ⟨start, rfl⟩ := List.length_eq_one_iff.mp length
    have spread := Spread.done (padded start (List.mem_singleton_self start)) isGap padding'
    simpa using spread
  | @word before gap written rest content tokens isGap isWord whole _ ih =>
    have notEnd : written ++ rest ≠ [] := List.append_ne_nil_of_left_ne_nil isWord.ne_nil rest
    obtain ⟨pieces, ends, rfl, padded⟩ := ih
    refine ⟨(gap ++ written) :: pieces,
      .cons ⟨gap, written, rfl, isGap.before notEnd written, .inl isWord⟩ ends, ?_, ?_⟩
    · rw [List.flatten_cons, List.append_assoc]
    intro paddings trailing length arePadding padding'
    obtain ⟨start, paddings, rfl⟩ := List.exists_cons_of_length_eq_add_one length
    obtain ⟨padding, arePadding⟩ := List.forall_mem_cons.mp arePadding
    have others := padded paddings trailing (Nat.succ.inj length) arePadding padding'
    have spread := Spread.word padding isGap isWord whole others
    simpa using spread

/-- Two texts that differ by padding are both lexed, to tokens of the same contents. -/
theorem tokenize_spread {text text' : String} (spread : Spread text.toList text'.toList) :
    ∃ tokens tokens', tokenize text = .ok tokens ∧ tokenize text' = .ok tokens' ∧
      tokens'.map Token.content = tokens.map Token.content := by
  obtain ⟨tokens, tokens', segmented, segmented', same⟩ := spread.segmented [] []
  exact ⟨tokens, tokens', Cursor.tokens_of_segmented segmented rfl rfl,
    Cursor.tokens_of_segmented segmented' rfl rfl, same⟩

/-! ## Tokens in other places -/

/-- A token in another place. -/
def Token.move (shift : Position → Position) (t : Token) : Token := { t with pos := shift t.pos }

/-- Tokens of the same contents are the same in other places, if no two stand in one place. -/
theorem exists_move {tokens tokens' : List Token}
    (same : tokens'.map Token.content = tokens.map Token.content)
    (apart : (tokens.map Token.pos).Nodup) :
    ∃ shift, tokens' = tokens.map (Token.move shift) := by
  induction tokens generalizing tokens' with
  | nil => exact ⟨id, List.map_eq_nil_iff.mp same⟩
  | cons t tokens ih =>
    obtain ⟨t', tokens', rfl, content, same⟩ := List.map_eq_cons_iff.mp same
    obtain ⟨notAgain, apart⟩ := List.nodup_cons.mp apart
    obtain ⟨shift, rfl⟩ := ih same apart
    obtain ⟨kind, value⟩ := Prod.mk.inj content
    refine ⟨Function.update shift t.pos t'.pos, ?_⟩
    have first : t' = t.move (Function.update shift t.pos t'.pos) := by
      rw [Token.move, Function.update_self, ← kind, ← value]
    have others : tokens.map (Token.move shift) =
        tokens.map (Token.move (Function.update shift t.pos t'.pos)) := by
      refine List.map_congr_left fun other mem => ?_
      have elsewhere : other.pos ≠ t.pos :=
        fun here => notAgain (here ▸ List.mem_map_of_mem mem)
      rw [Token.move, Token.move, Function.update_of_ne elsewhere]
    rw [List.map_cons, ← first, ← others]

theorem nodup_of_tokenize {text : String} {tokens : List Token}
    (lexed : tokenize text = .ok tokens) : (tokens.map Token.pos).Nodup :=
  List.pairwise_map.mpr ((inOrder_of_tokenize lexed).imp ne_of_lt)

theorem Segmented.move {before before' text : List Char} {tokens : List Token}
    {shift : Position → Position} (h : Segmented before text tokens)
    (shifted : ∀ more, .following (before' ++ more) = shift (.following (before ++ more))) :
    Segmented before' text (tokens.map (Token.move shift)) := by
  induction h generalizing before' with
  | @done before gap isGap =>
    rw [List.map_singleton, Token.move, ← shifted]
    exact .done isGap
  | @word before gap written rest content tokens isGap isWord whole _ ih =>
    rw [List.map_cons, Token.move, ← shifted]
    refine .word isGap isWord whole (ih fun more => ?_)
    have further := shifted (gap ++ (written ++ more))
    simpa only [List.append_assoc] using further

/-! ## One text below another -/

/-- A position some lines further down. -/
def Position.down (lines : Nat) (pos : Position) : Position := ⟨pos.line + lines, pos.column⟩

/-- Below some text everything is as many lines further down as the text has, in the same column. -/
theorem Position.following_below (above before : List Char) :
    following (above ++ '\n' :: before) =
      (following before).down (above.count '\n' + 1) := by
  have column : (above ++ '\n' :: before).reverse.takeWhile (· != '\n') =
      before.reverse.takeWhile (· != '\n') := by
    rw [List.reverse_append, List.reverse_cons, List.append_assoc, List.takeWhile_append]
    split
    next all =>
      rw [List.singleton_append, List.takeWhile_cons_of_neg (by decide), List.append_nil]
      exact ((List.takeWhile_prefix _).eq_of_length all).symm
    next => rfl
  rw [following, column, List.count_append, List.count_cons_self]
  simp only [following, down, Position.mk.injEq, and_true]
  omega

/-- A newline does not carry a word on that ends a text. -/
theorem Lexeme.not_carriesOn_newline {written rest : List Char}
    (whole : ∀ next, rest.head? = some next → ¬ CarriesOn written next) (b : List Char) :
    ∀ next, (rest ++ '\n' :: b).head? = some next → ¬ CarriesOn written next := by
  intro next first
  cases rest with
  | nil => exact Option.some.inj first ▸ not_carriesOn_of_isBlank (by decide)
  | cons c rest => exact whole next first

/-- The words of two texts are those of the first one and, below a newline, of the second one. -/
theorem Segmented.join {before a : List Char} {tokens : List Token}
    (h : Segmented before a tokens) :
    ∃ words last, tokens = words ++ [last] ∧ (∀ t ∈ words, t.kind ≠ .eof) ∧ last.kind = .eof ∧
      ∀ b tokens', Segmented (before ++ a ++ ['\n']) b tokens' →
        Segmented before (a ++ '\n' :: b) (words ++ tokens') := by
  induction h with
  | @done before gap isGap =>
    refine ⟨[], _, rfl, nofun, rfl, fun b tokens' below => ?_⟩
    cases below with
    | @done _ gap' isGap' =>
      have joined : Segmented before _ _ := .done (isGap.newline isGap')
      simpa using joined
    | @word _ gap' written rest content tokens isGap' isWord whole others =>
      have joined : Segmented before _ _ := .word (isGap.newline isGap') isWord whole
        (by simpa using others)
      simpa using joined
  | @word before gap written rest content tokens isGap isWord whole _ ih =>
    obtain ⟨words, last, rfl, goes, ends, joins⟩ := ih
    refine ⟨_ :: words, last, rfl, List.forall_mem_cons.mpr ⟨isWord.kind_ne_eof, goes⟩, ends,
      fun b tokens' below => ?_⟩
    have notEnd : written ++ rest ≠ [] := List.append_ne_nil_of_left_ne_nil isWord.ne_nil rest
    have joined := Segmented.word (isGap.before notEnd _) isWord (not_carriesOn_newline whole b)
      (joins b tokens' (by simpa only [List.append_assoc] using below))
    simpa only [List.append_assoc, List.cons_append] using joined

/-- A text below another one keeps its words, as many lines further down as there are above it. -/
theorem tokenize_join {a b : String} {tokens tokens' : List Token}
    (lexed : tokenize a = .ok tokens) (lexed' : tokenize b = .ok tokens') :
    ∃ words last, tokens = words ++ [last] ∧ (∀ t ∈ words, t.kind ≠ .eof) ∧ last.kind = .eof ∧
      tokenize (a ++ "\n" ++ b) =
        .ok (words ++ tokens'.map (Token.move (.down (a.toList.count '\n' + 1)))) := by
  have above : Segmented [] a.toList tokens := Cursor.segmented_of_tokens lexed rfl
  have below : Segmented [] b.toList tokens' := Cursor.segmented_of_tokens lexed' rfl
  obtain ⟨words, last, rfl, goes, ends, joins⟩ := above.join
  refine ⟨words, last, rfl, goes, ends, Cursor.tokens_of_segmented (joins b.toList _ ?_) ?_ rfl⟩
  · refine below.move fun more => ?_
    rw [List.nil_append, List.nil_append, List.append_assoc, List.singleton_append,
      Position.following_below]
  · simp [Cursor.ofString]

end Minim
