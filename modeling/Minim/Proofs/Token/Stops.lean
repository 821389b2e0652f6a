import Minim.Proofs.Token.Segmentation

/-!
# Where the lexer stops

No word stands where an unknown character is, a literal that is not closed or has an unknown escape,
or a run of digits that is no numeral. The lexer fails at the first such place that words and gaps
lead to, and at no other, and it names the place.
-/

namespace Minim

open Lexeme

namespace Lexeme

open Unicode

/-! ## Literals that are not closed -/

/-- What follows an opening quote does not close it: the line or the text ends, or a backslash has
no escape behind it. -/
inductive Unclosed : List Char → Fault → Prop
  | atEnd : Unclosed [] .unterminatedString
  | newline {rest : List Char} : Unclosed ('\n' :: rest) .unterminatedString
  | badEscape {rest : List Char} (noEscape : ∀ e, rest.head? = some e → isEscape e = false) :
      Unclosed ('\\' :: rest) .illegalEscape
  | plain {c : Char} {rest : List Char} {fault : Fault} (notEscape : c ≠ '\\') (notQuote : c ≠ '"')
      (notNewline : c ≠ '\n') (others : Unclosed rest fault) : Unclosed (c :: rest) fault
  | escape {e : Char} {rest : List Char} {fault : Fault} (escape : isEscape e = true)
      (others : Unclosed rest fault) : Unclosed ('\\' :: e :: rest) fault

theorem unclosed_of_literalTail {cs tail : List Char} {fault : Fault}
    (h : literalTail cs = (tail, some fault)) : Unclosed cs fault := by
  fun_induction literalTail cs generalizing tail with
  | case1 =>
    cases h
    exact .atEnd
  | case2 =>
    cases h
    exact .badEscape (by rintro _ ⟨⟩)
  | case3 e rest escape tail' fault' found ih =>
    cases h
    exact .escape escape (ih found)
  | case4 e rest noEscape =>
    cases h
    exact .badEscape (by rintro _ ⟨⟩; exact Bool.eq_false_iff.mpr noEscape)
  | case5 =>
    cases h
    exact .newline
  | case6 => cases h
  | case7 c rest notLast notPair notNewline notQuote tail' fault' found ih =>
    cases h
    have notEscape : c ≠ '\\' := by
      rintro rfl
      cases rest with
      | nil => exact notLast rfl rfl
      | cons e rest => exact notPair e rest rfl rfl
    exact .plain notEscape notQuote notNewline (ih found)

theorem literalTail_of_unclosed {cs : List Char} {fault : Fault} (h : Unclosed cs fault) :
    ∃ tail, literalTail cs = (tail, some fault) := by
  induction h with
  | atEnd => exact ⟨[], rfl⟩
  | newline => exact ⟨[], by simp [literalTail]⟩
  | badEscape noEscape =>
    rename_i rest
    cases rest with
    | nil => exact ⟨[], rfl⟩
    | cons e rest => exact ⟨[], by simp [literalTail, noEscape e rfl]⟩
  | plain notEscape notQuote notNewline _ ih =>
    rename_i c rest fault _
    obtain ⟨tail, found⟩ := ih
    refine ⟨c :: tail, ?_⟩
    rw [literalTail]
    · rw [if_neg notNewline, if_neg notQuote, found]
    · rintro rfl
      exact absurd rfl notEscape
    · rintro e r rfl
      exact absurd rfl notEscape
  | escape escape _ ih =>
    obtain ⟨tail, found⟩ := ih
    exact ⟨_, by rw [literalTail, if_pos escape, found]⟩

/-! ## Places where no word stands -/

theorem isNumeral_iff_read {digits : List Char} (nonempty : digits ≠ []) :
    IsNumeral digits ↔ ∃ n, Numeral.read digits = .ok n := by
  constructor
  · rintro ⟨-, decimal, short⟩
    exact ⟨_, read_eq_ok.mpr ⟨decimal, short, rfl⟩⟩
  · rintro ⟨n, read⟩
    obtain ⟨decimal, short, -⟩ := read_eq_ok.mp read
    exact ⟨nonempty, decimal, short⟩

/-- No word stands at the head of a text, for some reason. -/
inductive Refused : List Char → Fault → Prop
  | character {c : Char} {rest : List Char} (notBlank : isBlank c = false)
      (noMark : mark? c rest = none) (notQuote : c ≠ '"') (notDigit : isDigit c = false)
      (notLetter : startsName c = false) : Refused (c :: rest) (.unexpected c)
  | literal {rest : List Char} {fault : Fault} (unclosed : Unclosed rest fault) :
      Refused ('"' :: rest) fault
  | numeral {c : Char} {rest : List Char} {error : NumeralError} (first : isDigit c = true)
      (noNumeral : ¬ IsNumeral ((c :: rest).takeWhile isDigit))
      (read : Numeral.read ((c :: rest).takeWhile isDigit) = .error error) :
      Refused (c :: rest) (.numeral error)

theorem takeWhile_isDigit_of_first {c : Char} (first : isDigit c = true) (rest : List Char) :
    (c :: rest).takeWhile isDigit = c :: rest.takeWhile isDigit := by
  rw [List.takeWhile_cons, if_pos first]

/-- Where the scanner fails and no gap begins, no word stands. -/
theorem refused_of_scan {c : Char} {rest : List Char} {fault : Fault}
    (noGap : gapLength false (c :: rest) = 0) (h : (scan c rest).result = .error fault) :
    Refused (c :: rest) fault := by
  unfold scan at h
  cases isMark : mark? c rest with
  | some found =>
    rw [isMark] at h
    cases h
  | none =>
    rw [isMark] at h
    simp only at h
    by_cases isQuote : c = '"'
    · subst isQuote
      rw [if_pos rfl] at h
      cases isTail : literalTail rest with
      | mk tail fault' =>
        simp only [scanString, isTail] at h
        cases fault' with
        | none => cases h
        | some fault' =>
          cases h
          exact .literal (unclosed_of_literalTail isTail)
    rw [if_neg isQuote] at h
    by_cases first : isDigit c = true
    · rw [if_pos first, scanInteger, takeWhile_isDigit_of_first first] at h
      simp only [List.isEmpty_cons, Bool.false_eq_true, if_false] at h
      rw [← takeWhile_isDigit_of_first first] at h
      cases read : Numeral.read ((c :: rest).takeWhile isDigit) with
      | ok n =>
        rw [read] at h
        cases h
      | error error =>
        rw [read] at h
        cases h
        refine .numeral first (fun numeral => ?_) read
        obtain ⟨n, read'⟩ := (isNumeral_iff_read numeral.nonempty).mp numeral
        cases read.symm.trans read'
    rw [if_neg first] at h
    by_cases starts : startsName c = true
    · rw [if_pos starts, scanName, if_pos starts] at h
      cases h
    · rw [if_neg starts] at h
      cases h
      refine .character (Bool.eq_false_iff.mpr fun blank => ?_) isMark isQuote
        (Bool.eq_false_iff.mpr first) (Bool.eq_false_iff.mpr starts)
      rw [gapLength, if_pos blank] at noGap
      · cases noGap
      · rintro tail rfl
        exact absurd blank (by decide)

/-- Where no word stands the scanner fails, and no gap begins there. -/
theorem scan_of_refused {c : Char} {rest : List Char} {fault : Fault}
    (h : Refused (c :: rest) fault) :
    (scan c rest).result = .error fault ∧ gapLength false (c :: rest) = 0 := by
  cases h with
  | character notBlank noMark notQuote notDigit notLetter =>
    constructor
    · rw [scan, noMark]
      simp only [if_neg notQuote, notDigit, notLetter, Bool.false_eq_true, if_false]
    · refine gapLength_eq_zero notBlank (.inl ?_)
      rintro rfl
      cases rest <;> cases noMark
  | literal unclosed =>
    obtain ⟨tail, isTail⟩ := literalTail_of_unclosed unclosed
    constructor
    · rw [scan, mark?_eq_none (by decide)]
      simp only [if_true, scanString, isTail]
      rfl
    · exact gapLength_eq_zero (by decide) (.inl (by decide))
  | numeral first noNumeral read =>
    have noMark : c ∉ markStarts := fun isStart => by
      rw [(markStarts_apart isStart).2.2.1] at first
      cases first
    have notQuote : c ≠ '"' := by
      rintro rfl
      exact absurd first (by decide)
    constructor
    · rw [scan, mark?_eq_none noMark]
      simp only
      rw [if_neg notQuote, if_pos first, scanInteger, read, takeWhile_isDigit_of_first first]
      rfl
    · refine gapLength_eq_zero (isBlank_of_isDigit first) (.inl ?_)
      rintro rfl
      exact absurd first (by decide)

end Lexeme

/-! ## Runs that stop -/

/-- The text after `before` goes on with gaps and words up to a place where no word stands, and this
is what is wrong there. No word is carried on by what follows it. -/
inductive Stopped : (before text : List Char) → LexError → Prop
  | here {before gap rest : List Char} {c : Char} {fault : Fault} (isGap : Gap (c :: rest) gap)
      (refused : Refused (c :: rest) fault) :
      Stopped before (gap ++ c :: rest) ⟨.following (before ++ gap), fault⟩
  | word {before gap written rest : List Char} {content : Content} {error : LexError}
      (isGap : Gap (written ++ rest) gap) (isWord : WrittenAs content written)
      (whole : ∀ next, rest.head? = some next → ¬ CarriesOn written next)
      (others : Stopped (before ++ gap ++ written) rest error) :
      Stopped before (gap ++ (written ++ rest)) error

namespace Cursor

variable {before : List Char} {s : Cursor} {error : LexError}

/-- A run fails where no word stands. -/
theorem stopped_of_tokens (run : s.tokens = .error error) (reached : s.pos = .following before) :
    Stopped before s.rest error := by
  refine run_induction
    (motive := fun s run => ∀ before, run = .error error → s.pos = .following before →
      Stopped before s.rest error) ?done ?fault ?word s before run reached
  case done =>
    rintro s gap before ⟨⟩
  case fault =>
    rintro s c rest fault ahead failed before ⟨⟩ reached
    have isGap := gap_take s.rest
    have all := List.take_append_drop (gapLength false s.rest) s.rest
    have noGap := gapLength_drop false s.rest
    rw [pos_skipGap reached]
    rw [ahead] at isGap all noGap
    have stopped : Stopped before _ _ := .here isGap (refused_of_scan noGap failed)
    rwa [all] at stopped
  case word =>
    intro s c rest content run ahead found ih before failed reached
    cases run with
    | ok tokens => cases failed
    | error error' =>
      cases failed
      obtain ⟨gap, written, passes⟩ := passes_of_scan ahead found reached
      rw [passes.ahead]
      exact .word passes.isGap passes.isWord passes.whole (ih _ rfl passes.reached)

/-- Where no word stands a run fails. -/
theorem tokens_of_stopped {text : List Char} (h : Stopped before text error)
    (ahead : s.rest = text) (reached : s.pos = .following before) : s.tokens = .error error := by
  induction h generalizing s with
  | here isGap refused =>
    obtain ⟨failed, noGap⟩ := scan_of_refused refused
    obtain ⟨start, startPos⟩ := skipGap_of_gap ahead isGap noGap reached
    rw [tokens_of_error (next_of_fault start failed), startPos]
  | word isGap isWord whole others ih =>
    obtain ⟨after, taken, rest, pos, notEnd⟩ := next_of_written ahead isGap isWord whole reached
    rw [tokens_of_token taken notEnd, ih rest pos]
    rfl

end Cursor

/-- **The lexer fails at the first place where no word stands**, and at no other. -/
theorem tokenize_error_iff_stopped {text : String} {error : LexError} :
    tokenize text = .error error ↔ Stopped [] text.toList error :=
  ⟨fun run => Cursor.stopped_of_tokens run rfl, fun h => Cursor.tokens_of_stopped h rfl rfl⟩

end Minim
