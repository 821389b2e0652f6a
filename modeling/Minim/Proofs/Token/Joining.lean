import Minim.Proofs.Token.Layout
import Minim.Proofs.Token.Stops

/-!
# One text below another, faults included

Whatever the lexer is at where a text ends, a newline ends it in the same way. So a text that is put
below another one is lexed as it is by itself, in lower lines, and the text above it neither gains
nor loses a fault.
-/

namespace Minim

open Lexeme Unicode

/-! ## Above a newline -/

namespace Lexeme

theorem mark?_append_newline {c : Char} {rest : List Char} (noMark : mark? c rest = none)
    (b : List Char) : mark? c (rest ++ '\n' :: b) = none := by
  cases rest with
  | nil =>
    have alone : pairKind? c '\n' = none := by
      cases pair : pairKind? c '\n' with
      | none => rfl
      | some kind =>
        -- The second character of a mark is no blank.
        have last : '\n' ∈ (spelling kind).toList := by
          rw [(pairKind?_spelling pair).2.2]
          simp
        exact absurd (isBlank_of_mem_spelling last) (by decide)
    rw [List.nil_append, mark?, List.head?_cons, Option.bind_some, alone]
    exact noMark
  | cons d rest => exact noMark

/-- A literal that the end of a text leaves open is left open by a newline. -/
theorem Unclosed.above_newline {rest : List Char} {fault : Fault} (h : Unclosed rest fault)
    (b : List Char) : Unclosed (rest ++ '\n' :: b) fault := by
  induction h with
  | atEnd => exact .newline
  | newline => exact .newline
  | @badEscape rest noEscape =>
    refine .badEscape fun e first => ?_
    cases rest with
    | nil =>
      cases first
      decide
    | cons c rest => exact noEscape e first
  | plain notEscape notQuote notNewline _ ih => exact .plain notEscape notQuote notNewline ih
  | escape escape _ ih => exact .escape escape ih

theorem takeWhile_isDigit_newline (digits b : List Char) :
    (digits ++ '\n' :: b).takeWhile isDigit = digits.takeWhile isDigit := by
  rw [List.takeWhile_append]
  split
  next all =>
    rw [List.takeWhile_cons_of_neg (by decide), List.append_nil]
    exact ((List.takeWhile_prefix _).eq_of_length all).symm
  next => rfl

/-- What is refused where a text ends is refused for the same reason where a newline follows. -/
theorem Refused.above_newline {rest : List Char} {fault : Fault} (h : Refused rest fault)
    (b : List Char) : Refused (rest ++ '\n' :: b) fault := by
  cases h with
  | character notBlank noMark notQuote notDigit notLetter =>
    exact .character notBlank (mark?_append_newline noMark b) notQuote notDigit notLetter
  | literal unclosed => exact .literal (unclosed.above_newline b)
  | @numeral c rest error first noNumeral read =>
    have same := takeWhile_isDigit_newline (c :: rest) b
    rw [List.cons_append] at same ⊢
    exact .numeral first (by rwa [same]) (by rwa [same])

end Lexeme

/-- A fault above a newline is found whatever stands below. -/
theorem Stopped.above_newline {before a : List Char} {error : LexError} (h : Stopped before a error)
    (b : List Char) : Stopped before (a ++ '\n' :: b) error := by
  induction h with
  | @here before gap rest c fault isGap refused =>
    have refused' : Refused (c :: (rest ++ '\n' :: b)) fault := refused.above_newline b
    rw [List.append_assoc, List.cons_append]
    exact .here (isGap.before (List.cons_ne_nil c rest) _) refused'
  | @word before gap written rest content error isGap isWord whole _ ih =>
    have notEnd : written ++ rest ≠ [] := List.append_ne_nil_of_left_ne_nil isWord.ne_nil rest
    have stopped := Stopped.word (isGap.before notEnd _) isWord (not_carriesOn_newline whole b) ih
    simpa only [List.append_assoc] using stopped

/-! ## Below a newline -/

/-- A fault in a lower line. -/
def LexError.down (lines : Nat) (error : LexError) : LexError :=
  { error with pos := error.pos.down lines }

/-- The wording of a fault follows its position, if it tells one; that of a numeral tells none. -/
theorem LexError.message_down (lines : Nat) (error : LexError) :
    (error.isNumeral = true ∧ (error.down lines).message = error.message) ∨
      ∃ reason, error.message = message.located error.pos reason ∧
        (error.down lines).message = message.located (error.pos.down lines) reason := by
  obtain ⟨pos, fault⟩ := error
  cases fault with
  | numeral error => exact .inl ⟨rfl, rfl⟩
  | _ => exact .inr ⟨_, rfl, rfl⟩

theorem Stopped.move {before before' text : List Char} {error : LexError}
    {shift : Position → Position} (h : Stopped before text error)
    (shifted : ∀ more, .following (before' ++ more) = shift (.following (before ++ more))) :
    Stopped before' text { error with pos := shift error.pos } := by
  induction h generalizing before' with
  | here isGap refused =>
    rw [← shifted]
    exact .here isGap refused
  | @word before gap written rest content error isGap isWord whole _ ih =>
    refine .word isGap isWord whole (ih fun more => ?_)
    have further := shifted (gap ++ (written ++ more))
    simpa only [List.append_assoc] using further

/-- Below a text that is lexed a fault is found behind the newline. -/
theorem Segmented.join_stopped {before a : List Char} {tokens : List Token}
    (h : Segmented before a tokens) {b : List Char} {error : LexError}
    (below : Stopped (before ++ a ++ ['\n']) b error) :
    Stopped before (a ++ '\n' :: b) error := by
  induction h with
  | @done before gap isGap =>
    cases below with
    | @here _ gap' rest c fault isGap' refused =>
      have joined : Stopped before _ _ := .here (isGap.newline isGap') refused
      simpa using joined
    | @word _ gap' written rest content _ isGap' isWord whole others =>
      have joined : Stopped before _ _ := .word (isGap.newline isGap') isWord whole
        (by simpa using others)
      simpa using joined
  | @word before gap written rest content tokens isGap isWord whole _ ih =>
    have notEnd : written ++ rest ≠ [] := List.append_ne_nil_of_left_ne_nil isWord.ne_nil rest
    have joined := Stopped.word (isGap.before notEnd _) isWord (not_carriesOn_newline whole b)
      (ih (by simpa only [List.append_assoc] using below))
    simpa only [List.append_assoc] using joined

/-! ## Texts -/

/-- What the lexer has to say of a text of so many lines above another one, from what it says of
each: the first fault, or the words of both and the end of the lower one. -/
def joined (lines : Nat) :
    Except LexError (List Token) → Except LexError (List Token) → Except LexError (List Token)
  | .error error, _ => .error error
  | .ok _, .error error => .error (error.down lines)
  | .ok above, .ok below =>
    .ok (above.filter (·.kind ≠ .eof) ++ below.map (Token.move (.down lines)))

/-- **Lexing joins at newlines.** A text above a newline and a text below it are lexed as each is by
itself. A fault of the upper one is the fault of both. If there is none, the fault of the lower one
is, and otherwise there are the words of the upper one, without its end, and the tokens of the lower
one; these stand as many lines further down as the upper text has, in the same columns. The message
of a fault changes with its line only, and that of a numeral, which tells no line, not at all. -/
theorem tokenize_newline (a b : String) :
    tokenize (a ++ "\n" ++ b) = joined (a.toList.count '\n' + 1) (tokenize a) (tokenize b) ∧
      ∀ (lines : Nat) (error : LexError),
        (error.isNumeral = true ∧ (error.down lines).message = error.message) ∨
          ∃ reason, error.message = LexError.message.located error.pos reason ∧
            (error.down lines).message =
              LexError.message.located (error.pos.down lines) reason := by
  have chars : (a ++ "\n" ++ b).toList = a.toList ++ '\n' :: b.toList := by simp
  refine ⟨?_, LexError.message_down⟩
  cases lexed : tokenize a with
  | error error =>
    rw [joined, tokenize_error_iff_stopped, chars]
    exact (tokenize_error_iff_stopped.mp lexed).above_newline b.toList
  | ok above =>
    cases lexed' : tokenize b with
    | error error =>
      have below : Stopped ([] ++ a.toList ++ ['\n']) b.toList
          (error.down (a.toList.count '\n' + 1)) := by
        refine (tokenize_error_iff_stopped.mp lexed').move fun more => ?_
        rw [List.nil_append, List.nil_append, List.append_assoc, List.singleton_append,
          Position.following_below]
      rw [joined, tokenize_error_iff_stopped, chars]
      exact (Cursor.segmented_of_tokens lexed rfl).join_stopped below
    | ok below =>
      obtain ⟨words, last, rfl, goes, ends, run⟩ := tokenize_join lexed lexed'
      have kept : (words ++ [last]).filter (·.kind ≠ .eof) = words := by
        rw [List.filter_append, List.filter_eq_self.mpr (by simpa using goes)]
        simp [ends]
      rw [run, joined, kept]

end Minim
