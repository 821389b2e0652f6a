import Minim.Proofs.Token.Lexing
import Minim.Proofs.Token.Spelled

/-!
# Segmentations

A text is segmented when it alternates between gaps and written words that are as long as they can
be, down to a last gap. The tokens of a segmentation have the words as their contents and stand
where the words begin. The lexer answers with the tokens of a segmentation, and with those of any.
-/

namespace Minim

open Lexeme

/-! ## Lines and columns -/

/-- The position after some characters from the start of a text: a line more for each newline, and
a column more for each character since the last of them. -/
def Position.following (before : List Char) : Position :=
  ⟨1 + before.count '\n', 1 + (before.reverse.takeWhile (· != '\n')).length⟩

theorem Position.following_append (before : List Char) (c : Char) :
    following (before ++ [c]) = (following before).after c := by
  by_cases newline : c = '\n'
  · subst newline
    simp [following, Int.add_assoc]
  · simp [following, after_of_ne newline, nextColumn, newline, Int.add_assoc]

/-- Walking over a text leads to the position after what was walked over. -/
theorem Cursor.pos_advanceBy {before written rest : List Char} {s : Cursor}
    (ahead : s.rest = written ++ rest) (reached : s.pos = .following before) :
    (advanceBy written.length s).pos = .following (before ++ written) := by
  induction written generalizing s before with
  | nil => rwa [List.append_nil]
  | cons c written ih =>
    rw [List.length_cons, advanceBy_succ, List.append_cons]
    refine ih ?_ ?_
    · rw [rest_advance, ahead]
      rfl
    · rw [Position.following_append, ← reached, advance, ahead]
      rfl

/-! ## Segmentations -/

/-- The text after `before` is made of gaps and words, and these are the tokens of the words and of
the end of the text. No word is carried on by what follows it. -/
inductive Segmented : (before text : List Char) → List Token → Prop
  | done {before gap : List Char} (isGap : Gap [] gap) :
      Segmented before gap [{ kind := .eof, pos := .following (before ++ gap) }]
  | word {before gap written rest : List Char} {content : Content} {tokens : List Token}
      (isGap : Gap (written ++ rest) gap) (isWord : WrittenAs content written)
      (whole : ∀ next, rest.head? = some next → ¬ CarriesOn written next)
      (others : Segmented (before ++ gap ++ written) rest tokens) :
      Segmented before (gap ++ (written ++ rest))
        ({ kind := content.1, value := content.2, pos := .following (before ++ gap) } :: tokens)

namespace Cursor

variable {before : List Char} {s : Cursor} {tokens : List Token}

theorem pos_skipGap (reached : s.pos = .following before) :
    s.skipGap.pos = .following (before ++ s.rest.take (gapLength false s.rest)) := by
  have length := List.length_take_of_le (gapLength_le false s.rest)
  have all := (List.take_append_drop (gapLength false s.rest) s.rest).symm
  have moved := pos_advanceBy all reached
  rwa [length] at moved

/-- A gap and a word after it, which the next character does not carry on, stand at the head of what
is left of a text, and this is the place after them. -/
structure Passes (before gap written : List Char) (content : Content) (s after : Cursor) :
    Prop where
  ahead : s.rest = gap ++ (written ++ after.rest)
  isGap : Gap (written ++ after.rest) gap
  isWord : WrittenAs content written
  whole : ∀ next, after.rest.head? = some next → ¬ CarriesOn written next
  start : s.skipGap.pos = .following (before ++ gap)
  reached : after.pos = .following (before ++ gap ++ written)

/-- What the scanner finds behind a gap is passed. -/
theorem passes_of_scan {c : Char} {rest : List Char} {content : Content}
    (ahead : s.rest.drop (gapLength false s.rest) = c :: rest)
    (found : (scan c rest).result = .ok content) (reached : s.pos = .following before) :
    ∃ gap written,
      Passes before gap written content s (s.skipGap.advanceBy (scan c rest).length) := by
  have isGap := gap_take s.rest
  have all := List.take_append_drop (gapLength false s.rest) s.rest
  have noGap := gapLength_drop false s.rest
  have start : s.skipGap.rest = c :: rest := by rw [rest_skipGap, ahead]
  have startPos := pos_skipGap reached
  rw [ahead] at isGap all noGap
  generalize s.rest.take (gapLength false s.rest) = gap at isGap all startPos
  obtain ⟨written, rest', split, length, isWord, whole⟩ := heads_of_scan noGap found
  rw [split] at isGap all start
  have afterRest : (s.skipGap.advanceBy (scan c rest).length).rest = rest' := by
    rw [rest_advanceBy, start, length, List.drop_left]
  have afterPos := pos_advanceBy start startPos
  rw [← length] at afterPos
  exact ⟨gap, written, by rw [afterRest, all], by rwa [afterRest], isWord, by rwa [afterRest],
    startPos, afterPos⟩

/-- A gap at the head of what is left is skipped. -/
theorem skipGap_of_gap {gap rest : List Char} (ahead : s.rest = gap ++ rest) (isGap : Gap rest gap)
    (noGap : gapLength false rest = 0) (reached : s.pos = .following before) :
    s.rest.drop (gapLength false s.rest) = rest ∧ s.skipGap.pos = .following (before ++ gap) := by
  have length : gapLength false s.rest = gap.length := by
    rw [ahead, gapLength_append isGap noGap]
  have startPos := pos_skipGap reached
  rw [length, ahead, List.take_left] at startPos
  exact ⟨by rw [length, ahead, List.drop_left], startPos⟩

/-- What is written behind a gap is the next token, and it is passed. -/
theorem next_of_written {gap written rest : List Char} {content : Content}
    (ahead : s.rest = gap ++ (written ++ rest)) (isGap : Gap (written ++ rest) gap)
    (isWord : WrittenAs content written)
    (whole : ∀ next, rest.head? = some next → ¬ CarriesOn written next)
    (reached : s.pos = .following before) :
    ∃ after, s.next =
        (.ok { kind := content.1, value := content.2, pos := .following (before ++ gap) }, after) ∧
      after.rest = rest ∧ after.pos = .following (before ++ gap ++ written) ∧
      content.1 ≠ .eof := by
  obtain ⟨c, tail, rfl, found, noGap⟩ := finds_of_writtenAs isWord whole
  obtain ⟨start, startPos⟩ := skipGap_of_gap ahead isGap noGap reached
  have result := congrArg Scan.result found
  have start' : s.rest.drop (gapLength false s.rest) = c :: (tail ++ rest) := start
  have taken := next_of_word start' result
  have startRest : s.skipGap.rest = c :: tail ++ rest := by rw [rest_skipGap, start]
  rw [congrArg Scan.length found, startPos] at taken
  refine ⟨_, taken, ?_, pos_advanceBy startRest startPos,
    kind_ne_eof_of_legal (legal_of_scan result)⟩
  rw [rest_advanceBy, startRest, List.drop_left]

/-- The tokens that a run answers with are those of a segmentation. -/
theorem segmented_of_tokens (run : s.tokens = .ok tokens) (reached : s.pos = .following before) :
    Segmented before s.rest tokens := by
  refine tokens_induction
    (motive := fun s tokens => ∀ before, s.pos = .following before →
      Segmented before s.rest tokens) ?done ?word run before reached
  case done =>
    intro s atEnd before reached
    have isGap := gap_take s.rest
    have all := List.take_append_drop (gapLength false s.rest) s.rest
    rw [atEnd, List.append_nil] at all
    rw [pos_skipGap reached, all]
    rw [atEnd, all] at isGap
    exact .done isGap
  case word =>
    intro s c rest content tokens ahead found ih before reached
    obtain ⟨gap, written, passes⟩ := passes_of_scan ahead found reached
    rw [passes.ahead, passes.start]
    exact .word passes.isGap passes.isWord passes.whole (ih _ passes.reached)

/-- A run answers with the tokens of a segmentation. -/
theorem tokens_of_segmented {text : List Char} (h : Segmented before text tokens)
    (ahead : s.rest = text) (reached : s.pos = .following before) : s.tokens = .ok tokens := by
  induction h generalizing s with
  | done isGap =>
    rename_i before gap
    obtain ⟨atEnd, startPos⟩ := skipGap_of_gap (ahead.trans (List.append_nil gap).symm) isGap rfl
      reached
    rw [tokens_of_end (next_of_done atEnd) rfl, startPos]
  | word isGap isWord whole others ih =>
    obtain ⟨after, taken, rest, pos, notEnd⟩ := next_of_written ahead isGap isWord whole reached
    rw [tokens_of_token taken notEnd, ih rest pos]
    rfl

end Cursor

/-- **The lexer answers with the tokens of a segmentation, and with those of any.** -/
theorem tokenize_iff_segmented (text : String) (tokens : List Token) :
    tokenize text = .ok tokens ↔ Segmented [] text.toList tokens :=
  ⟨fun run => Cursor.segmented_of_tokens run rfl,
    fun h => Cursor.tokens_of_segmented h rfl rfl⟩

end Minim
