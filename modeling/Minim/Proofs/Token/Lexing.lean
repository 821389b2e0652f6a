import Minim.Proofs.Token.Words
import Minim.Token.Lexer

/-!
# Lexing as a relation

A text lexes to a list of words if gaps and lexemes alternate in it down to a last gap
(`Lexes`). The lexer computes this relation, positions apart. Below it stand the laws by which a
text is built up from its end: a blank or a word put in front of a text is the first thing lexed.
-/

namespace Minim

open Lexeme

/-- A text lexes to some words. -/
inductive Lexes : List Char → List Content → Prop
  | done {cs : List Char} (gap : cs.drop (gapLength false cs) = []) : Lexes cs []
  | word {cs rest : List Char} {c : Char} {content : Content} {contents : List Content}
      (gap : cs.drop (gapLength false cs) = c :: rest)
      (found : (scan c rest).result = .ok content)
      (others : Lexes ((c :: rest).drop (scan c rest).length) contents) :
      Lexes cs (content :: contents)

theorem Lexes.legal {cs : List Char} {contents : List Content} (h : Lexes cs contents) :
    ∀ content ∈ contents, Legal content := by
  induction h with
  | done => exact nofun
  | word gap found others ih =>
    intro content mem
    rcases List.mem_cons.mp mem with rfl | mem
    · exact legal_of_scan found
    · exact ih content mem

theorem Lexeme.kind_ne_eof_of_legal {content : Content} (h : Legal content) :
    content.1 ≠ .eof := by
  obtain ⟨kind, value⟩ := content
  rintro rfl
  exact h

/-! ## The lexer -/

namespace Cursor

theorem next_of_done {s : Cursor} (gap : s.rest.drop (gapLength false s.rest) = []) :
    s.next = (.ok { kind := .eof, pos := s.skipGap.pos }, s.skipGap) := by
  have rest : s.skipGap.rest = [] := by rw [rest_skipGap, gap]
  rw [next]
  simp only [rest]

theorem next_of_word {s : Cursor} {c : Char} {rest : List Char} {content : Content}
    (gap : s.rest.drop (gapLength false s.rest) = c :: rest)
    (found : (scan c rest).result = .ok content) :
    s.next = (.ok { kind := content.1, value := content.2, pos := s.skipGap.pos },
      s.skipGap.advanceBy (scan c rest).length) := by
  have start : s.skipGap.rest = c :: rest := by rw [rest_skipGap, gap]
  rw [next]
  simp only [start, perform, found]
  rfl

theorem next_of_fault {s : Cursor} {c : Char} {rest : List Char} {fault : Fault}
    (gap : s.rest.drop (gapLength false s.rest) = c :: rest)
    (failed : (scan c rest).result = .error fault) :
    s.next = (.error ⟨s.skipGap.pos, fault⟩, s.skipGap.advanceBy (scan c rest).length) := by
  have start : s.skipGap.rest = c :: rest := by rw [rest_skipGap, gap]
  rw [next]
  simp only [start, perform, failed]
  rfl

theorem tokens_of_end {s after : Cursor} {token : Token} (h : s.next = (.ok token, after))
    (ends : token.kind = .eof) : s.tokens = .ok [token] := by
  rw [tokens]
  split
  · rename_i found
    rw [h] at found
    cases found
  · rename_i found
    rw [h] at found
    cases found
    rw [dif_neg (by simp [ends])]

theorem tokens_of_token {s after : Cursor} {token : Token} (h : s.next = (.ok token, after))
    (goes : token.kind ≠ .eof) : s.tokens = after.tokens.map (token :: ·) := by
  rw [tokens]
  split
  · rename_i found
    rw [h] at found
    cases found
  · rename_i found
    rw [h] at found
    cases found
    rw [dif_pos goes]

theorem tokens_of_error {s after : Cursor} {error : LexError}
    (h : s.next = (.error error, after)) : s.tokens = .error error := by
  rw [tokens]
  split
  · rename_i found
    rw [h] at found
    cases found
    rfl
  · rename_i found
    rw [h] at found
    cases found

end Cursor

/-- The words of a text and the end of it, as tokens. -/
def Spells (tokens : List Token) (contents : List Content) : Prop :=
  ∃ words last, tokens = words ++ [last] ∧ words.map Token.content = contents ∧ last.kind = .eof

theorem Cursor.spells_of_lexes {contents : List Content} {s : Cursor}
    (h : Lexes s.rest contents) : ∃ tokens, s.tokens = .ok tokens ∧ Spells tokens contents := by
  generalize start : s.rest = cs at h
  induction h generalizing s with
  | done gap =>
    subst start
    exact ⟨_, tokens_of_end (next_of_done gap) rfl, [], _, rfl, rfl, rfl⟩
  | word gap found others ih =>
    subst start
    obtain ⟨tokens, run, words, last, rfl, spelled, ends⟩ :=
      ih (by rw [rest_advanceBy, rest_skipGap, gap])
    have notEnd := kind_ne_eof_of_legal (legal_of_scan found)
    rw [tokens_of_token (next_of_word gap found) notEnd, run]
    exact ⟨_, rfl, _ :: words, last, rfl, congrArg (_ :: ·) spelled, ends⟩

/-- What holds of a run that ends at once, with the end of the text or with a fault, and of a run if
it does of the run after its first token, holds of every run. -/
theorem Cursor.run_induction {motive : Cursor → Except LexError (List Token) → Prop}
    (done : ∀ s : Cursor, s.rest.drop (gapLength false s.rest) = [] →
      motive s (.ok [{ kind := .eof, pos := s.skipGap.pos }]))
    (fault : ∀ (s : Cursor) (c : Char) (rest : List Char) (fault : Fault),
      s.rest.drop (gapLength false s.rest) = c :: rest → (scan c rest).result = .error fault →
      motive s (.error ⟨s.skipGap.pos, fault⟩))
    (word : ∀ (s : Cursor) (c : Char) (rest : List Char) (content : Content)
      (run : Except LexError (List Token)),
      s.rest.drop (gapLength false s.rest) = c :: rest → (scan c rest).result = .ok content →
      motive (s.skipGap.advanceBy (scan c rest).length) run →
      motive s
        (run.map ({ kind := content.1, value := content.2, pos := s.skipGap.pos } :: ·)))
    (s : Cursor) : motive s s.tokens := by
  -- Every token takes a character with it, so the induction is on what is left of the text.
  induction length : s.rest.length using Nat.strongRecOn generalizing s with
  | ind n ih =>
    cases gap : s.rest.drop (gapLength false s.rest) with
    | nil =>
      rw [tokens_of_end (next_of_done gap) rfl]
      exact done s gap
    | cons c rest =>
      cases found : (scan c rest).result with
      | error fault' =>
        rw [tokens_of_error (next_of_fault gap found)]
        exact fault s c rest fault' gap found
      | ok content =>
        have notEnd := kind_ne_eof_of_legal (legal_of_scan found)
        have taken := next_of_word gap found
        have shorter := rest_next_lt taken notEnd
        rw [tokens_of_token taken notEnd]
        exact word s c rest content _ gap found (ih _ (length ▸ shorter) _ rfl)

/-- What holds of a run that ends at once, and of a run if it does of the run after its first token,
holds of every run with an answer. -/
theorem Cursor.tokens_induction {motive : Cursor → List Token → Prop}
    (done : ∀ s : Cursor, s.rest.drop (gapLength false s.rest) = [] →
      motive s [{ kind := .eof, pos := s.skipGap.pos }])
    (word : ∀ (s : Cursor) (c : Char) (rest : List Char) (content : Content) (tokens : List Token),
      s.rest.drop (gapLength false s.rest) = c :: rest → (scan c rest).result = .ok content →
      motive (s.skipGap.advanceBy (scan c rest).length) tokens →
      motive s ({ kind := content.1, value := content.2, pos := s.skipGap.pos } :: tokens))
    {s : Cursor} {tokens : List Token} (run : s.tokens = .ok tokens) : motive s tokens := by
  refine run_induction
    (motive := fun s run => ∀ tokens, run = .ok tokens → motive s tokens) ?_ ?_ ?_ s tokens run
  · rintro s gap _ ⟨⟩
    exact done s gap
  · rintro s c rest fault gap failed _ ⟨⟩
  · intro s c rest content run gap found ih tokens answered
    cases run with
    | error error => cases answered
    | ok tokens' =>
      cases answered
      exact word s c rest content tokens' gap found (ih tokens' rfl)

theorem Cursor.lexes_of_tokens {s : Cursor} {tokens : List Token} (run : s.tokens = .ok tokens) :
    ∃ contents, Lexes s.rest contents ∧ Spells tokens contents := by
  refine tokens_induction
    (motive := fun s tokens => ∃ contents, Lexes s.rest contents ∧ Spells tokens contents)
    ?done ?word run
  case done =>
    intro s gap
    exact ⟨[], .done gap, [], _, rfl, rfl, rfl⟩
  case word =>
    rintro s c rest content tokens gap found ⟨contents, lexes, words, last, rfl, spelled, ends⟩
    rw [rest_advanceBy, rest_skipGap, gap] at lexes
    exact ⟨content :: contents, .word gap found lexes, _ :: words, last, rfl,
      congrArg (content :: ·) spelled, ends⟩

/-- **The lexer computes the relation.** -/
theorem tokenize_of_lexes {text : String} {contents : List Content}
    (h : Lexes text.toList contents) :
    ∃ tokens, tokenize text = .ok tokens ∧ Spells tokens contents :=
  Cursor.spells_of_lexes h

theorem lexes_of_tokenize {text : String} {tokens : List Token}
    (run : tokenize text = .ok tokens) :
    ∃ contents, Lexes text.toList contents ∧ Spells tokens contents :=
  Cursor.lexes_of_tokens run

/-- The end of a text is one of its tokens. -/
theorem exists_eof_of_tokenize {text : String} {tokens : List Token}
    (run : tokenize text = .ok tokens) : ∃ t ∈ tokens, t.kind = .eof := by
  obtain ⟨contents, lexes, words, last, rfl, rfl, ends⟩ := lexes_of_tokenize run
  exact ⟨last, List.mem_append_right _ (List.mem_singleton_self last), ends⟩

end Minim
