import Minim.Token.Cursor
import Minim.Token.Lexeme

/-!
The lexer: a cursor moved over a text, one token at a time. Each operation answers with a result or
a fault and with the place it reached, which is kept after a fault too. A fault stands at the place
where the operation began, for a string literal the opening quote.
-/

namespace Minim

/-- A fault in a text at its position. -/
structure LexError where
  pos : Position
  fault : Lexeme.Fault
  deriving DecidableEq, Repr

namespace LexError

/-- The wording of a fault. A faulty numeral is reported without its position. -/
def message (error : LexError) : String :=
  match error.fault with
  | .numeral fault => fault.message
  | .unexpected c => located error.pos ("Unexpected character '" ++ c.toString ++ "'")
  | .unterminatedString => located error.pos "Unterminated string literal"
  | .illegalEscape => located error.pos "Illegal escape sequence in string literal"
  | .expectedInteger => located error.pos "Expected integer"
  | .expectedIdentifier => located error.pos "Expected identifier"
where
  /-- A text after the position it speaks of. -/
  located (pos : Position) (text : String) : String :=
    "Lexical error at line " ++ Text.decimal pos.line ++ ", column " ++ Text.decimal pos.column ++
      ": " ++ text

/-- Whether the fault is one of a numeral, which has the form of a token but no value. -/
def isNumeral (error : LexError) : Bool :=
  match error.fault with
  | .numeral _ => true
  | _ => false

end LexError

namespace Cursor

/-- Perform a scan: move over what it covers, and report its fault where it began. -/
def perform {α : Type} (scan : Lexeme.Scan α) (s : Cursor) : Except LexError α × Cursor :=
  (scan.result.mapError (⟨s.pos, ·⟩), s.advanceBy scan.length)

/-- Move over the blanks ahead. -/
def skipBlanks (s : Cursor) : Cursor :=
  s.advanceBy (s.rest.takeWhile Unicode.isBlank).length

/-- Move to the end of the line and over its newline. -/
def skipComment (s : Cursor) : Cursor :=
  let lineEnd := s.advanceBy (s.rest.takeWhile (· != '\n')).length
  -- The last line of a text may have no newline to move over.
  if lineEnd.rest.isEmpty then lineEnd else lineEnd.advance

/-- Read a run of digits. -/
def integer (s : Cursor) : Except LexError Nat × Cursor :=
  s.perform (Lexeme.scanInteger s.rest)

/-- Read a string literal, whatever its first character. -/
def string (s : Cursor) : Except LexError String × Cursor :=
  s.perform (Lexeme.scanString s.rest)

/-- Read a name. -/
def identifier (s : Cursor) : Except LexError String × Cursor :=
  s.perform (Lexeme.scanName s.rest)

/-- Move over the gap ahead. -/
def skipGap (s : Cursor) : Cursor :=
  s.advanceBy (Lexeme.gapLength false s.rest)

/-- Read the next token, or the end of the text. -/
def next (s : Cursor) : Except LexError Token × Cursor :=
  let start := s.skipGap
  match start.rest with
  | [] => (.ok { kind := .eof, pos := start.pos }, start)
  | c :: rest =>
    let (content, after) := start.perform (Lexeme.scan c rest)
    (content.map fun (kind, value) => { kind, value, pos := start.pos }, after)

/-! ## Progress -/

@[simp] theorem rest_skipGap (s : Cursor) :
    s.skipGap.rest = s.rest.drop (Lexeme.gapLength false s.rest) := by
  simp [skipGap]

/-- A token other than the end of the text takes at least one character with it. -/
theorem rest_next_lt {s after : Cursor} {token : Token} (h : s.next = (.ok token, after))
    (notEnd : token.kind ≠ .eof) : after.rest.length < s.rest.length := by
  simp only [next] at h
  split at h
  · simp only [Prod.mk.injEq, Except.ok.injEq] at h
    exact absurd (congrArg Token.kind h.1).symm notEnd
  · rename_i c rest here
    simp only [perform, Prod.mk.injEq] at h
    obtain ⟨content, reached⟩ := h
    have found : ∃ found, (Lexeme.scan c rest).result = .ok found := by
      cases result : (Lexeme.scan c rest).result with
      | ok found => exact ⟨found, rfl⟩
      | error fault =>
        rw [result] at content
        cases content
    obtain ⟨found, isFound⟩ := found
    have positive := Lexeme.scan_length isFound
    rw [← reached, rest_advanceBy, rest_skipGap]
    have nonempty := congrArg List.length here
    simp only [rest_skipGap, List.length_drop, List.length_cons] at nonempty ⊢
    omega

/-! ## Whole texts -/

/-- The tokens from a place on, through the end of the text. -/
def tokens (s : Cursor) : Except LexError (List Token) :=
  match h : s.next with
  | (.error error, _) => .error error
  | (.ok token, after) =>
    if notEnd : token.kind ≠ .eof then
      have := rest_next_lt h notEnd
      (tokens after).map (token :: ·)
    else .ok [token]
termination_by s.rest.length

end Cursor

/-- The tokens of a text, the end of the text included. -/
def tokenize (text : String) : Except LexError (List Token) :=
  (Cursor.ofString text).tokens

end Minim
