import Minim.Token.Lexer

/-!
# Calls in any order

The operations of the lexer may be called one after another in any order, also where the lexer
itself would not call them: a string literal may be read where there is no quote, a name after a
fault, and a place past the end of the text may be moved on. No call takes the character, the line
and the column of a place out of step with its offset, and none leads back.
-/

namespace Minim.Cursor

/-! ## Calls -/

/-- An operation of the lexer. -/
inductive Call
  | next
  | advance
  | peek
  | skipBlanks
  | skipComment
  | integer
  | string
  | identifier
  deriving DecidableEq, Repr

/-- What a call answers if it finds no fault. -/
def Call.Answer : Call → Type
  | .next => Token
  | .advance | .skipBlanks | .skipComment => Unit
  | .peek => Option Char
  | .integer => Nat
  | .string | .identifier => String

/-- Call an operation. The place it reached is kept after a fault too. -/
def call (s : Cursor) : (c : Call) → Except LexError c.Answer × Cursor
  | .next => s.next
  | .advance => (.ok (), s.advance)
  | .peek => (.ok s.peek?, s)
  | .skipBlanks => (.ok (), s.skipBlanks)
  | .skipComment => (.ok (), s.skipComment)
  | .integer => s.integer
  | .string => s.string
  | .identifier => s.identifier

/-- The place reached by some calls, one after another. -/
def run (s : Cursor) (calls : List Call) : Cursor :=
  calls.foldl (fun s c => (s.call c).2) s

/-! ## Every call moves on -/

theorem exists_next_eq (s : Cursor) : ∃ n, s.next.2 = s.advanceBy n := by
  rw [next]
  split
  · exact ⟨_, rfl⟩
  · rename_i c rest here
    refine ⟨Lexeme.gapLength false s.rest + (Lexeme.scan c rest).length, ?_⟩
    rw [advanceBy_add]
    rfl

theorem exists_skipComment_eq (s : Cursor) : ∃ n, s.skipComment = s.advanceBy n := by
  rw [skipComment]
  split
  · exact ⟨_, rfl⟩
  · refine ⟨(s.rest.takeWhile (· != '\n')).length + 1, ?_⟩
    rw [advanceBy_add]
    rfl

/-- A call takes a place a number of characters on, whether it finds a fault or not. -/
theorem exists_call_eq (s : Cursor) (c : Call) : ∃ n, (s.call c).2 = s.advanceBy n := by
  cases c with
  | next => exact s.exists_next_eq
  | advance => exact ⟨1, rfl⟩
  | peek => exact ⟨0, rfl⟩
  | skipComment => exact s.exists_skipComment_eq
  | skipBlanks | integer | string | identifier => exact ⟨_, rfl⟩

theorem offset_le_call (s : Cursor) (c : Call) : s.offset ≤ (s.call c).2.offset := by
  obtain ⟨n, moved⟩ := s.exists_call_eq c
  rw [moved, offset_advanceBy]
  exact Nat.le_add_right _ _

/-- Not every move leaves less of the text, since there may be none of it left. A token is there. -/
theorem offset_lt_next {s : Cursor} {token : Token} (answered : s.next.1 = .ok token)
    (notEnd : token.kind ≠ .eof) : s.offset < s.next.2.offset := by
  have shorter : s.next.2.rest.length < s.rest.length :=
    rest_next_lt (Prod.ext answered rfl) notEnd
  obtain ⟨n, moved⟩ := s.exists_next_eq
  rw [moved, rest_advanceBy, List.length_drop] at shorter
  rw [moved, offset_advanceBy]
  omega

/-! ## One character on -/

theorem pos_advance_of_newline {s : Cursor} (newline : s.current? = some '\n') :
    s.advance.pos = ⟨s.pos.line + 1, 1⟩ := by
  obtain ⟨rest, ahead⟩ := List.head?_eq_some_iff.mp newline
  rw [advance, ahead]
  exact s.pos.after_newline

theorem pos_advance_of_ne {s : Cursor} (other : s.current? ≠ some '\n') :
    s.advance.pos = s.pos.nextColumn := by
  rw [advance]
  split
  · rfl
  · rename_i c rest ahead
    refine Position.after_of_ne (fun newline => other ?_) s.pos
    rw [current?, ahead, newline, List.head?_cons]

/-! ## Places in step -/

/-- The offset of the last newline among the first characters of a text, or else -1. -/
def lastNewline (text : List Char) : Nat → Int
  | 0 => -1
  | n + 1 => if text[n]? = some '\n' then n else lastNewline text n

/-- What is left of a text, the line and the column are those at an offset. Past the end of the text
nothing is left, and the columns of the last line go on. -/
structure InStep (text : List Char) (s : Cursor) : Prop where
  rest : s.rest = text.drop s.offset
  line : s.pos.line = 1 + (text.take s.offset).count '\n'
  column : s.pos.column = s.offset - lastNewline text s.offset

namespace InStep

variable {text : List Char} {s : Cursor}

theorem ofString (text : String) : InStep text.toList (ofString text) where
  rest := rfl
  line := rfl
  column := rfl

theorem current? (h : InStep text s) : s.current? = text[s.offset]? := by
  rw [Cursor.current?, h.rest, List.head?_drop]

/-- A newline ends its line. One step past anything else, or past nothing, is one more column. -/
theorem advance (h : InStep text s) : InStep text s.advance := by
  have left : s.advance.rest = text.drop s.advance.offset := by
    rw [rest_advance, offset_advance, h.rest, List.tail_drop]
  by_cases newline : text[s.offset]? = some '\n'
  · have moved := pos_advance_of_newline (h.current?.trans newline)
    refine ⟨left, ?line, ?column⟩ <;> rw [moved, offset_advance]
    case line =>
      rw [List.take_add_one, newline, List.count_append, h.line]
      exact Int.add_assoc ..
    case column =>
      show (1 : Int) = _
      rw [lastNewline, if_pos newline]
      omega
  · have moved := pos_advance_of_ne fun here => newline (h.current?.symm.trans here)
    refine ⟨left, ?line, ?column⟩ <;> rw [moved, offset_advance]
    case line =>
      have notHere : '\n' ∉ text[s.offset]?.toList := mt Option.mem_toList.mp newline
      rw [List.take_add_one, List.count_append, List.count_eq_zero.mpr notHere]
      exact h.line
    case column =>
      show s.pos.column + 1 = _
      rw [lastNewline, if_neg newline, h.column]
      omega

theorem advanceBy (h : InStep text s) (n : Nat) : InStep text (s.advanceBy n) := by
  induction n generalizing s with
  | zero => exact h
  | succ n ih => exact ih h.advance

theorem call (h : InStep text s) (c : Call) : InStep text (s.call c).2 := by
  obtain ⟨n, moved⟩ := s.exists_call_eq c
  rw [moved]
  exact h.advanceBy n

theorem run (h : InStep text s) (calls : List Call) : InStep text (s.run calls) := by
  induction calls generalizing s with
  | nil => exact h
  | cons c calls ih => exact ih (h.call c)

end InStep

/-- **Calls keep a place in step with its offset.** Whatever was called on a text, and with whatever
faults: the character to be read next is the one at the offset, if there is one. The line counts the
newlines before the offset. The column counts from the last one of them. A further call does not
lead back, and one for the next token leads on if there is a token. -/
theorem calls_stay_in_step (text : String) (calls : List Call) :
    let s := (ofString text).run calls
    s.current? = text.toList[s.offset]? ∧
      s.pos.line = 1 + (text.toList.take s.offset).count '\n' ∧
      s.pos.column = s.offset - lastNewline text.toList s.offset ∧
      (∀ c, s.offset ≤ (s.call c).2.offset) ∧
      ∀ token, (s.call .next).1 = .ok token → token.kind ≠ .eof →
        s.offset < (s.call .next).2.offset := by
  intro s
  have inStep : InStep text.toList s := (InStep.ofString text).run calls
  exact ⟨inStep.current?, inStep.line, inStep.column, s.offset_le_call,
    fun token answered notEnd => offset_lt_next answered notEnd⟩

/-- A numeral that is no number, then a literal that a newline opens, then a name and the end of the
text, where there is no number and no literal. -/
theorem calls_stay_in_step_of_faults :
    let start := ofString "7²\n\"a"
    let s := start.run [.next, .string]
    let past := s.run [.next, .integer, .string]
    ((start.call .next).1.isOk = false ∧ s.offset = 4 ∧ s.pos = ⟨2, 2⟩) ∧
      ((s.call .next).1 = .ok { kind := .identifier, value := .text "a", pos := ⟨2, 2⟩ } ∧
        s.offset < (s.call .next).2.offset) ∧
      ((s.call .next).2.integer.1.isOk = false ∧ (s.call .next).2.string.1.isOk = false) ∧
      past.current? = none ∧ past.offset = 6 ∧ past.pos = ⟨2, 4⟩ := by
  obtain ⟨-, -, -, -, onwards⟩ := calls_stay_in_step "7²\n\"a" [.next, .string]
  exact ⟨by decide, ⟨rfl, onwards _ rfl (by decide)⟩, by decide, by decide⟩

end Minim.Cursor
