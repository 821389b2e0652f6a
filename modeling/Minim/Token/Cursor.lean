import Minim.Position

/-!
A place in a text: what is left of it, how many characters came before, and the line and column
reached. A cursor can be moved past the end of the text; then its offset and column go on counting.
-/

namespace Minim

/-- A place in a text. -/
structure Cursor where
  rest : List Char
  offset : Nat := 0
  pos : Position := Position.start
  deriving DecidableEq, Repr

namespace Cursor

/-- The place before the first character of a text. -/
def ofString (text : String) : Cursor := { rest := text.toList }

/-- The character to be read next. -/
def current? (s : Cursor) : Option Char := s.rest.head?

/-- The character after the one to be read next. -/
def peek? (s : Cursor) : Option Char := s.rest[1]?

/-- The place one character on. -/
def advance (s : Cursor) : Cursor :=
  match s.rest with
  | [] => { rest := [], offset := s.offset + 1, pos := s.pos.nextColumn }
  | c :: rest => { rest, offset := s.offset + 1, pos := s.pos.after c }

/-- The place a number of characters on. -/
def advanceBy : Nat → Cursor → Cursor
  | 0, s => s
  | n + 1, s => advanceBy n s.advance

/-! ## What moving does to each part -/

@[simp] theorem rest_advance (s : Cursor) : s.advance.rest = s.rest.tail := by
  cases h : s.rest <;> simp [advance, h]

@[simp] theorem offset_advance (s : Cursor) : s.advance.offset = s.offset + 1 := by
  cases h : s.rest <;> simp [advance, h]

@[simp] theorem advanceBy_zero (s : Cursor) : advanceBy 0 s = s := rfl

theorem advanceBy_succ (n : Nat) (s : Cursor) :
    advanceBy (n + 1) s = advanceBy n s.advance := rfl

@[simp] theorem rest_advanceBy (n : Nat) (s : Cursor) : (advanceBy n s).rest = s.rest.drop n := by
  induction n generalizing s with
  | zero => simp
  | succ n ih => simp [advanceBy_succ, ih]

@[simp] theorem offset_advanceBy (n : Nat) (s : Cursor) :
    (advanceBy n s).offset = s.offset + n := by
  induction n generalizing s with
  | zero => simp
  | succ n ih => simp [advanceBy_succ, ih]; omega

theorem advanceBy_add (m n : Nat) (s : Cursor) :
    advanceBy (m + n) s = advanceBy n (advanceBy m s) := by
  induction m generalizing s with
  | zero => simp
  | succ m ih => simp [Nat.succ_add, advanceBy_succ, ih]

end Cursor

end Minim
