/-!
Positions in a source text. Lines and columns count from one in a text that was read; a tree built
by hand may carry any integers, and `0:0` where nothing was said.
-/

namespace Minim

/-- A line and a column. -/
structure Position where
  line : Int := 0
  column : Int := 0
  deriving DecidableEq, Repr, Inhabited

namespace Position

/-- The position of the first character of a text. -/
def start : Position := ⟨1, 1⟩

/-- The position after a character: a newline begins the next line, any other character moves one
column on. -/
def after (pos : Position) (c : Char) : Position :=
  if c = '\n' then ⟨pos.line + 1, 1⟩ else ⟨pos.line, pos.column + 1⟩

/-- The position one column on, where no character is left to look at. -/
def nextColumn (pos : Position) : Position :=
  ⟨pos.line, pos.column + 1⟩

@[simp] theorem after_newline (pos : Position) : pos.after '\n' = ⟨pos.line + 1, 1⟩ := rfl

theorem after_of_ne {c : Char} (h : c ≠ '\n') (pos : Position) :
    pos.after c = pos.nextColumn := by
  simp [after, nextColumn, h]

end Position

end Minim
