import Mathlib.Order.Defs.PartialOrder
import Minim.Proofs.Token.Lexing

/-!
# Tokens stand in order

Positions are ordered by their lines and, within a line, by their columns. Moving over a text goes
forward, so the tokens of a text stand one behind the other, and no two of them in the same place.
-/

namespace Minim

open Lexeme

/-! ## The order of positions -/

instance : PartialOrder Position where
  le p q := p.line < q.line ∨ p.line = q.line ∧ p.column ≤ q.column
  lt p q := p.line < q.line ∨ p.line = q.line ∧ p.column < q.column
  le_refl _ := .inr ⟨rfl, Int.le_refl _⟩
  le_trans _ _ _ h h' := by omega
  lt_iff_le_not_ge _ _ := by omega
  le_antisymm p q h h' := by
    obtain ⟨line, column⟩ := p
    obtain ⟨line', column'⟩ := q
    simp only [Position.mk.injEq] at h h' ⊢
    omega

namespace Position

theorem lt_def {p q : Position} :
    p < q ↔ p.line < q.line ∨ p.line = q.line ∧ p.column < q.column :=
  Iff.rfl

instance (p q : Position) : Decidable (p < q) :=
  decidable_of_iff _ lt_def.symm

theorem lt_nextColumn (p : Position) : p < p.nextColumn := by
  exact .inr ⟨rfl, Int.lt_succ _⟩

theorem lt_after (p : Position) (c : Char) : p < p.after c := by
  by_cases newline : c = '\n'
  · subst newline
    exact .inl (Int.lt_succ _)
  · rw [after_of_ne newline]
    exact p.lt_nextColumn

end Position

/-! ## Moving forward -/

namespace Cursor

theorem pos_lt_advance (s : Cursor) : s.pos < s.advance.pos := by
  cases h : s.rest with
  | nil =>
    rw [advance, h]
    exact s.pos.lt_nextColumn
  | cons c rest =>
    rw [advance, h]
    exact s.pos.lt_after c

theorem pos_le_advanceBy (n : Nat) (s : Cursor) : s.pos ≤ (advanceBy n s).pos := by
  induction n generalizing s with
  | zero => exact le_refl _
  | succ n ih =>
    rw [advanceBy_succ]
    exact s.pos_lt_advance.le.trans (ih s.advance)

theorem pos_lt_advanceBy {n : Nat} (positive : 0 < n) (s : Cursor) :
    s.pos < (advanceBy n s).pos := by
  obtain ⟨n, rfl⟩ := Nat.exists_eq_succ_of_ne_zero positive.ne'
  rw [advanceBy_succ]
  exact s.pos_lt_advance.trans_le (pos_le_advanceBy n s.advance)

end Cursor

/-! ## Texts -/

/-- Tokens stand one behind the other. -/
def InOrder (tokens : List Token) : Prop :=
  tokens.Pairwise fun t t' => t.pos < t'.pos

theorem Cursor.inOrder_of_tokens {s : Cursor} {tokens : List Token}
    (run : s.tokens = .ok tokens) : InOrder tokens ∧ ∀ t ∈ tokens, s.pos ≤ t.pos := by
  refine tokens_induction
    (motive := fun s tokens => InOrder tokens ∧ ∀ t ∈ tokens, s.pos ≤ t.pos) ?done ?word run
  case done =>
    intro s _
    refine ⟨List.pairwise_singleton _ _, ?_⟩
    intro t mem
    rw [List.mem_singleton.mp mem]
    exact pos_le_advanceBy _ s
  case word =>
    rintro s c rest content tokens - found ⟨ordered, later⟩
    have forward := pos_le_advanceBy (gapLength false s.rest) s
    have taken := pos_lt_advanceBy (scan_length found) s.skipGap
    refine ⟨List.pairwise_cons.mpr ⟨fun t mem => taken.trans_le (later t mem), ordered⟩, ?_⟩
    intro t mem
    rcases List.mem_cons.mp mem with rfl | mem
    · exact forward
    · exact forward.trans (taken.le.trans (later t mem))

/-- The tokens of a text stand one behind the other. -/
theorem inOrder_of_tokenize {text : String} {tokens : List Token}
    (run : tokenize text = .ok tokens) : InOrder tokens :=
  (Cursor.inOrder_of_tokens run).1

end Minim
