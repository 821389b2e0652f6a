import Minim.Proofs.Syntax.Leaves

/-!
# The positions of nodes

Every node of a tree that was read stands at a token of its text, and which token that is follows
from its phrase. From a node to the next one, a node before its children, positions never go back.
-/

namespace Minim

open Lexeme

/-! ## Positions in a text -/

/-- Lines and columns count from one. -/
def Position.Counted (p : Position) : Prop :=
  1 ≤ p.line ∧ 1 ≤ p.column

theorem Position.Counted.nextColumn {p : Position} (h : p.Counted) : p.nextColumn.Counted := by
  obtain ⟨line, column⟩ := h
  exact ⟨line, by simp only [Position.nextColumn]; omega⟩

theorem Position.Counted.after {p : Position} (h : p.Counted) (c : Char) : (p.after c).Counted := by
  by_cases newline : c = '\n'
  · subst newline
    obtain ⟨line, column⟩ := h
    exact ⟨by simp only [Position.after_newline]; omega, Int.le_refl 1⟩
  · rw [Position.after_of_ne newline]
    exact h.nextColumn

namespace Cursor

theorem counted_advance {s : Cursor} (h : s.pos.Counted) : s.advance.pos.Counted := by
  cases rest : s.rest with
  | nil =>
    rw [advance, rest]
    exact h.nextColumn
  | cons c r =>
    rw [advance, rest]
    exact h.after c

theorem counted_advanceBy (n : Nat) {s : Cursor} (h : s.pos.Counted) :
    (advanceBy n s).pos.Counted := by
  induction n generalizing s with
  | zero => exact h
  | succ n ih =>
    rw [advanceBy_succ]
    exact ih (counted_advance h)

theorem counted_of_tokens {s : Cursor} {tokens : List Token} (run : s.tokens = .ok tokens) :
    s.pos.Counted → ∀ t ∈ tokens, t.pos.Counted := by
  refine tokens_induction
    (motive := fun s tokens => s.pos.Counted → ∀ t ∈ tokens, t.pos.Counted) ?done ?word run
  case done =>
    intro s _ counted t mem
    rw [List.mem_singleton.mp mem]
    exact counted_advanceBy _ counted
  case word =>
    intro s c rest content tokens _ _ ih counted t mem
    have skipped : s.skipGap.pos.Counted := counted_advanceBy _ counted
    rcases List.mem_cons.mp mem with rfl | mem
    · exact skipped
    · exact ih (counted_advanceBy _ skipped) t mem

end Cursor

/-- The tokens of a text stand in lines and columns that count from one. -/
theorem counted_of_tokenize {text : String} {tokens : List Token}
    (run : tokenize text = .ok tokens) : ∀ t ∈ tokens, t.pos.Counted :=
  Cursor.counted_of_tokens run ⟨Int.le_refl 1, Int.le_refl 1⟩

/-! ## Positions in a tree -/

/-- The arguments of a call stand where the called name does. -/
theorem Grammar.Production.argsPos_eq {n : Node} {w : List Piece} (h : Production n w)
    {pos argsPos : Position} {callee : Ident} {args : List Expr}
    (isCall : n = .expr (.call pos callee argsPos args)) : argsPos = callee.pos := by
  induction h with
  | leaf reads =>
    have leaf := Token.leaf?_expr reads
    rw [isCall] at leaf
    cases leaf
  | paren _ _ _ ih => exact ih isCall
  | call =>
    cases isCall
    rfl
  | _ => cases isCall

/-- **Nodes stand where their phrases begin.** The tokens of a text that was read are the phrase of
its program and the end of the text. Unfolding the program meets all its nodes, each one with a
phrase in the text, and each stands where its phrase begins; the arguments of a call stand where the
called name does. So every position is that of a token, and from each node to the next the positions
never go back. -/
theorem positions_of_parseText {text : String} {T : Program} (run : parseText text = .ok T) :
    ∃ tokens last spans, tokenize text = .ok tokens ∧ last.kind = .eof ∧
      Grammar.Unfolds [] [.node (.program T), .token last] tokens spans ∧
      spans.map Span.node = (Node.program T).subtrees ∧
      (∀ s ∈ spans, s.tokens ++ s.after <:+ tokens ∧ s.Begins) ∧
      (∀ pos callee argsPos args,
        Node.expr (.call pos callee argsPos args) ∈ (Node.program T).subtrees →
          argsPos = callee.pos) ∧
      (∀ n ∈ (Node.program T).subtrees, (∃ t ∈ tokens, t.pos = n.pos) ∧ n.pos.Counted) ∧
      ((Node.program T).subtrees.map Node.pos).Pairwise (· ≤ ·) := by
  obtain ⟨words, last, lexed, ends, ⟨derived⟩⟩ := derived_of_parseText run
  obtain ⟨spans, unfolds, placed⟩ := derived.hasPhrase.covers ((Grammar.Covers.nil []).token last)
  have nodes : spans.map Span.node = (Node.program T).subtrees := by
    rw [unfolds.nodes]
    exact List.append_nil _
  have positions : spans.map (·.node.pos) = (Node.program T).subtrees.map Node.pos := by
    rw [← nodes, List.map_map]
    rfl
  have sweeps := placed.sweeps
  rw [List.append_nil, positions] at sweeps
  refine ⟨words ++ [last], last, spans, lexed, ends, unfolds, nodes, ?phrases, ?args, ?tokens,
    sweeps.sorted (inOrder_of_tokenize lexed)⟩
  case phrases =>
    intro s mem
    have suffix := unfolds.suffix_of_mem mem
    rw [List.append_nil] at suffix
    exact ⟨suffix, placed.begins s mem⟩
  case args =>
    intro pos callee argsPos args mem
    rw [← nodes] at mem
    obtain ⟨s, inSpans, isCall⟩ := List.mem_map.mp mem
    obtain ⟨w, made⟩ := unfolds.production_of_mem inSpans
    exact made.argsPos_eq isCall
  case tokens =>
    intro n mem
    obtain ⟨t, inText, pos⟩ := sweeps.exists_token n.pos (List.mem_map_of_mem mem)
    exact ⟨⟨t, inText, pos⟩, pos ▸ counted_of_tokenize lexed t inText⟩

theorem positions_of_literalText :
    parseText literalText = .ok literalProgram ∧
      (∀ n ∈ (Node.program literalProgram).subtrees, n.pos.Counted) ∧
      ((Node.program literalProgram).subtrees.map Node.pos).Pairwise (· ≤ ·) := by
  obtain ⟨tokens, last, spans, -, -, -, -, -, -, atTokens, sorted⟩ :=
    positions_of_parseText parseText_literalText
  exact ⟨parseText_literalText, fun n mem => (atTokens n mem).2, sorted⟩

end Minim
