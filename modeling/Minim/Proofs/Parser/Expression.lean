import Minim.Proofs.Parser.Expression.Completeness
import Minim.Proofs.Parser.Expression.Soundness

/-!
# The expression parser reads the grammar

What the parser accepts is what derives a tree in the grammar and is followed by nothing that would
carry it on. That a phrase derives one tree only is read off the parser's determinism.
-/

namespace Minim.Parser

open Grammar

theorem expression_sound {s t : TokenStream} {e : Expr} (run : expression s = .ok e t) :
    ∃ u, s.Reads u t ∧ Exp 0 u e ∧ ¬ Extends t.current.kind := by
  obtain ⟨u, reads, derived, loose, dot, call⟩ := expressionAt_sound run
  refine ⟨u, reads, derived, ?_⟩
  rintro (kind | kind | kind | ⟨n, operator⟩)
  · exact dot kind
  · exact call kind
  · exact absurd (loose 0 (by rw [kind]; rfl)) (Nat.not_lt_zero 0)
  · exact absurd (loose n (precedence?_eq_some_iff.mpr (.inr operator))) (Nat.not_lt_zero n)

theorem expression_complete {s t : TokenStream} {u : List Token} {e : Expr}
    (derived : Exp 0 u e) (reads : s.Reads u t) (stop : ¬ Extends t.current.kind) :
    expression s = .ok e t := by
  refine (passesThrough_of_exp derived).expressionAt derived.begins reads stop ?_
  rw [depthFor, reads.length]
  omega

end Minim.Parser
