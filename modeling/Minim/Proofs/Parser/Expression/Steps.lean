import Minim.Proofs.Grammar.Expression
import Minim.Proofs.Parser.Recursion

/-!
# Steps of the expression parser

What the parser's precedences have to do with the levels of the grammar, and one equation for each
way in which its two loops, over suffixes and over operators, can go on or stop.
-/

namespace Minim.Parser

open Grammar

/-! ## Operators -/

theorem precedence?_eq_some_iff {kind : TokenKind} {p : Nat} :
    precedence? kind = some p ↔ p = 0 ∧ kind = .assign ∨ kind ∈ operatorsAt p := by
  constructor
  · intro h
    cases kind <;> simp only [precedence?, Option.some.injEq, reduceCtorEq] at h <;> subst h <;>
      simp [operatorsAt]
  · rintro (⟨rfl, rfl⟩ | h)
    · rfl
    · unfold operatorsAt at h
      split at h <;> simp only [List.mem_cons, List.not_mem_nil, or_false] at h
      all_goals rcases h with rfl | rfl | rfl | rfl
      all_goals rfl

theorem precedence?_le {kind : TokenKind} {p : Nat} (h : precedence? kind = some p) : p ≤ 6 := by
  rcases precedence?_eq_some_iff.mp h with ⟨rfl, -⟩ | operator
  · omega
  · exact (level_le_of_mem_operatorsAt operator).2

theorem operatorFrom_eq_some_iff {minimum p : Nat} {token : Token} :
    operatorFrom minimum token = some p ↔ precedence? token.kind = some p ∧ minimum ≤ p := by
  simp [operatorFrom, Option.filter_eq_some_iff]

theorem operatorFrom_eq_none_iff {minimum : Nat} {token : Token} :
    operatorFrom minimum token = none ↔ ∀ p, precedence? token.kind = some p → p < minimum := by
  simp [operatorFrom, Option.filter_eq_none_iff]

/-- An operator is not the end of the text. -/
theorem kind_ne_eof_of_operatorFrom {minimum p : Nat} {token : Token}
    (found : operatorFrom minimum token = some p) : token.kind ≠ .eof := by
  intro kind
  simp [operatorFrom, kind, precedence?] at found

theorem identifier_eq_ok {part : Missing} {s t : TokenStream} {name : Ident} :
    identifier part s = .ok name t ↔
      s.current.kind = .identifier ∧ name = s.current.ident ∧ t = s.advance := by
  rw [identifier, bind_eq_ok]
  constructor
  · rintro ⟨token, m, run, result⟩
    obtain ⟨here, rfl, rfl⟩ := require_eq_ok.mp run
    obtain ⟨rfl, rfl⟩ := pure_eq_ok.mp result
    exact ⟨here, rfl, rfl⟩
  · rintro ⟨here, rfl, rfl⟩
    exact ⟨s.current, s.advance, require_eq_ok.mpr ⟨here, rfl, rfl⟩, rfl⟩

/-! ## What carries an expression on -/

/-- Only field accesses, calls and operators carry an expression on. -/
theorem not_extends_of_precedence? {kind : TokenKind} (dot : kind ≠ .dot) (call : kind ≠ .lparen)
    (none : precedence? kind = none) : ¬ Extends kind := by
  rintro (h | h | rfl | ⟨n, operator⟩)
  · exact dot h
  · exact call h
  · cases none
  · rw [precedence?_eq_some_iff.mpr (.inr operator)] at none
    cases none

theorem not_extends_rparen : ¬ Extends .rparen :=
  not_extends_of_precedence? (by decide) (by decide) rfl

theorem not_extends_comma : ¬ Extends .comma :=
  not_extends_of_precedence? (by decide) (by decide) rfl

/-- Neither a field access nor a call comes next. -/
def NoSuffix (s : TokenStream) : Prop :=
  s.current.kind ≠ .dot ∧ s.current.kind ≠ .lparen

theorem noSuffix_of_precedence {s : TokenStream} {p : Nat}
    (precedence : precedence? s.current.kind = some p) : NoSuffix s := by
  constructor
  all_goals
    intro kind
    rw [kind] at precedence
    cases precedence

theorem noSuffix_of_not_extends {s : TokenStream} (stop : ¬ Extends s.current.kind) :
    NoSuffix s :=
  ⟨fun dot => stop (.inl dot), fun call => stop (.inr (.inl call))⟩

theorem precedence?_of_not_extends {s : TokenStream} (stop : ¬ Extends s.current.kind) :
    ∀ p, precedence? s.current.kind ≠ some p := by
  intro p precedence
  rcases precedence?_eq_some_iff.mp precedence with ⟨-, equals⟩ | operator
  · exact stop (.inr (.inr (.inl equals)))
  · exact stop (.inr (.inr (.inr ⟨p, operator⟩)))

/-! ## Suffixes -/

theorem suffixes_dot {depth : Nat} {left : Expr} {s : TokenStream} (kind : s.current.kind = .dot) :
    suffixes (depth + 1) left s =
      if left.isLocation then
        (identifier .fieldName >>= fun field => suffixes depth (.dot left.pos left field)) s.advance
      else (fail .accessOnValue : Parser Expr) s :=
  (ExprParsers.ofDepth depth).suffixesOf_dot kind

theorem suffixes_call {depth : Nat} {callee : Ident} {s : TokenStream}
    (kind : s.current.kind = .lparen) :
    suffixes (depth + 1) (.ident callee) s =
      (arguments depth >>= fun args => expect .rparen >>= fun _ =>
        suffixes depth (.call callee.pos callee callee.pos args)) s.advance :=
  (ExprParsers.ofDepth depth).suffixesOf_call kind callee

theorem exists_callee_of_suffixes {depth : Nat} {left e : Expr} {s t : TokenStream}
    (kind : s.current.kind = .lparen) (run : suffixes (depth + 1) left s = .ok e t) :
    ∃ callee, left = .ident callee := by
  refine Classical.byContradiction fun value => ?_
  have failed := (ExprParsers.ofDepth depth).suffixesOf_value kind (not_exists.mp value)
  exact absurd (failed.symm.trans run) fail_ne_ok

theorem suffixes_stop {depth : Nat} {left : Expr} {s : TokenStream} (stop : NoSuffix s) :
    suffixes (depth + 1) left s = .ok left s :=
  (ExprParsers.ofDepth depth).suffixesOf_stop stop.1 stop.2

/-! ## The operator loop -/

/-- No operator that binds as tightly as `minimum` comes next. -/
def Loose (minimum : Nat) (s : TokenStream) : Prop :=
  ∀ p, precedence? s.current.kind = some p → p < minimum

/-- An operand and the operators from `minimum` on that follow it. -/
def climb (depth minimum : Nat) : Parser Expr :=
  operandAt depth >>= operators depth minimum

theorem expressionAt_succ (depth : Nat) : expressionAt (depth + 1) = climb depth 0 := rfl

theorem operators_assign {depth : Nat} {left : Expr} {s : TokenStream}
    (equals : s.current.kind = .assign) (location : left.isLocation = true) :
    operators (depth + 1) 0 left s =
      (climb depth 0 >>= fun value => operators depth 0 (.assign left.pos left value))
        s.advance := by
  have found : operatorFrom 0 s.current = some 0 :=
    operatorFrom_eq_some_iff.mpr ⟨by rw [equals]; rfl, Nat.le_refl 0⟩
  rw [operators, current_bind, climb, bind_assoc]
  simp only [found, if_pos equals, if_pos location]
  rfl

theorem operators_binary {depth minimum n : Nat} {left : Expr} {s : TokenStream}
    (operator : s.current.kind ∈ operatorsAt n) (low : minimum ≤ n) :
    operators (depth + 1) minimum left s =
      (climb depth (n + 1) >>= fun right =>
        operators depth minimum (.binary left.pos left s.current.value right)) s.advance := by
  have found : operatorFrom minimum s.current = some n :=
    operatorFrom_eq_some_iff.mpr ⟨precedence?_eq_some_iff.mpr (.inr operator), low⟩
  have notEquals : s.current.kind ≠ .assign := by
    intro equals
    have positive := (level_le_of_mem_operatorsAt operator).1
    have none : precedence? s.current.kind = some 0 := by rw [equals]; rfl
    rw [precedence?_eq_some_iff.mpr (.inr operator), Option.some.injEq] at none
    omega
  rw [operators, current_bind, climb, bind_assoc]
  simp only [found, if_neg notEquals]
  rfl

theorem operators_stop {depth minimum : Nat} {left : Expr} {s : TokenStream}
    (loose : Loose minimum s) : operators (depth + 1) minimum left s = .ok left s := by
  have none : operatorFrom minimum s.current = none := operatorFrom_eq_none_iff.mpr loose
  rw [operators, current_bind]
  simp only [none]
  rfl

end Minim.Parser
