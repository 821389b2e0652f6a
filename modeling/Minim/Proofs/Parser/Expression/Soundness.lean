import Minim.Proofs.Parser.Expression.Steps

/-!
# Soundness of the expression parser

What a parser of expressions reads derives the tree that it returns. All of them recurse on the
depth that is left, and so do the proofs.
-/

namespace Minim.Parser

open Grammar

mutual

theorem primary_sound {depth : Nat} {s t : TokenStream} {e : Expr}
    (run : primary depth s = .ok e t) : ∃ u, s.Reads u t ∧ Unary u e := by
  cases depth with
  | zero => exact absurd run fail_ne_ok
  | succ depth =>
    rw [primary, current_bind] at run
    cases kind : s.current.kind with
    | integer =>
      simp only [kind] at run
      rw [advance_bind, pure_eq_ok] at run
      obtain ⟨rfl, rfl⟩ := run
      exact ⟨_, .single (by simp [kind]), .suffixed (.int kind)⟩
    | string =>
      simp only [kind] at run
      rw [advance_bind, pure_eq_ok] at run
      obtain ⟨rfl, rfl⟩ := run
      exact ⟨_, .single (by simp [kind]), .suffixed (.string kind)⟩
    | trueWord =>
      simp only [kind] at run
      rw [advance_bind, pure_eq_ok] at run
      obtain ⟨rfl, rfl⟩ := run
      exact ⟨_, .single (by simp [kind]), .suffixed (.yes kind)⟩
    | falseWord =>
      simp only [kind] at run
      rw [advance_bind, pure_eq_ok] at run
      obtain ⟨rfl, rfl⟩ := run
      exact ⟨_, .single (by simp [kind]), .suffixed (.no kind)⟩
    | identifier =>
      simp only [kind] at run
      obtain ⟨name, m, found, result⟩ := bind_eq_ok.mp run
      obtain ⟨-, rfl, rfl⟩ := identifier_eq_ok.mp found
      obtain ⟨rfl, rfl⟩ := pure_eq_ok.mp result
      exact ⟨_, .single (by simp [kind]), .suffixed (.ident kind)⟩
    | lparen =>
      simp only [kind] at run
      rw [advance_bind] at run
      obtain ⟨inner, m, innerRun, run⟩ := bind_eq_ok.mp run
      obtain ⟨closing, m', closingRun, result⟩ := bind_eq_ok.mp run
      obtain ⟨closes, rfl, rfl⟩ := expect_eq_ok.mp closingRun
      obtain ⟨rfl, rfl⟩ := pure_eq_ok.mp result
      obtain ⟨u, reads, derived, -⟩ := expressionAt_sound innerRun
      refine ⟨_, .cons (by simp [kind]) (reads.trans (.single (by simp [closes]))), ?_⟩
      exact .suffixed (.paren kind derived closes)
    | minus =>
      simp only [kind] at run
      rw [advance_bind] at run
      obtain ⟨operand, m, operandRun, result⟩ := bind_eq_ok.mp run
      obtain ⟨rfl, rfl⟩ := pure_eq_ok.mp result
      obtain ⟨u, reads, derived, -⟩ := operandAt_sound operandRun
      exact ⟨_, .cons (by simp [kind]) reads, .sign (.inl kind) derived⟩
    | notOp =>
      simp only [kind] at run
      rw [advance_bind] at run
      obtain ⟨operand, m, operandRun, result⟩ := bind_eq_ok.mp run
      obtain ⟨rfl, rfl⟩ := pure_eq_ok.mp result
      obtain ⟨u, reads, derived, -⟩ := operandAt_sound operandRun
      exact ⟨_, .cons (by simp [kind]) reads, .sign (.inr kind) derived⟩
    | _ =>
      simp only [kind] at run
      exact absurd run fail_ne_ok

theorem operandAt_sound {depth : Nat} {s t : TokenStream} {e : Expr}
    (run : operandAt depth s = .ok e t) : ∃ u, s.Reads u t ∧ Unary u e ∧ NoSuffix t := by
  cases depth with
  | zero => exact absurd run fail_ne_ok
  | succ depth =>
    rw [operandAt] at run
    obtain ⟨head, m, headRun, run⟩ := bind_eq_ok.mp run
    obtain ⟨u, reads, derived⟩ := primary_sound headRun
    obtain ⟨v, reads', derived', ends⟩ := suffixes_sound derived run
    exact ⟨u ++ v, reads.trans reads', derived', ends⟩

theorem suffixes_sound {depth : Nat} {s t : TokenStream} {w : List Token} {left e : Expr}
    (before : Unary w left) (run : suffixes depth left s = .ok e t) :
    ∃ u, s.Reads u t ∧ Unary (w ++ u) e ∧ NoSuffix t := by
  cases depth with
  | zero => exact absurd run fail_ne_ok
  | succ depth =>
    by_cases dot : s.current.kind = .dot
    · rw [suffixes_dot dot] at run
      by_cases location : left.isLocation = true
      · rw [if_pos location] at run
        obtain ⟨field, m, fieldRun, run⟩ := bind_eq_ok.mp run
        obtain ⟨isName, rfl, rfl⟩ := identifier_eq_ok.mp fieldRun
        have longer := Unary.suffixed
          (.dot (before.suffixed_of_isLocation location) location dot isName)
        obtain ⟨u, reads, derived, ends⟩ := suffixes_sound longer run
        refine ⟨_, .cons (by simp [dot]) (.cons (by simp [isName]) reads), ?_, ends⟩
        simpa using derived
      · rw [if_neg location] at run
        exact absurd run fail_ne_ok
    · by_cases opening : s.current.kind = .lparen
      · obtain ⟨callee, rfl⟩ := exists_callee_of_suffixes opening run
        rw [suffixes_call opening] at run
        obtain ⟨args, m, argsRun, run⟩ := bind_eq_ok.mp run
        obtain ⟨closing, m', closingRun, run⟩ := bind_eq_ok.mp run
        obtain ⟨closes, rfl, rfl⟩ := expect_eq_ok.mp closingRun
        obtain ⟨v, argsReads, argsDerived⟩ := arguments_sound argsRun
        have longer := Unary.suffixed
          (.call (before.suffixed_of_isLocation rfl) opening argsDerived closes)
        obtain ⟨u, reads, derived, ends⟩ := suffixes_sound longer run
        refine ⟨_, .cons (by simp [opening])
          (argsReads.trans (.cons (by simp [closes]) reads)), ?_, ends⟩
        simpa using derived
      · rw [suffixes_stop ⟨dot, opening⟩] at run
        cases run
        exact ⟨[], .refl _, by simpa using before, dot, opening⟩

theorem arguments_sound {depth : Nat} {s t : TokenStream} {es : List Expr}
    (run : arguments depth s = .ok es t) : ∃ u, s.Reads u t ∧ Args u es := by
  cases depth with
  | zero => exact absurd run fail_ne_ok
  | succ depth =>
    rw [arguments, current_bind] at run
    split at run
    case isTrue =>
      obtain ⟨rfl, rfl⟩ := pure_eq_ok.mp run
      exact ⟨[], .refl _, .none⟩
    case isFalse =>
      obtain ⟨first, m, firstRun, run⟩ := bind_eq_ok.mp run
      obtain ⟨others, m', othersRun, result⟩ := bind_eq_ok.mp run
      obtain ⟨rfl, rfl⟩ := pure_eq_ok.mp result
      obtain ⟨u, reads, derived, -⟩ := expressionAt_sound firstRun
      obtain ⟨v, reads', derived'⟩ := moreArguments_sound othersRun
      exact ⟨u ++ v, reads.trans reads', .some derived derived'⟩

theorem moreArguments_sound {depth : Nat} {s t : TokenStream} {es : List Expr}
    (run : moreArguments depth s = .ok es t) : ∃ u, s.Reads u t ∧ MoreArgs u es := by
  cases depth with
  | zero => exact absurd run fail_ne_ok
  | succ depth =>
    rw [moreArguments, accept_bind] at run
    split at run
    case isTrue comma =>
      simp only [if_true] at run
      obtain ⟨next, m, nextRun, run⟩ := bind_eq_ok.mp run
      obtain ⟨others, m', othersRun, result⟩ := bind_eq_ok.mp run
      obtain ⟨rfl, rfl⟩ := pure_eq_ok.mp result
      obtain ⟨u, reads, derived, -⟩ := expressionAt_sound nextRun
      obtain ⟨v, reads', derived'⟩ := moreArguments_sound othersRun
      exact ⟨_, .cons (by simp [comma]) (reads.trans reads'), .more comma derived derived'⟩
    case isFalse =>
      simp only [Bool.false_eq_true, if_false] at run
      obtain ⟨rfl, rfl⟩ := pure_eq_ok.mp run
      exact ⟨[], .refl _, .done⟩

/-- The invariant of the operator loop: what is read so far derives `left` at a level `n` that has
room for every operator that may come next. -/
theorem operators_sound {depth minimum n : Nat} {s t : TokenStream} {w : List Token}
    {left e : Expr} (before : Exp n w left) (level : n ≤ 7) (low : minimum ≤ n)
    (room : ∀ p, precedence? s.current.kind = some p → p ≤ n) (after : NoSuffix s)
    (run : operators depth minimum left s = .ok e t) :
    ∃ u, s.Reads u t ∧ Exp minimum (w ++ u) e ∧ Loose minimum t ∧ NoSuffix t := by
  cases depth with
  | zero => exact absurd run fail_ne_ok
  | succ depth =>
    rw [operators, current_bind] at run
    cases found : operatorFrom minimum s.current with
    | none =>
      simp only [found] at run
      obtain ⟨rfl, rfl⟩ := pure_eq_ok.mp run
      refine ⟨[], .refl _, ?_, operatorFrom_eq_none_iff.mp found, after⟩
      rw [List.append_nil]
      exact before.mono low level
    | some p =>
      simp only [found] at run
      obtain ⟨precedence, high⟩ := operatorFrom_eq_some_iff.mp found
      by_cases equals : s.current.kind = .assign
      · rw [if_pos equals] at run
        obtain rfl : 0 = p := by simpa [equals, precedence?] using precedence
        obtain rfl : minimum = 0 := Nat.le_zero.mp high
        by_cases location : left.isLocation = true
        · rw [if_pos location, advance_bind] at run
          obtain ⟨head, m, headRun, run⟩ := bind_eq_ok.mp run
          obtain ⟨value, m', valueRun, run⟩ := bind_eq_ok.mp run
          obtain ⟨u, reads, headDerived, headEnds⟩ := operandAt_sound headRun
          obtain ⟨v, reads', derived, loose, ends⟩ := operators_sound (headDerived.exp 7 (by omega))
            (by omega) (by omega) (fun p h => by have := precedence?_le h; omega) headEnds valueRun
          have longer := Exp.assign (before.suffixed_of_isLocation location) location equals derived
          obtain ⟨x, reads'', derived', loose', ends'⟩ := operators_sound longer (by omega)
            (by omega) (fun p h => Nat.le_of_lt (loose p h)) ends run
          refine ⟨_, .cons (by simp [equals]) ((reads.trans reads').trans reads''), ?_, loose',
            ends'⟩
          simpa using derived'
        · rw [if_neg location] at run
          exact absurd run failAt_ne_ok
      · rw [if_neg equals, advance_bind] at run
        obtain ⟨head, m, headRun, run⟩ := bind_eq_ok.mp run
        obtain ⟨right, m', rightRun, run⟩ := bind_eq_ok.mp run
        have operator : s.current.kind ∈ operatorsAt p := by
          rcases precedence?_eq_some_iff.mp precedence with ⟨-, assign⟩ | operator
          · exact absurd assign equals
          · exact operator
        obtain ⟨positive, bounded⟩ := level_le_of_mem_operatorsAt operator
        obtain ⟨u, reads, headDerived, headEnds⟩ := operandAt_sound headRun
        obtain ⟨v, reads', derived, loose, ends⟩ := operators_sound (headDerived.exp 7 (by omega))
          (by omega) (by omega) (fun p h => by have := precedence?_le h; omega) headEnds rightRun
        have longer := Exp.binary (before.mono (room p precedence) level) operator derived
        obtain ⟨x, reads'', derived', loose', ends'⟩ := operators_sound longer (by omega) high
          (fun q h => Nat.le_of_lt_succ (loose q h)) ends run
        refine ⟨_, .cons (fun eof => ?_) ((reads.trans reads').trans reads''), ?_, loose', ends'⟩
        · simp [eof, precedence?] at precedence
        · simpa using derived'

theorem expressionAt_sound {depth : Nat} {s t : TokenStream} {e : Expr}
    (run : expressionAt depth s = .ok e t) :
    ∃ u, s.Reads u t ∧ Exp 0 u e ∧ Loose 0 t ∧ NoSuffix t := by
  cases depth with
  | zero => exact absurd run fail_ne_ok
  | succ depth =>
    rw [expressionAt] at run
    obtain ⟨head, m, headRun, run⟩ := bind_eq_ok.mp run
    obtain ⟨u, reads, headDerived, headEnds⟩ := operandAt_sound headRun
    obtain ⟨v, reads', derived⟩ := operators_sound (headDerived.exp 7 (by omega)) (by omega)
      (by omega) (fun p h => by have := precedence?_le h; omega) headEnds run
    exact ⟨u ++ v, reads.trans reads', derived⟩

end

end Minim.Parser
