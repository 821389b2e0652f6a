import Mathlib.Logic.Function.Iterate
import Minim.Proofs.Parser.Declaration
import Minim.Proofs.Parser.Reach

/-!
# The recursions of the parser come to an end

Every call of a parser by another one, and every round of a loop, leaves fewer tokens to be read, or
it is one of few that do not. So the calls come to an end before the depth is used up that the
parser starts with: if they are unfolded as often as the tokens ask for, what stands at the bottom
is never reached, and it may be anything.
-/

namespace Minim.Parser

open Grammar

variable {α β : Type}

/-- Unfolded often enough for the tokens that are left, a recursion gives the result, whatever
stands at its bottom. -/
def Settles {P : Type} (step : P → P) (run : P → Parser α) (enough : TokenStream → Nat)
    (result : Parser α) : Prop :=
  ∀ (bottom : P) (s : TokenStream) (n : Nat), enough s ≤ n → run (step^[n] bottom) s = result s

/-! ## Tokens that are left -/

/-- A success takes a token. -/
def Consumes (p : Parser α) : Prop :=
  ∀ ⦃s t : TokenStream⦄ ⦃a : α⦄, p s = .ok a t → t.rest.length < s.rest.length

theorem Consumes.of_nonempty {p : Parser α}
    (sound : ∀ {s t a}, p s = .ok a t → ∃ u, s.Reads u t ∧ u ≠ []) : Consumes p := by
  intro s t a run
  obtain ⟨u, reads, nonempty⟩ := sound run
  have positive := List.length_pos_iff.mpr nonempty
  rw [reads.length]
  omega

theorem Consumes.of_reads {F : List Token → α → Type} {p : Parser α}
    (nonempty : ∀ {u a}, F u a → u ≠ [])
    (sound : ∀ {s t a}, p s = .ok a t → ∃ u, s.Reads u t ∧ Nonempty (F u a)) : Consumes p := by
  refine .of_nonempty fun run => ?_
  obtain ⟨u, reads, ⟨derived⟩⟩ := sound run
  exact ⟨u, reads, nonempty derived⟩

theorem Consumes.of_begins {p : Parser α}
    (sound : ∀ {s t a}, p s = .ok a t → ∃ u, s.Reads u t ∧ Begins u) : Consumes p := by
  refine .of_nonempty fun run => ?_
  obtain ⟨u, reads, begins⟩ := sound run
  exact ⟨u, reads, List.length_pos_iff.mp begins.length_pos⟩

theorem primary_consumes (depth : Nat) : Consumes (Parser.primary depth) := by
  refine .of_begins fun run => ?_
  obtain ⟨u, reads, derived⟩ := primary_sound run
  exact ⟨u, reads, derived.begins⟩

theorem Keeps.length_le {p : Parser α} (h : Keeps p) {s t : TokenStream} {a : α}
    (run : p s = .ok a t) : t.rest.length ≤ s.rest.length := by
  have within := h s
  rw [run] at within
  exact within.length_le

/-- What follows may take more tokens, or none. -/
theorem Consumes.bind {p : Parser α} {f : α → Parser β} (h : Consumes p) (h' : ∀ a, Keeps (f a)) :
    Consumes (p >>= f) := by
  intro s t b run
  obtain ⟨a, m, first, others⟩ := bind_eq_ok.mp run
  exact Nat.lt_of_le_of_lt ((h' a).length_le others) (h first)

theorem length_advance {s : TokenStream} (notEnd : s.current.kind ≠ .eof) :
    s.rest.length = s.advance.rest.length + 1 := by
  have length := (TokenStream.Reads.single notEnd).length
  rw [List.length_singleton] at length
  omega

theorem take_consumes {wanted : TokenKind} (notEnd : wanted ≠ .eof)
    (fault : TokenKind → SyntaxFault) : Consumes (take wanted fault) := by
  intro s t token run
  obtain ⟨here, -, rfl⟩ := take_eq_ok.mp run
  have length := length_advance (s := s) (by rwa [here])
  omega

/-! ## Parsers that agree -/

theorem bind_congr_at {p q : Parser α} {f g : α → Parser β} {s : TokenStream} (first : p s = q s)
    (others : ∀ a t, q s = .ok a t → f a t = g a t) : (p >>= f) s = (q >>= g) s := by
  show EStateM.bind p f s = EStateM.bind q g s
  rw [EStateM.bind, EStateM.bind, first]
  cases run : q s with
  | ok a t => exact others a t run
  | error error t => rfl

theorem advance_congr {f g : Unit → Parser β} {s : TokenStream}
    (others : f () s.advance = g () s.advance) : (advance >>= f) s = (advance >>= g) s :=
  others

/-- Parsers of expressions agree wherever the tokens that are left leave them this much to unfold.
The numbers fall with every call: by one where the call is made at the same place, and a token that
is taken makes up for three. -/
structure ExprParsers.AgreeTo (n : Nat) (p q : ExprParsers) : Prop where
  primary : ∀ s, 3 * s.rest.length + 1 ≤ n → p.primary s = q.primary s
  operand : ∀ s, 3 * s.rest.length + 2 ≤ n → p.operand s = q.operand s
  suffixes : ∀ left s, 3 * s.rest.length + 2 ≤ n → p.suffixes left s = q.suffixes left s
  arguments : ∀ s, 3 * s.rest.length + 4 ≤ n → p.arguments s = q.arguments s
  moreArguments : ∀ s, 3 * s.rest.length + 1 ≤ n → p.moreArguments s = q.moreArguments s
  operators : ∀ minimum left s, 3 * s.rest.length + 1 ≤ n →
    p.operators minimum left s = q.operators minimum left s
  expression : ∀ s, 3 * s.rest.length + 3 ≤ n → p.expression s = q.expression s

namespace ExprParsers.AgreeTo

theorem zero (p q : ExprParsers) : AgreeTo 0 p q := by
  constructor <;> intros <;> omega

section Step

variable {n : Nat} {p q : ExprParsers} (h : AgreeTo n p q) (keep : q.Keep)

include h

theorem primaryOf {s : TokenStream} (enough : 3 * s.rest.length ≤ n) :
    p.primaryOf s = q.primaryOf s := by
  rw [ExprParsers.primaryOf, ExprParsers.primaryOf, current_bind, current_bind]
  cases kind : s.current.kind with
  | lparen =>
    have length := length_advance (s := s) (by simp [kind])
    exact advance_congr (bind_congr_at (h.expression s.advance (by omega)) fun _ _ _ => rfl)
  | minus | notOp =>
    have length := length_advance (s := s) (by simp [kind])
    exact advance_congr (bind_congr_at (h.operand s.advance (by omega)) fun _ _ _ => rfl)
  | _ => rfl

include keep

theorem suffixesOf {left : Expr} {s : TokenStream} (enough : 3 * s.rest.length + 1 ≤ n) :
    p.suffixesOf left s = q.suffixesOf left s := by
  by_cases dot : s.current.kind = .dot
  · rw [suffixesOf_dot p dot, suffixesOf_dot q dot]
    split
    · have length := length_advance (s := s) (by simp [dot])
      refine bind_congr_at rfl fun field t run => h.suffixes _ t ?_
      have := (Keeps.identifier _).length_le run
      omega
    · rfl
  by_cases opening : s.current.kind = .lparen
  · by_cases name : ∃ callee, left = .ident callee
    · obtain ⟨callee, rfl⟩ := name
      rw [suffixesOf_call p opening, suffixesOf_call q opening]
      have length := length_advance (s := s) (by simp [opening])
      refine bind_congr_at (h.arguments s.advance (by omega)) fun args t run => ?_
      refine bind_congr_at rfl fun closing t' run' => h.suffixes _ t' ?_
      have := keep.arguments.length_le run
      have := take_consumes (by decide) _ run'
      omega
    · rw [suffixesOf_value p opening (not_exists.mp name),
        suffixesOf_value q opening (not_exists.mp name)]
  · rw [suffixesOf_stop p dot opening, suffixesOf_stop q dot opening]

theorem argumentsOf {s : TokenStream} (enough : 3 * s.rest.length + 3 ≤ n) :
    p.argumentsOf s = q.argumentsOf s := by
  rw [ExprParsers.argumentsOf, ExprParsers.argumentsOf, current_bind, current_bind]
  split
  · rfl
  · refine bind_congr_at (h.expression s enough) fun first t run => ?_
    have := keep.expression.length_le run
    exact bind_congr_at (h.moreArguments t (by omega)) fun _ _ _ => rfl

theorem moreArgumentsOf {s : TokenStream} (enough : 3 * s.rest.length ≤ n) :
    p.moreArgumentsOf s = q.moreArgumentsOf s := by
  rw [ExprParsers.moreArgumentsOf, ExprParsers.moreArgumentsOf, accept_bind, accept_bind]
  split
  · rename_i comma
    have length := length_advance (s := s) (by simp [comma])
    refine bind_congr_at (h.expression s.advance (by omega)) fun next t run => ?_
    have := keep.expression.length_le run
    exact bind_congr_at (h.moreArguments t (by omega)) fun _ _ _ => rfl
  · rfl

theorem operatorsOf {minimum : Nat} {left : Expr} {s : TokenStream}
    (enough : 3 * s.rest.length ≤ n) :
    p.operatorsOf minimum left s = q.operatorsOf minimum left s := by
  rw [ExprParsers.operatorsOf, ExprParsers.operatorsOf, current_bind, current_bind]
  cases found : operatorFrom minimum s.current with
  | none => rfl
  | some precedence =>
    have notEnd := kind_ne_eof_of_operatorFrom found
    have length := length_advance notEnd
    have operands (precedence : Nat) (make : Expr → Expr) :
        (do
          let head ← p.operand
          let right ← p.operators precedence head
          p.operators minimum (make right)) s.advance =
        (do
          let head ← q.operand
          let right ← q.operators precedence head
          q.operators minimum (make right)) s.advance := by
      refine bind_congr_at (h.operand s.advance (by omega)) fun head t run => ?_
      have := keep.operand.length_le run
      refine bind_congr_at (h.operators _ _ t (by omega)) fun right t' run' => ?_
      have := (keep.operators _ _).length_le run'
      exact h.operators _ _ t' (by omega)
    by_cases equals : s.current.kind = .assign
    · by_cases location : left.isLocation = true
      · simp only [if_pos equals, if_pos location]
        exact operands _ _
      · simp only [if_pos equals, if_neg location]
    · simp only [if_neg equals]
      exact operands _ _

theorem next (consumes : Consumes q.primary) : AgreeTo (n + 1) p.next q.next where
  primary s enough := h.primaryOf (by omega)
  operand s enough := bind_congr_at (h.primary s (by omega)) fun head t run =>
    h.suffixes head t (by have := consumes run; omega)
  suffixes left s enough := h.suffixesOf keep (by omega)
  arguments s enough := h.argumentsOf keep (by omega)
  moreArguments s enough := h.moreArgumentsOf keep (by omega)
  operators minimum left s enough := h.operatorsOf keep (by omega)
  expression s enough := bind_congr_at (h.operand s (by omega)) fun head t run =>
    h.operators 0 head t (by have := keep.operand.length_le run; omega)

end Step

/-- Unfolded so often, the calls are those of the parsers that go down at least as deep. -/
theorem iterate (bottom : ExprParsers) {n depth : Nat} (deep : n ≤ depth) :
    AgreeTo n (ExprParsers.next^[n] bottom) (ofDepth depth) := by
  induction n generalizing depth with
  | zero => exact zero _ _
  | succ n ih =>
    obtain ⟨depth, rfl⟩ : ∃ d, depth = d + 1 := ⟨depth - 1, by omega⟩
    rw [Function.iterate_succ_apply', ofDepth_succ]
    exact (ih (by omega)).next (Keep.ofDepth depth) (primary_consumes depth)

end ExprParsers.AgreeTo

/-- Of an unfolding that goes deeper the lower part is the bottom. -/
theorem exists_bottom {P : Type} (step : P → P) (bottom : P) {n enough : Nat} (h : enough ≤ n) :
    ∃ bottom', step^[n] bottom = step^[enough] bottom' := by
  refine ⟨step^[n - enough] bottom, ?_⟩
  rw [← Function.iterate_add_apply, Nat.add_sub_cancel' h]

/-- The calls for a part of an expression come to an end if they settle within the depth that the
parser starts with. -/
theorem settles_of_agree {run : ExprParsers → Parser α} {more : Nat} (small : more ≤ 4)
    (agree : ∀ {n p q}, ExprParsers.AgreeTo n p q → ∀ s : TokenStream,
      3 * s.rest.length + more ≤ n → run p s = run q s) :
    Settles ExprParsers.next run (3 * ·.rest.length + more)
      (do run (.ofDepth (depthFor (← get)))) := by
  intro bottom s n enough
  obtain ⟨bottom', same⟩ := exists_bottom ExprParsers.next bottom enough
  rw [same]
  exact agree (.iterate bottom' (Nat.add_le_add_left small _)) s (Nat.le_refl _)

/-- **The calls for what an operand begins with come to an end.** -/
theorem primary_settles :
    Settles ExprParsers.next (·.primary) (3 * ·.rest.length + 1)
      (do Parser.primary (depthFor (← get))) :=
  settles_of_agree (by decide) (·.primary)

/-- **The calls for what follows an operand come to an end.** -/
theorem suffixes_settles (left : Expr) :
    Settles ExprParsers.next (·.suffixes left) (3 * ·.rest.length + 2)
      (do Parser.suffixes (depthFor (← get)) left) :=
  settles_of_agree (by decide) (·.suffixes left)

/-- **The calls for the operators after an operand come to an end.** -/
theorem operators_settles (minimum : Nat) (left : Expr) :
    Settles ExprParsers.next (·.operators minimum left) (3 * ·.rest.length + 1)
      (do Parser.operators (depthFor (← get)) minimum left) :=
  settles_of_agree (by decide) (·.operators minimum left)

/-! ## Loops and blocks -/

section Items

variable {begins : TokenStream → Bool} {item : Parser α}

end Items

section Statements

variable {p q : Parser Stmt} {s : TokenStream}

end Statements

theorem statement_sound {s t : TokenStream} {st : Stmt} (run : statement s = .ok st t) :
    ∃ u, s.Reads u t ∧ Nonempty (Statement u st) :=
  statementAt_sound (s.rest.length + 1) run

end Minim.Parser
