import Minim.Proofs.Grammar.Program
import Minim.Proofs.Syntax.WellFormed
import Minim.Proofs.Syntax.Words

/-!
# The words of a tree derive it

Tokens with the words of a well-formed tree derive a tree with the same erasure. An operand is
written as a suffixed phrase, whatever it is, so that it can stand at every level of the grammar.
-/

namespace Minim

open Lexeme Grammar

/-- The tokens have the given words. -/
def HaveWords (u : List Token) (words : List Content) : Prop :=
  u.map Token.content = words

namespace HaveWords

variable {u : List Token} {words more : List Content} {word : Content} {kind : TokenKind}

theorem cons (h : HaveWords u (word :: words)) :
    ∃ t v, u = t :: v ∧ t.content = word ∧ HaveWords v words :=
  List.map_eq_cons_iff.mp h

theorem append (h : HaveWords u (words ++ more)) :
    ∃ v w, u = v ++ w ∧ HaveWords v words ∧ HaveWords w more :=
  List.map_eq_append_iff.mp h

theorem nil (h : HaveWords u []) : u = [] :=
  List.map_eq_nil_iff.mp h

theorem singleton (h : HaveWords u [word]) : ∃ t, u = [t] ∧ t.content = word := by
  obtain ⟨t, v, rfl, content, rest⟩ := h.cons
  rw [rest.nil]
  exact ⟨t, rfl, content⟩

theorem enclosed {closing : Content} (h : HaveWords u (words ++ [closing])) :
    ∃ v t, u = v ++ [t] ∧ HaveWords v words ∧ t.content = closing := by
  obtain ⟨v, w, rfl, first, last⟩ := h.append
  obtain ⟨t, rfl, content⟩ := last.singleton
  exact ⟨v, t, rfl, first, content⟩

end HaveWords

theorem kind_of_fixed {t : Token} {kind : TokenKind} (h : t.content = fixed kind) :
    t.kind = kind :=
  congrArg Prod.fst h

theorem kind_of_nameWord {t : Token} {name : Ident} (h : t.content = name.nameWord) :
    t.kind = .identifier :=
  congrArg Prod.fst h

theorem erase_of_nameWord {t : Token} {name : Ident} (h : t.content = name.nameWord) :
    t.ident.erase = name.erase := by
  have value : t.value = name.value := congrArg Prod.snd h
  rw [Ident.erase, Ident.erase, Token.ident, value]

/-! ## Expressions -/

/-- The tokens derive an operand with the erasure of the expression. -/
def ReadBackAsOperand (u : List Token) (e : Expr) : Prop :=
  ∃ e', Suffixed u e' ∧ e'.erase = e.erase

/-- The tokens derive an expression with the erasure of the expression. -/
def ReadBack (u : List Token) (e : Expr) : Prop :=
  ∃ e', Exp 0 u e' ∧ e'.erase = e.erase

theorem ReadBackAsOperand.bare {u : List Token} {e : Expr} (h : ReadBackAsOperand u e) :
    ReadBack u e := by
  obtain ⟨e', derived, same⟩ := h
  exact ⟨e', (Unary.suffixed derived).exp 0 (Nat.zero_le 7), same⟩

theorem isLocation_of_erase {e e' : Expr} (same : e'.erase = e.erase)
    (location : e.isLocation = true) : e'.isLocation = true := by
  rw [← Expr.isLocation_erase, same, Expr.isLocation_erase, location]

/-- Only assignments are written otherwise inside an expression. -/
theorem Expr.words_of_isLocation {e : Expr} (location : e.isLocation = true) (nested : Bool) :
    e.words nested = e.words true := by
  cases e with
  | ident => rfl
  | dot => rfl
  | _ => cases location

theorem ReadBack.paren {u : List Token} {o c : Token} {e : Expr} (h : ReadBack u e)
    (opening : o.content = fixed .lparen) (closing : c.content = fixed .rparen) :
    ReadBackAsOperand (o :: (u ++ [c])) e := by
  obtain ⟨e', derived, same⟩ := h
  exact ⟨e', .paren (kind_of_fixed opening) derived (kind_of_fixed closing), same⟩

theorem ReadBack.assign {u v : List Token} {t : Token} {pos : Position} {target value : Expr}
    (location : target.isLocation = true) (left : ReadBackAsOperand u target)
    (equals : t.content = fixed .assign) (right : ReadBackAsOperand v value) :
    ReadBack (u ++ t :: v) (.assign pos target value) := by
  obtain ⟨target', leftDerived, leftSame⟩ := left
  obtain ⟨value', rightDerived, rightSame⟩ := right.bare
  refine ⟨_, .assign leftDerived (isLocation_of_erase leftSame location) (kind_of_fixed equals)
    rightDerived, ?_⟩
  rw [Expr.erase, Expr.erase, leftSame, rightSame]

theorem ReadBack.binary {u v : List Token} {t : Token} {n : Nat} {kind : TokenKind}
    (pos : Position) {left right : Expr} (mem : kind ∈ operatorsAt n)
    (leftRead : ReadBackAsOperand u left) (operator : t.content = fixed kind)
    (rightRead : ReadBackAsOperand v right) :
    ReadBack (u ++ t :: v) (.binary pos left (.text (spelling kind)) right) := by
  obtain ⟨left', leftDerived, leftSame⟩ := leftRead
  obtain ⟨right', rightDerived, rightSame⟩ := rightRead
  have level := level_le_of_mem_operatorsAt mem
  have isKind := kind_of_fixed operator
  have value : t.value = .text (spelling kind) := congrArg Prod.snd operator
  have derived := Exp.binary ((Unary.suffixed leftDerived).exp n (by omega)) (isKind ▸ mem)
    ((Unary.suffixed rightDerived).exp (n + 1) (by omega))
  refine ⟨_, derived.mono (Nat.zero_le n) (by omega), ?_⟩
  rw [Expr.erase, Expr.erase, leftSame, rightSame, value]

theorem ReadBack.unary {u : List Token} {t : Token} {kind : TokenKind} {pos : Position}
    {operand : Expr} (isSign : kind = .minus ∨ kind = .notOp) (sign : t.content = fixed kind)
    (operandRead : ReadBackAsOperand u operand) :
    ReadBack (t :: u) (.unary pos (.text (spelling kind)) operand) := by
  obtain ⟨operand', derived, same⟩ := operandRead
  have isKind := kind_of_fixed sign
  have value : t.value = .text (spelling kind) := congrArg Prod.snd sign
  refine ⟨_, (Unary.sign (isKind ▸ isSign) (.suffixed derived)).exp 0 (Nat.zero_le 7), ?_⟩
  rw [Expr.erase, Expr.erase, same, value]

mutual

/-- The words of an expression, as they stand inside another one, derive it. -/
theorem Expr.readBack (e : Expr) (h : e.WellFormed) {u : List Token}
    (spelled : HaveWords u (e.words true)) : ReadBackAsOperand u e := by
  cases e with
  | int pos value =>
    obtain ⟨t, rfl, content⟩ := spelled.singleton
    have same : t.value = value := congrArg Prod.snd content
    exact ⟨_, .int (congrArg Prod.fst content), by rw [Expr.erase, Expr.erase, same]⟩
  | string pos written =>
    obtain ⟨t, rfl, content⟩ := spelled.singleton
    have same : t.value = written := congrArg Prod.snd content
    exact ⟨_, .string (congrArg Prod.fst content), by rw [Expr.erase, Expr.erase, same]⟩
  | bool pos value =>
    obtain ⟨t, rfl, content⟩ := spelled.singleton
    cases value with
    | false => exact ⟨_, .no (kind_of_fixed content), rfl⟩
    | true => exact ⟨_, .yes (kind_of_fixed content), rfl⟩
  | ident name =>
    obtain ⟨t, rfl, content⟩ := spelled.singleton
    exact ⟨_, .ident (kind_of_nameWord content), by
      rw [Expr.erase, Expr.erase, erase_of_nameWord content]⟩
  | dot pos base field =>
    obtain ⟨location, baseFormed, fieldFormed⟩ := h
    obtain ⟨v, w, rfl, baseSpelled, rest⟩ := HaveWords.append spelled
    obtain ⟨d, w, rfl, dot, rest⟩ := rest.cons
    obtain ⟨f, rfl, isField⟩ := rest.singleton
    rw [Expr.words_of_isLocation location] at baseSpelled
    obtain ⟨base', derived, same⟩ := base.readBack baseFormed baseSpelled
    refine ⟨_, .dot derived (isLocation_of_erase same location) (kind_of_fixed dot)
      (kind_of_nameWord isField), ?_⟩
    rw [Expr.erase, Expr.erase, same, erase_of_nameWord isField]
  | assign pos target value =>
    obtain ⟨location, targetFormed, valueFormed⟩ := h
    obtain ⟨o, w, rfl, opening, rest⟩ := HaveWords.cons spelled
    obtain ⟨w, c, rfl, rest, closing⟩ := rest.enclosed
    obtain ⟨v, w, rfl, targetSpelled, rest⟩ := rest.append
    obtain ⟨t, w, rfl, equals, valueSpelled⟩ := rest.cons
    rw [Expr.words_of_isLocation location] at targetSpelled
    exact (ReadBack.assign location (target.readBack targetFormed targetSpelled) equals
      (value.readBack valueFormed valueSpelled)).paren opening closing
  | call pos callee argsPos args =>
    obtain ⟨calleeFormed, argsFormed⟩ := h
    obtain ⟨f, w, rfl, isCallee, rest⟩ := HaveWords.cons spelled
    obtain ⟨o, w, rfl, opening, rest⟩ := rest.cons
    obtain ⟨v, c, rfl, argsSpelled, closing⟩ := rest.enclosed
    obtain ⟨args', derived, same⟩ := Expr.readBackArgs args argsFormed argsSpelled
    refine ⟨_, .call (.ident (kind_of_nameWord isCallee)) (kind_of_fixed opening) derived
      (kind_of_fixed closing), ?_⟩
    rw [Expr.erase, Expr.erase, same, erase_of_nameWord isCallee]
  | unary pos op operand =>
    obtain ⟨sign, operandFormed⟩ := h
    obtain ⟨kind, isSign, rfl⟩ := exists_sign sign
    obtain ⟨o, w, rfl, opening, rest⟩ := HaveWords.cons spelled
    obtain ⟨t, w, rfl, isOperator, rest⟩ := rest.cons
    obtain ⟨v, c, rfl, operandSpelled, closing⟩ := rest.enclosed
    rw [operatorWord_of_hasSpelling (hasSpelling_of_sign isSign)] at isOperator
    exact (ReadBack.unary isSign isOperator
      (operand.readBack operandFormed operandSpelled)).paren opening closing
  | binary pos left op right =>
    obtain ⟨⟨n, kind, mem, rfl⟩, leftFormed, rightFormed⟩ := h
    obtain ⟨o, w, rfl, opening, rest⟩ := HaveWords.cons spelled
    obtain ⟨v, w, rfl, leftSpelled, rest⟩ := rest.append
    obtain ⟨t, w, rfl, isOperator, rest⟩ := rest.cons
    obtain ⟨w, c, rfl, rightSpelled, closing⟩ := rest.enclosed
    rw [operatorWord_of_hasSpelling (hasSpelling_of_mem_operatorsAt mem)] at isOperator
    have phrase := (ReadBack.binary pos mem (left.readBack leftFormed leftSpelled) isOperator
      (right.readBack rightFormed rightSpelled)).paren opening closing
    rwa [List.append_assoc, List.cons_append] at phrase

/-- The words of arguments derive them. -/
theorem Expr.readBackArgs (es : List Expr) (h : Expr.AllWellFormed es) {u : List Token}
    (spelled : HaveWords u (Expr.wordsArgs es)) :
    ∃ es', Args u es' ∧ Expr.eraseAll es' = Expr.eraseAll es := by
  cases es with
  | nil =>
    rw [HaveWords.nil spelled]
    exact ⟨[], .none, rfl⟩
  | cons e es =>
    obtain ⟨first, others⟩ := h
    cases es with
    | nil =>
      obtain ⟨e', derived, same⟩ := (e.readBack first spelled).bare
      have args := Args.some derived .done
      rw [List.append_nil] at args
      exact ⟨[e'], args, congrArg (· :: []) same⟩
    | cons next es =>
      rw [Expr.wordsArgs] at spelled
      · obtain ⟨v, w, rfl, firstSpelled, rest⟩ := spelled.append
        obtain ⟨t, w, rfl, comma, othersSpelled⟩ := rest.cons
        obtain ⟨e', derived, same⟩ := (e.readBack first firstSpelled).bare
        obtain ⟨es', othersDerived, othersSame⟩ :=
          Expr.readBackArgs (next :: es) others othersSpelled
        cases othersDerived with
        | none => cases othersSame
        | some nextDerived moreDerived =>
          exact ⟨_, .some derived (.more (kind_of_fixed comma) nextDerived moreDerived),
            congrArg₂ List.cons same othersSame⟩
      · exact nofun

end

/-- The words of an expression by itself derive it. -/
theorem Expr.readBackBare {e : Expr} (h : e.WellFormed) {u : List Token}
    (spelled : HaveWords u (e.words false)) : ReadBack u e := by
  cases e with
  | assign pos target value =>
    obtain ⟨location, targetFormed, valueFormed⟩ := h
    obtain ⟨v, w, rfl, targetSpelled, rest⟩ := HaveWords.append spelled
    obtain ⟨t, w, rfl, equals, valueSpelled⟩ := rest.cons
    rw [Expr.words_of_isLocation location] at targetSpelled
    exact .assign location (target.readBack targetFormed targetSpelled) equals
      (value.readBack valueFormed valueSpelled)
  | int | string | bool | ident | dot | call | unary | binary =>
    exact (Expr.readBack _ h spelled).bare

theorem Expr.readBackPlace {e : Expr} (h : e.isLocation = true ∧ e.WellFormed) {u : List Token}
    (spelled : HaveWords u (e.words false)) :
    ∃ e', Suffixed u e' ∧ e'.isLocation = true ∧ e'.erase = e.erase := by
  obtain ⟨location, formed⟩ := h
  rw [Expr.words_of_isLocation location] at spelled
  obtain ⟨e', derived, same⟩ := e.readBack formed spelled
  exact ⟨e', derived, isLocation_of_erase same location, same⟩

/-- The words of a counting statement: a location, the operator behind it and a semicolon. -/
theorem Expr.readBackCounted {place : Expr} (h : place.isLocation = true ∧ place.WellFormed)
    {operator : TokenKind} {u : List Token}
    (spelled : HaveWords u (place.words false ++ [fixed operator, fixed .semicolon])) :
    ∃ v o c place', u = v ++ [o, c] ∧ o.kind = operator ∧ c.kind = .semicolon ∧
      Exp 0 v place' ∧ place'.isLocation = true ∧ place'.erase = place.erase := by
  obtain ⟨v, w, rfl, placeSpelled, rest⟩ := spelled.append
  obtain ⟨o, w, rfl, isOperator, rest⟩ := rest.cons
  obtain ⟨c, rfl, semicolon⟩ := rest.singleton
  obtain ⟨place', derived, location, same⟩ := Expr.readBackPlace h placeSpelled
  exact ⟨v, o, c, place', rfl, kind_of_fixed isOperator, kind_of_fixed semicolon,
    (Unary.suffixed derived).exp 0 (Nat.zero_le 7), location, same⟩

/-- The words of a condition in parentheses behind its keyword, with more words behind it. -/
theorem Expr.readBackCondition {cond : Expr} (h : cond.WellFormed) {keyword : TokenKind}
    {more : List Content} {u : List Token}
    (spelled : HaveWords u
      (fixed keyword :: fixed .lparen :: (cond.words false ++ fixed .rparen :: more))) :
    ∃ k o v c w cond', u = k :: o :: (v ++ c :: w) ∧ k.kind = keyword ∧ o.kind = .lparen ∧
      c.kind = .rparen ∧ Exp 0 v cond' ∧ cond'.erase = cond.erase ∧ HaveWords w more := by
  obtain ⟨k, w, rfl, isKeyword, rest⟩ := spelled.cons
  obtain ⟨o, w, rfl, opening, rest⟩ := rest.cons
  obtain ⟨v, w, rfl, condSpelled, rest⟩ := rest.append
  obtain ⟨c, w, rfl, closing, rest⟩ := rest.cons
  obtain ⟨cond', derived, same⟩ := Expr.readBackBare h condSpelled
  exact ⟨k, o, v, c, w, cond', rfl, kind_of_fixed isKeyword, kind_of_fixed opening,
    kind_of_fixed closing, derived, same, rest⟩

/-! ## Types and variables -/

theorem TypeExpr.readBack {ty : TypeExpr} {u : List Token} (spelled : HaveWords u ty.words) :
    ∃ ty', Nonempty (TypeName u ty') ∧ ty'.erase = ty.erase := by
  cases ty with
  | int =>
    obtain ⟨t, rfl, content⟩ := spelled.singleton
    exact ⟨_, ⟨.int (kind_of_fixed content)⟩, rfl⟩
  | bool =>
    obtain ⟨t, rfl, content⟩ := spelled.singleton
    exact ⟨_, ⟨.bool (kind_of_fixed content)⟩, rfl⟩
  | void =>
    obtain ⟨t, rfl, content⟩ := spelled.singleton
    exact ⟨_, ⟨.void (kind_of_fixed content)⟩, rfl⟩
  | struct pos name =>
    obtain ⟨t, v, rfl, content, rest⟩ := HaveWords.cons spelled
    obtain ⟨n, rfl, isName⟩ := rest.singleton
    refine ⟨_, ⟨.struct (kind_of_fixed content) (kind_of_nameWord isName)⟩, ?_⟩
    rw [TypeExpr.erase, TypeExpr.erase, erase_of_nameWord isName]

theorem Decl.readBack_of_isVariable {d : Decl} (h : d.IsVariable) {u : List Token}
    (spelled : HaveWords u d.words) :
    ∃ d', Nonempty (Variable u d') ∧ d'.erase = d.erase := by
  cases d with
  | var pos ty name =>
    rw [Decl.words] at spelled
    obtain ⟨v, w, rfl, typeSpelled, rest⟩ := spelled.append
    obtain ⟨n, w, rfl, isName, rest⟩ := rest.cons
    obtain ⟨c, rfl, semicolon⟩ := rest.singleton
    obtain ⟨ty', ⟨written⟩, same⟩ := TypeExpr.readBack typeSpelled
    refine ⟨_, ⟨.mk written (kind_of_nameWord isName) (kind_of_fixed semicolon)⟩, ?_⟩
    rw [Decl.erase, Decl.erase, same, erase_of_nameWord isName]
  | func => cases h
  | struct => cases h

theorem Decl.readBackAll_of_isVariable {ds : List Decl} (h : ∀ d ∈ ds, d.IsVariable)
    {u : List Token} (spelled : HaveWords u (Decl.wordsAll ds)) :
    ∃ ds', Nonempty (Variables u ds') ∧ Decl.eraseAll ds' = Decl.eraseAll ds := by
  induction ds generalizing u with
  | nil =>
    rw [HaveWords.nil spelled]
    exact ⟨[], ⟨.nil⟩, rfl⟩
  | cons d ds ih =>
    obtain ⟨first, others⟩ := List.forall_mem_cons.mp h
    rw [Decl.wordsAll] at spelled
    obtain ⟨v, w, rfl, firstSpelled, othersSpelled⟩ := spelled.append
    obtain ⟨d', ⟨derived⟩, same⟩ := Decl.readBack_of_isVariable first firstSpelled
    obtain ⟨ds', ⟨othersDerived⟩, othersSame⟩ := ih others othersSpelled
    exact ⟨_, ⟨.cons derived othersDerived⟩, congrArg₂ List.cons same othersSame⟩

/-! ## Statements -/

mutual

/-- The words of a statement derive it. -/
theorem Stmt.readBack (st : Stmt) (h : st.WellFormed) {u : List Token}
    (spelled : HaveWords u st.words) :
    ∃ st', Nonempty (Statement u st') ∧ st'.erase = st.erase := by
  cases st with
  | assign pos assignment =>
    rw [Stmt.words] at spelled
    obtain ⟨v, c, rfl, expressionSpelled, semicolon⟩ := spelled.enclosed
    obtain ⟨e', derived, same⟩ := Expr.readBackBare h expressionSpelled
    cases e' with
    | assign pos' target' value' =>
      obtain ⟨-, sameTarget, sameValue⟩ := Expr.assign.inj same
      refine ⟨_, ⟨.assign derived (kind_of_fixed semicolon)⟩, ?_⟩
      rw [Stmt.erase, Stmt.erase, Assignment.erase, Assignment.erase, sameTarget, sameValue]
    | _ => cases same
  | call pos call =>
    rw [Stmt.words] at spelled
    obtain ⟨v, c, rfl, expressionSpelled, semicolon⟩ := spelled.enclosed
    obtain ⟨e', derived, same⟩ := Expr.readBackBare h expressionSpelled
    cases e' with
    | call pos' callee' argsPos' args' =>
      obtain ⟨-, sameCallee, -, sameArgs⟩ := Expr.call.inj same
      refine ⟨_, ⟨.call derived (kind_of_fixed semicolon)⟩, ?_⟩
      rw [Stmt.erase, Stmt.erase, Call.erase, Call.erase, sameCallee, sameArgs]
    | _ => cases same
  | increment pos place =>
    obtain ⟨v, o, c, place', rfl, operator, semicolon, derived, location, same⟩ :=
      Expr.readBackCounted h spelled
    refine ⟨_, ⟨.increment derived location operator semicolon⟩, ?_⟩
    rw [Stmt.erase, Stmt.erase, same]
  | decrement pos place =>
    obtain ⟨v, o, c, place', rfl, operator, semicolon, derived, location, same⟩ :=
      Expr.readBackCounted h spelled
    refine ⟨_, ⟨.decrement derived location operator semicolon⟩, ?_⟩
    rw [Stmt.erase, Stmt.erase, same]
  | read pos place =>
    rw [Stmt.words] at spelled
    obtain ⟨k, w, rfl, keyword, rest⟩ := spelled.cons
    obtain ⟨o, w, rfl, operator, rest⟩ := rest.cons
    obtain ⟨v, c, rfl, placeSpelled, semicolon⟩ := rest.enclosed
    obtain ⟨place', derived, location, same⟩ := Expr.readBackPlace h placeSpelled
    refine ⟨_, ⟨.read (kind_of_fixed keyword) (kind_of_fixed operator) (.suffixed derived) location
      (kind_of_fixed semicolon)⟩, ?_⟩
    rw [Stmt.erase, Stmt.erase, same]
  | write pos value =>
    rw [Stmt.words] at spelled
    obtain ⟨k, w, rfl, keyword, rest⟩ := spelled.cons
    obtain ⟨o, w, rfl, operator, rest⟩ := rest.cons
    obtain ⟨v, c, rfl, valueSpelled, semicolon⟩ := rest.enclosed
    obtain ⟨value', derived, same⟩ := Expr.readBackBare h valueSpelled
    refine ⟨_, ⟨.write (kind_of_fixed keyword) (kind_of_fixed operator) derived
      (kind_of_fixed semicolon)⟩, ?_⟩
    rw [Stmt.erase, Stmt.erase, same]
  | ret pos value =>
    cases value with
    | none =>
      rw [Stmt.words] at spelled
      obtain ⟨k, w, rfl, keyword, rest⟩ := spelled.cons
      obtain ⟨c, rfl, semicolon⟩ := rest.singleton
      exact ⟨_, ⟨.ret (kind_of_fixed keyword) (kind_of_fixed semicolon)⟩, rfl⟩
    | some value =>
      rw [Stmt.words] at spelled
      obtain ⟨k, w, rfl, keyword, rest⟩ := spelled.cons
      obtain ⟨v, c, rfl, valueSpelled, semicolon⟩ := rest.enclosed
      obtain ⟨value', derived, same⟩ := Expr.readBackBare (h value rfl) valueSpelled
      refine ⟨_, ⟨.retValue (kind_of_fixed keyword) derived (kind_of_fixed semicolon)⟩, ?_⟩
      rw [Stmt.erase, Stmt.erase, Option.map_some, Option.map_some, same]
  | ifThen pos cond body =>
    obtain ⟨k, o, v, c, w, cond', rfl, keyword, opening, closing, derived, condSame, rest⟩ :=
      Expr.readBackCondition h.1 spelled
    obtain ⟨body', ⟨bodyDerived⟩, bodySame⟩ := body.readBack h.2 rest
    refine ⟨_, ⟨.ifThen keyword opening derived closing bodyDerived⟩, ?_⟩
    rw [Stmt.erase, Stmt.erase, condSame, bodySame]
  | ifElse pos cond yes no =>
    obtain ⟨condFormed, yesFormed, noFormed⟩ := h
    obtain ⟨k, o, v, c, w, cond', rfl, keyword, opening, closing, derived, condSame, rest⟩ :=
      Expr.readBackCondition condFormed spelled
    obtain ⟨x, w, rfl, yesSpelled, rest⟩ := rest.append
    obtain ⟨l, w, rfl, otherwise, noSpelled⟩ := rest.cons
    obtain ⟨yes', ⟨yesDerived⟩, yesSame⟩ := yes.readBack yesFormed yesSpelled
    obtain ⟨no', ⟨noDerived⟩, noSame⟩ := no.readBack noFormed noSpelled
    refine ⟨_, ⟨.ifElse keyword opening derived closing yesDerived (kind_of_fixed otherwise)
      noDerived⟩, ?_⟩
    rw [Stmt.erase, Stmt.erase, condSame, yesSame, noSame]
  | loop pos cond body =>
    obtain ⟨k, o, v, c, w, cond', rfl, keyword, opening, closing, derived, condSame, rest⟩ :=
      Expr.readBackCondition h.1 spelled
    obtain ⟨body', ⟨bodyDerived⟩, bodySame⟩ := body.readBack h.2 rest
    refine ⟨_, ⟨.loop keyword opening derived closing bodyDerived⟩, ?_⟩
    rw [Stmt.erase, Stmt.erase, condSame, bodySame]

/-- The words of a block derive it. -/
theorem Block.readBack (b : Block) (h : b.WellFormed) {u : List Token}
    (spelled : HaveWords u b.words) :
    ∃ b', Nonempty (Grammar.Block u b') ∧ b'.erase = b.erase := by
  cases b with
  | mk declsPos decls stmtsPos stmts =>
    obtain ⟨declsFormed, stmtsFormed⟩ := h
    rw [Block.words] at spelled
    obtain ⟨o, w, rfl, opening, rest⟩ := spelled.cons
    obtain ⟨v, w, rfl, declsSpelled, rest⟩ := rest.append
    obtain ⟨w, c, rfl, stmtsSpelled, closing⟩ := rest.enclosed
    obtain ⟨decls', ⟨declsDerived⟩, declsSame⟩ :=
      Decl.readBackAll_of_isVariable declsFormed declsSpelled
    obtain ⟨stmts', ⟨stmtsDerived⟩, stmtsSame⟩ := Stmt.readBackAll stmts stmtsFormed stmtsSpelled
    refine ⟨_, ⟨.mk (kind_of_fixed opening) declsDerived stmtsDerived (kind_of_fixed closing)⟩, ?_⟩
    rw [Block.erase, Block.erase, declsSame, stmtsSame]

theorem Stmt.readBackAll (ss : List Stmt) (h : Stmt.AllWellFormed ss) {u : List Token}
    (spelled : HaveWords u (Stmt.wordsAll ss)) :
    ∃ ss', Nonempty (Statements u ss') ∧ Stmt.eraseAll ss' = Stmt.eraseAll ss := by
  cases ss with
  | nil =>
    rw [HaveWords.nil spelled]
    exact ⟨[], ⟨.nil⟩, rfl⟩
  | cons st ss =>
    obtain ⟨first, others⟩ := h
    rw [Stmt.wordsAll] at spelled
    obtain ⟨v, w, rfl, firstSpelled, othersSpelled⟩ := spelled.append
    obtain ⟨st', ⟨derived⟩, same⟩ := st.readBack first firstSpelled
    obtain ⟨ss', ⟨othersDerived⟩, othersSame⟩ := Stmt.readBackAll ss others othersSpelled
    exact ⟨_, ⟨.cons derived othersDerived⟩, congrArg₂ List.cons same othersSame⟩

end

/-! ## Declarations -/

theorem Formal.readBack {f : Formal} {u : List Token} (spelled : HaveWords u f.words) :
    ∃ f', Nonempty (Grammar.Formal u f') ∧ f'.erase = f.erase := by
  rw [Formal.words] at spelled
  obtain ⟨v, n, rfl, typeSpelled, isName⟩ := spelled.enclosed
  obtain ⟨ty', ⟨written⟩, same⟩ := TypeExpr.readBack typeSpelled
  refine ⟨_, ⟨.mk written (kind_of_nameWord isName)⟩, ?_⟩
  rw [Formal.erase, Formal.erase, same, erase_of_nameWord isName]

theorem Formal.readBackAll {fs : List Formal} {u : List Token}
    (spelled : HaveWords u (Formal.wordsAll fs)) :
    ∃ fs', Nonempty (FormalItems u fs') ∧ fs'.map Formal.erase = fs.map Formal.erase := by
  induction fs generalizing u with
  | nil =>
    rw [HaveWords.nil spelled]
    exact ⟨[], ⟨.none⟩, rfl⟩
  | cons f fs ih =>
    cases fs with
    | nil =>
      obtain ⟨f', ⟨derived⟩, same⟩ := Formal.readBack spelled
      have items := FormalItems.some derived .done
      rw [List.append_nil] at items
      exact ⟨[f'], ⟨items⟩, congrArg (· :: []) same⟩
    | cons next fs =>
      rw [Formal.wordsAll] at spelled
      · obtain ⟨v, w, rfl, firstSpelled, rest⟩ := spelled.append
        obtain ⟨t, w, rfl, comma, othersSpelled⟩ := rest.cons
        obtain ⟨f', ⟨derived⟩, same⟩ := Formal.readBack firstSpelled
        obtain ⟨fs', ⟨othersDerived⟩, othersSame⟩ := ih othersSpelled
        cases othersDerived with
        | none => cases othersSame
        | some nextDerived moreDerived =>
          exact ⟨_, ⟨.some derived (.more (kind_of_fixed comma) nextDerived moreDerived)⟩,
            congrArg₂ List.cons same othersSame⟩
      · exact nofun

/-- The words of a declaration derive it. -/
theorem Decl.readBack {d : Decl} (h : d.WellFormed) {u : List Token}
    (spelled : HaveWords u d.words) :
    ∃ d', Nonempty (Declaration u d') ∧ d'.erase = d.erase := by
  cases d with
  | var pos ty name =>
    obtain ⟨d', ⟨derived⟩, same⟩ := Decl.readBack_of_isVariable (d := .var pos ty name) h spelled
    exact ⟨d', ⟨.var derived⟩, same⟩
  | func pos returnType name formals bodyPos body =>
    obtain ⟨-, -, -, bodyFormed⟩ := h
    rw [Decl.words] at spelled
    obtain ⟨x, w, rfl, typeSpelled, rest⟩ := spelled.append
    obtain ⟨n, w, rfl, isName, rest⟩ := rest.cons
    obtain ⟨o, w, rfl, opening, rest⟩ := rest.cons
    obtain ⟨v, w, rfl, formalsSpelled, rest⟩ := rest.append
    obtain ⟨c, w, rfl, closing, bodySpelled⟩ := rest.cons
    obtain ⟨ty', ⟨written⟩, typeSame⟩ := TypeExpr.readBack typeSpelled
    obtain ⟨fs', ⟨formalsDerived⟩, formalsSame⟩ := Formal.readBackAll formalsSpelled
    obtain ⟨body', ⟨bodyDerived⟩, bodySame⟩ := body.readBack bodyFormed bodySpelled
    refine ⟨_, ⟨.func written (kind_of_nameWord isName) (kind_of_fixed opening) formalsDerived
      (kind_of_fixed closing) bodyDerived⟩, ?_⟩
    rw [Decl.erase, Decl.erase, typeSame, erase_of_nameWord isName, Formals.erase, Formals.erase,
      formalsSame, bodySame]
  | struct pos name fieldsPos fields =>
    obtain ⟨-, fieldsFormed⟩ := h
    rw [Decl.words] at spelled
    obtain ⟨k, w, rfl, keyword, rest⟩ := spelled.cons
    obtain ⟨n, w, rfl, isName, rest⟩ := rest.cons
    obtain ⟨o, w, rfl, opening, rest⟩ := rest.cons
    obtain ⟨v, w, rfl, fieldsSpelled, rest⟩ := rest.append
    obtain ⟨c, w, rfl, closing, rest⟩ := rest.cons
    obtain ⟨e, rfl, semicolon⟩ := rest.singleton
    obtain ⟨fields', ⟨fieldsDerived⟩, fieldsSame⟩ :=
      Decl.readBackAll_of_isVariable fieldsFormed fieldsSpelled
    refine ⟨_, ⟨.structEnded (kind_of_fixed keyword) (kind_of_nameWord isName)
      (kind_of_fixed opening) fieldsDerived (kind_of_fixed closing)
      (kind_of_fixed semicolon)⟩, ?_⟩
    rw [Decl.erase, Decl.erase, fieldsSame, erase_of_nameWord isName]

theorem Decl.readBackAll {ds : List Decl} (h : ∀ d ∈ ds, d.WellFormed) {u : List Token}
    (spelled : HaveWords u (Decl.wordsAll ds)) :
    ∃ ds', Nonempty (Declarations u ds') ∧ Decl.eraseAll ds' = Decl.eraseAll ds := by
  induction ds generalizing u with
  | nil =>
    rw [HaveWords.nil spelled]
    exact ⟨[], ⟨.nil⟩, rfl⟩
  | cons d ds ih =>
    obtain ⟨first, others⟩ := List.forall_mem_cons.mp h
    rw [Decl.wordsAll] at spelled
    obtain ⟨v, w, rfl, firstSpelled, othersSpelled⟩ := spelled.append
    obtain ⟨d', ⟨derived⟩, same⟩ := Decl.readBack first firstSpelled
    obtain ⟨ds', ⟨othersDerived⟩, othersSame⟩ := ih others othersSpelled
    exact ⟨_, ⟨.cons derived othersDerived⟩, congrArg₂ List.cons same othersSame⟩

/-- **The words of a program derive it.** -/
theorem Program.readBack {T : Program} (h : T.WellFormed) {u : List Token}
    (spelled : HaveWords u T.words) (next : Token) :
    ∃ T', Nonempty (Grammar.Program next u T') ∧ T'.erase = T.erase := by
  obtain ⟨ds', ⟨derived⟩, same⟩ := Decl.readBackAll h spelled
  refine ⟨_, ⟨.mk derived⟩, ?_⟩
  rw [Program.erase, Program.erase, same]

end Minim
