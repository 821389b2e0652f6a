import Minim.Proofs.Parser.Statement

/-!
# How far parsers go

Whether it succeeds or fails, a parser goes over tokens of the text only, never over the token that
ends it, and an error is reported at a place that it reached.
-/

namespace Minim

open Grammar

/-! ## Places reached -/

namespace TokenStream

/-- From one place to another there are tokens of the text only, and no end of it. -/
def Passes (s t : TokenStream) : Prop :=
  ∃ u, s.Reads u t ∧ EndFree u

theorem Passes.refl (s : TokenStream) : s.Passes s :=
  ⟨[], .refl s, endFree_nil⟩

theorem Passes.trans {s m t : TokenStream} (h : s.Passes m) (h' : m.Passes t) : s.Passes t := by
  obtain ⟨u, reads, endFree⟩ := h
  obtain ⟨v, reads', endFree'⟩ := h'
  exact ⟨u ++ v, reads.trans reads', endFree_append.mpr ⟨endFree, endFree'⟩⟩

theorem Passes.advance {s : TokenStream} (notEnd : s.current.kind ≠ .eof) : s.Passes s.advance := by
  refine ⟨[s.current], .single notEnd, fun t mem => ?_⟩
  rwa [List.mem_singleton.mp mem]

theorem Passes.length_le {s t : TokenStream} (h : s.Passes t) : t.rest.length ≤ s.rest.length := by
  obtain ⟨u, reads, -⟩ := h
  rw [reads.length]
  omega

end TokenStream

namespace Parser

variable {α β : Type}

/-- What a parser gives from a place on: it has passed from there to where it stops, and an error
has the position of the token at a place that it passed. -/
def Within (s : TokenStream) : EStateM.Result ParseError TokenStream α → Prop
  | .ok _ t => s.Passes t
  | .error error t => s.Passes t ∧ ∃ m, s.Passes m ∧ error.pos = m.current.pos

/-- The parser goes over tokens of the text only, from wherever it starts. -/
def Keeps (p : Parser α) : Prop :=
  ∀ s, Within s (p s)

theorem Within.mono {s m : TokenStream} {r : EStateM.Result ParseError TokenStream α}
    (h : Within m r) (passes : s.Passes m) : Within s r := by
  cases r with
  | ok a t => exact passes.trans h
  | error error t =>
    obtain ⟨reached, m', passes', pos⟩ := h
    exact ⟨passes.trans reached, m', passes.trans passes', pos⟩

theorem Within.bind {s o : TokenStream} {p : Parser α} {f : α → Parser β} (h : Within o (p s))
    (h' : ∀ a t, p s = .ok a t → o.Passes t → Within o (f a t)) : Within o ((p >>= f) s) := by
  cases run : p s with
  | ok a t =>
    rw [run] at h
    rw [bind_of_ok run]
    exact h' a t run h
  | error error t =>
    rw [run] at h
    have failed : (p >>= f) s = .error error t := by
      show EStateM.bind p f s = _
      rw [EStateM.bind, run]
    rwa [failed]

namespace Keeps

theorem pure (a : α) : Keeps (pure a : Parser α) :=
  fun s => .refl s

theorem fail (fault : SyntaxFault) : Keeps (fail fault : Parser α) :=
  fun s => ⟨.refl s, s, .refl s, rfl⟩

theorem current : Keeps current :=
  fun s => .refl s

theorem get : Keeps (get : Parser TokenStream) :=
  fun s => .refl s

theorem bind {p : Parser α} {f : α → Parser β} (h : Keeps p) (h' : ∀ a, Keeps (f a)) :
    Keeps (p >>= f) :=
  fun s => (h s).bind fun a t _ passes => (h' a t).mono passes

/-- Moving on over a token that is not the end. -/
theorem advance {f : Unit → Parser α} (h : Keeps (f ())) {s : TokenStream}
    (notEnd : s.current.kind ≠ .eof) : Within s ((Parser.advance >>= f) s) :=
  (h s.advance).mono (.advance notEnd)

theorem take {wanted : TokenKind} (notEnd : wanted ≠ .eof) (fault : TokenKind → SyntaxFault) :
    Keeps (take wanted fault) := by
  intro s
  rw [Parser.take, current_bind]
  split
  · rename_i here
    exact (Keeps.pure s.current).advance (by rwa [here])
  · exact Keeps.fail _ s

theorem expect {wanted : TokenKind} (notEnd : wanted ≠ .eof) : Keeps (expect wanted) :=
  take notEnd _

theorem require {wanted : TokenKind} (notEnd : wanted ≠ .eof) (part : Missing) :
    Keeps (require wanted part) :=
  take notEnd _

theorem accept {wanted : TokenKind} (notEnd : wanted ≠ .eof) : Keeps (accept wanted) := by
  intro s
  rw [Parser.accept, current_bind]
  split
  · rename_i here
    exact (Keeps.pure true).advance (by rwa [here])
  · exact Keeps.pure false s

theorem identifier (part : Missing) : Keeps (identifier part) :=
  (require (by decide) part).bind fun _ => .pure _

theorem ite {p q : Parser α} {c : Prop} [Decidable c] (h : Keeps p) (h' : Keeps q) :
    Keeps (if c then p else q) := by
  split
  · exact h
  · exact h'

end Keeps

/-! ## Expressions -/

/-- All parsers of expressions go over tokens of the text only. -/
structure ExprParsers.Keep (p : ExprParsers) : Prop where
  primary : Keeps p.primary
  operand : Keeps p.operand
  suffixes : ∀ left, Keeps (p.suffixes left)
  arguments : Keeps p.arguments
  moreArguments : Keeps p.moreArguments
  operators : ∀ minimum left, Keeps (p.operators minimum left)
  expression : Keeps p.expression

namespace ExprParsers.Keep

variable {calls : ExprParsers} (h : calls.Keep)

include h

theorem primaryOf : Keeps calls.primaryOf := by
  intro s
  rw [ExprParsers.primaryOf, current_bind]
  cases kind : s.current.kind with
  | integer | string | trueWord | falseWord =>
    exact (Keeps.pure _).advance (by simp [kind])
  | identifier => exact (Keeps.identifier _).bind (fun _ => .pure _) s
  | lparen =>
    refine Keeps.advance ?_ (by simp [kind])
    exact h.expression.bind fun _ => (Keeps.expect (by decide)).bind fun _ => .pure _
  | minus | notOp => exact (h.operand.bind fun _ => .pure _).advance (by simp [kind])
  | _ => exact Keeps.fail _ s

theorem suffixesOf (left : Expr) : Keeps (calls.suffixesOf left) := by
  intro s
  by_cases dot : s.current.kind = .dot
  · rw [ExprParsers.suffixesOf_dot calls dot]
    split
    · have named := (Keeps.identifier .fieldName).bind fun field =>
        h.suffixes (.dot left.pos left field)
      exact (named s.advance).mono (.advance (by simp [dot]))
    · exact Keeps.fail _ s
  by_cases opening : s.current.kind = .lparen
  · by_cases name : ∃ callee, left = .ident callee
    · obtain ⟨callee, rfl⟩ := name
      rw [ExprParsers.suffixesOf_call calls opening]
      have closing : Keeps (Parser.expect .rparen) := .expect (by decide)
      have called := h.arguments.bind fun args => closing.bind fun _ =>
        h.suffixes (.call callee.pos callee callee.pos args)
      exact (called s.advance).mono (.advance (by simp [opening]))
    · rw [ExprParsers.suffixesOf_value calls opening (not_exists.mp name)]
      exact Keeps.fail _ s
  · rw [ExprParsers.suffixesOf_stop calls dot opening]
    exact Keeps.pure left s

theorem argumentsOf : Keeps calls.argumentsOf :=
  Keeps.current.bind fun _ => .ite (.pure _)
    (h.expression.bind fun _ => h.moreArguments.bind fun _ => .pure _)

theorem moreArgumentsOf : Keeps calls.moreArgumentsOf :=
  (Keeps.accept (by decide)).bind fun _ => .ite
    (h.expression.bind fun _ => h.moreArguments.bind fun _ => .pure _) (.pure _)

theorem operatorsOf (minimum : Nat) (left : Expr) : Keeps (calls.operatorsOf minimum left) := by
  intro s
  rw [ExprParsers.operatorsOf, current_bind]
  cases found : operatorFrom minimum s.current with
  | none => exact Keeps.pure _ s
  | some precedence =>
    have notEnd := kind_ne_eof_of_operatorFrom found
    have operands (precedence : Nat) (make : Expr → Expr) : Keeps (do
        let head ← calls.operand
        let right ← calls.operators precedence head
        calls.operators minimum (make right)) :=
      h.operand.bind fun _ => (h.operators _ _).bind fun _ => h.operators _ _
    by_cases equals : s.current.kind = .assign
    · by_cases location : left.isLocation = true
      · simp only [if_pos equals, if_pos location]
        exact (operands _ _).advance notEnd
      · simp only [if_pos equals, if_neg location]
        exact ⟨.refl s, s, .refl s, rfl⟩
    · simp only [if_neg equals]
      exact (operands _ _).advance notEnd

theorem next : calls.next.Keep where
  primary := h.primaryOf
  operand := h.primary.bind h.suffixes
  suffixes := h.suffixesOf
  arguments := h.argumentsOf
  moreArguments := h.moreArgumentsOf
  operators := h.operatorsOf
  expression := h.operand.bind (h.operators 0)

omit h

theorem ofDepth (depth : Nat) : (ofDepth depth).Keep := by
  induction depth with
  | zero =>
    have bottom {α : Type} : Keeps (do Parser.fail (.unexpected (← Parser.current)) : Parser α) :=
      Keeps.current.bind fun _ => .fail _
    exact ⟨bottom, bottom, fun _ => bottom, bottom, bottom, fun _ _ => bottom, bottom⟩
  | succ depth ih =>
    rw [ofDepth_succ]
    exact ih.next

end ExprParsers.Keep

theorem Keeps.expression : Keeps expression :=
  Keeps.get.bind fun s => (ExprParsers.Keep.ofDepth (depthFor s)).expression

theorem Keeps.location : Keeps location :=
  Keeps.get.bind fun s => (ExprParsers.Keep.ofDepth (depthFor s)).operand.bind fun _ =>
    .ite (.pure _) (.fail _)

/-! ## Statements -/

theorem Keeps.type : Keeps type := by
  intro s
  rw [Parser.type, current_bind]
  cases kind : s.current.kind with
  | intType | boolType | voidType => exact (Keeps.pure _).advance (by simp [kind])
  | structWord => exact ((Keeps.identifier _).bind fun _ => .pure _).advance (by simp [kind])
  | _ => exact Keeps.fail _ s

theorem Keeps.itemsWhile {begins : TokenStream → Bool} {item : Parser α} (h : Keeps item)
    (limit : Nat) : Keeps (itemsWhile begins item limit) := by
  induction limit with
  | zero => exact .pure _
  | succ limit ih =>
    exact Keeps.get.bind fun _ => .ite (h.bind fun _ => ih.bind fun _ => .pure _) (.pure _)

theorem Keeps.many {begins : TokenStream → Bool} {item : Parser α} (h : Keeps item) :
    Keeps (many begins item) :=
  Keeps.get.bind fun _ => h.itemsWhile _

theorem Keeps.variableDecl : Keeps variableDecl :=
  Keeps.type.bind fun _ => (Keeps.identifier _).bind fun _ =>
    (Keeps.require (by decide) _).bind fun _ => .pure _

theorem Keeps.variableDecls : Keeps variableDecls :=
  Keeps.current.bind fun _ => Keeps.variableDecl.many.bind fun _ => .pure _

theorem Keeps.blockOf {statement : Parser Stmt} (h : Keeps statement) : Keeps (blockOf statement) :=
  (Keeps.expect (by decide)).bind fun _ => Keeps.variableDecls.bind fun _ =>
    Keeps.current.bind fun _ => h.many.bind fun _ => (Keeps.expect (by decide)).bind fun _ =>
      .pure _

theorem Keeps.condition : Keeps condition :=
  (Keeps.expect (by decide)).bind fun _ => Keeps.expression.bind fun _ =>
    (Keeps.expect (by decide)).bind fun _ => .pure _

theorem Keeps.conditional {block : Parser Block} (h : Keeps block) : Keeps (conditional block) :=
  (Keeps.expect (by decide)).bind fun _ => Keeps.condition.bind fun _ => h.bind fun _ =>
    (Keeps.accept (by decide)).bind fun _ => .ite (h.bind fun _ => .pure _) (.pure _)

theorem Keeps.loop {block : Parser Block} (h : Keeps block) : Keeps (loop block) :=
  (Keeps.expect (by decide)).bind fun _ => Keeps.condition.bind fun _ => h.bind fun _ => .pure _

theorem Keeps.returnStatement : Keeps returnStatement :=
  (Keeps.expect (by decide)).bind fun _ => Keeps.current.bind fun _ => .ite
    ((Keeps.require (by decide) _).bind fun _ => .pure _)
    (Keeps.expression.bind fun _ => (Keeps.require (by decide) _).bind fun _ => .pure _)

/-- Counting up or down, or else a fault where the statement began. -/
theorem within_counting {s t : TokenStream} (passes : s.Passes t) (place : Expr) :
    Within s (counting s.current.pos place t) := by
  have counted (st : Stmt) (kind : t.current.kind ≠ .eof) : Within s
      ((Parser.advance >>= fun _ => Parser.expect .semicolon >>= fun _ =>
        (Pure.pure st : Parser Stmt)) t) :=
    (Keeps.advance ((Keeps.expect (by decide)).bind fun _ => .pure _) kind).mono passes
  have fault : Within s ((failAt s.current.pos (.missing .statement) : Parser Stmt) t) :=
    ⟨passes, s, .refl s, rfl⟩
  rw [counting, current_bind]
  cases place.isLocation with
  | false => exact fault
  | true =>
    cases kind : t.current.kind with
    | increment | decrement => exact counted _ (by simp [kind])
    | _ => exact fault

theorem Keeps.expressionStatement : Keeps expressionStatement := by
  intro s
  rw [Parser.expressionStatement, current_bind]
  refine (Keeps.expression s).bind fun e t _ passes => ?_
  have ended (part : Missing) (st : Stmt) : Within s
      ((Parser.require .semicolon part >>= fun _ => (Pure.pure st : Parser Stmt)) t) :=
    ((Keeps.require (by decide) part).bind (fun _ => .pure _) t).mono passes
  have counted : Within s (counting s.current.pos e t) := within_counting passes e
  cases e with
  | assign | call => exact ended _ _
  | _ => exact counted

theorem Keeps.readStatement {s : TokenStream} (notEnd : s.current.kind ≠ .eof) :
    Within s (readStatement s) := by
  rw [Parser.readStatement, current_bind]
  refine Keeps.advance ?_ notEnd
  exact (Keeps.require (by decide) _).bind fun _ => Keeps.location.bind fun _ =>
    (Keeps.require (by decide) _).bind fun _ => .pure _

theorem Keeps.writeStatement {s : TokenStream} (notEnd : s.current.kind ≠ .eof) :
    Within s (writeStatement s) := by
  rw [Parser.writeStatement, current_bind]
  refine Keeps.advance ?_ notEnd
  exact (Keeps.require (by decide) _).bind fun _ => Keeps.expression.bind fun _ =>
    (Keeps.require (by decide) _).bind fun _ => .pure _

theorem Keeps.statementOf {inner : Parser Stmt} (h : Keeps inner) : Keeps (statementOf inner) := by
  intro s
  rw [Parser.statementOf, current_bind]
  cases kind : s.current.kind with
  | ifWord => exact h.blockOf.conditional s
  | whileWord => exact h.blockOf.loop s
  | returnWord => exact Keeps.returnStatement s
  | inputWord => exact Keeps.readStatement (by simp [kind])
  | dispWord => exact Keeps.writeStatement (by simp [kind])
  | intType | boolType | voidType | structWord => exact Keeps.fail _ s
  | _ => exact Keeps.expressionStatement s

theorem Keeps.statementAt (depth : Nat) : Keeps (statementAt depth) := by
  induction depth with
  | zero => exact Keeps.current.bind fun _ => .fail _
  | succ depth ih =>
    rw [statementAt_succ]
    exact ih.statementOf

theorem Keeps.statement : Keeps statement :=
  Keeps.get.bind fun _ => .statementAt _

/-! ## Declarations -/

theorem Keeps.formal : Keeps formal :=
  Keeps.type.bind fun _ => (Keeps.identifier _).bind fun _ => .pure _

theorem Keeps.moreFormals (limit : Nat) : Keeps (moreFormals limit) := by
  induction limit with
  | zero => exact .pure _
  | succ limit ih =>
    exact (Keeps.accept (by decide)).bind fun _ => .ite
      (Keeps.formal.bind fun _ => ih.bind fun _ => .pure _) (.pure _)

theorem Keeps.formals : Keeps formals :=
  (Keeps.expect (by decide)).bind fun _ => Keeps.current.bind fun _ => .ite
    ((Keeps.expect (by decide)).bind fun _ => .pure _)
    (Keeps.formal.bind fun _ => Keeps.get.bind fun _ => (Keeps.moreFormals _).bind fun _ =>
      (Keeps.expect (by decide)).bind fun _ => .pure _)

theorem Keeps.structDecl : Keeps structDecl :=
  (Keeps.expect (by decide)).bind fun _ => (Keeps.identifier _).bind fun _ =>
    (Keeps.expect (by decide)).bind fun _ => Keeps.variableDecls.bind fun _ =>
      (Keeps.require (by decide) _).bind fun _ => (Keeps.accept (by decide)).bind fun _ => .pure _

theorem Keeps.functionRest (returnType : TypeExpr) (name : Ident) :
    Keeps (functionRest returnType name) :=
  Keeps.formals.bind fun _ => Keeps.current.bind fun _ => Keeps.statement.blockOf.bind fun _ =>
    .pure _

theorem Keeps.declaration : Keeps declaration :=
  Keeps.get.bind fun _ => .ite Keeps.structDecl <|
    Keeps.type.bind fun _ => (Keeps.identifier _).bind fun _ => Keeps.current.bind fun _ => .ite
      (Keeps.functionRest _ _) ((Keeps.require (by decide) _).bind fun _ => .pure _)

/-- **The parser stays before the end of the text.** -/
theorem Keeps.program : Keeps program :=
  Keeps.current.bind fun _ => Keeps.declaration.many.bind fun _ => .pure _

end Parser

end Minim
