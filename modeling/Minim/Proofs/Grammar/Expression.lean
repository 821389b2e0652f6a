import Minim.Syntax

/-!
# The grammar of expressions

Expressions are stratified into levels. Level 0 has the assignments, which group to the right;
levels 1 to 6 have the binary operators, which group to the left, the loosest first; level 7 has
the signs and what they stand before. Each level holds the next one.

```
level 0     ::=  location '=' level 0  |  level 1
level n     ::=  level n  operator of n  level (n + 1)  |  level (n + 1)      (n = 1, …, 6)
level 7     ::=  unary
unary       ::=  ('-' | '!') unary  |  suffixed
suffixed    ::=  INTEGER | STRING | true | false | ID | '(' level 0 ')'
              |  location '.' ID  |  name '(' [level 0 {',' level 0}] ')'
```

A phrase derives a tree, positions included: a node stands where its first leaf does that is not a
parenthesis, and parentheses leave no node. What is assigned to, and what a field is taken from, is
a suffixed phrase whose tree is a location; what is called is one whose tree is a name.
-/

namespace Minim

/-- The identifier that a name token stands for. -/
def Token.ident (t : Token) : Ident := { pos := t.pos, value := t.value }

namespace Grammar

/-- The binary operators of a level. -/
def operatorsAt : Nat → List TokenKind
  | 1 => [.orOp]
  | 2 => [.andOp]
  | 3 => [.eq, .neq]
  | 4 => [.lt, .gt, .lte, .gte]
  | 5 => [.plus, .minus]
  | 6 => [.star, .slash]
  | _ => []

mutual

/-- Tokens that derive an expression of a level. -/
inductive Exp : Nat → List Token → Expr → Prop
  | assign {u v : List Token} {t : Token} {l r : Expr} (target : Suffixed u l)
      (location : l.isLocation = true) (equals : t.kind = .assign) (value : Exp 0 v r) :
      Exp 0 (u ++ t :: v) (.assign l.pos l r)
  | binary {n : Nat} {u v : List Token} {t : Token} {l r : Expr} (left : Exp n u l)
      (operator : t.kind ∈ operatorsAt n) (right : Exp (n + 1) v r) :
      Exp n (u ++ t :: v) (.binary l.pos l t.value r)
  | tighter {n : Nat} {u : List Token} {e : Expr} (level : n < 7) (inner : Exp (n + 1) u e) :
      Exp n u e
  | unary {u : List Token} {e : Expr} (inner : Unary u e) : Exp 7 u e

/-- Tokens that derive an operand with its signs. -/
inductive Unary : List Token → Expr → Prop
  | sign {t : Token} {u : List Token} {e : Expr} (sign : t.kind = .minus ∨ t.kind = .notOp)
      (operand : Unary u e) : Unary (t :: u) (.unary t.pos t.value e)
  | suffixed {u : List Token} {e : Expr} (inner : Suffixed u e) : Unary u e

/-- Tokens that derive an operand without signs. -/
inductive Suffixed : List Token → Expr → Prop
  | int {t : Token} (kind : t.kind = .integer) : Suffixed [t] (.int t.pos t.value)
  | string {t : Token} (kind : t.kind = .string) : Suffixed [t] (.string t.pos t.value)
  | yes {t : Token} (kind : t.kind = .trueWord) : Suffixed [t] (.bool t.pos true)
  | no {t : Token} (kind : t.kind = .falseWord) : Suffixed [t] (.bool t.pos false)
  | ident {t : Token} (kind : t.kind = .identifier) : Suffixed [t] (.ident t.ident)
  | paren {o c : Token} {u : List Token} {e : Expr} (opening : o.kind = .lparen)
      (inner : Exp 0 u e) (closing : c.kind = .rparen) : Suffixed (o :: (u ++ [c])) e
  | dot {u : List Token} {d f : Token} {l : Expr} (base : Suffixed u l)
      (location : l.isLocation = true) (dot : d.kind = .dot) (field : f.kind = .identifier) :
      Suffixed (u ++ [d, f]) (.dot l.pos l f.ident)
  | call {u v : List Token} {o c : Token} {callee : Ident} {es : List Expr}
      (function : Suffixed u (.ident callee)) (opening : o.kind = .lparen) (args : Args v es)
      (closing : c.kind = .rparen) :
      Suffixed (u ++ o :: (v ++ [c])) (.call callee.pos callee callee.pos es)

/-- Tokens that derive the arguments of a call. -/
inductive Args : List Token → List Expr → Prop
  | none : Args [] []
  | some {u v : List Token} {e : Expr} {es : List Expr} (first : Exp 0 u e)
      (others : MoreArgs v es) : Args (u ++ v) (e :: es)

/-- Tokens that derive the arguments after the first one. -/
inductive MoreArgs : List Token → List Expr → Prop
  | done : MoreArgs [] []
  | more {t : Token} {u v : List Token} {e : Expr} {es : List Expr} (comma : t.kind = .comma)
      (next : Exp 0 u e) (others : MoreArgs v es) : MoreArgs (t :: (u ++ v)) (e :: es)

end

/-- The kinds of tokens that carry an expression on. -/
def Extends (kind : TokenKind) : Prop :=
  kind = .dot ∨ kind = .lparen ∨ kind = .assign ∨ ∃ n, kind ∈ operatorsAt n

/-! ## Levels -/

theorem level_le_of_mem_operatorsAt {n : Nat} {kind : TokenKind} (h : kind ∈ operatorsAt n) :
    1 ≤ n ∧ n ≤ 6 := by
  unfold operatorsAt at h
  split at h <;> simp_all

/-- The binary operators, the loosest first. -/
def operators : List TokenKind :=
  [.orOp, .andOp, .eq, .neq, .lt, .gt, .lte, .gte, .plus, .minus, .star, .slash]

theorem mem_operators_of_mem_operatorsAt {n : Nat} {kind : TokenKind}
    (h : kind ∈ operatorsAt n) : kind ∈ operators := by
  unfold operatorsAt at h
  split at h <;> revert kind <;> decide

/-- A phrase of a level is one of every looser level. -/
theorem Exp.mono {m n : Nat} {u : List Token} {e : Expr} (h : Exp m u e) (le : n ≤ m)
    (level : m ≤ 7) : Exp n u e := by
  induction m with
  | zero =>
    obtain rfl : n = 0 := by omega
    exact h
  | succ m ih =>
    rcases Nat.lt_or_ge m n with lt | ge
    · obtain rfl : n = m + 1 := by omega
      exact h
    · exact ih (.tighter (by omega) h) ge (by omega)

theorem Unary.exp {u : List Token} {e : Expr} (h : Unary u e) (n : Nat) (level : n ≤ 7) :
    Exp n u e :=
  (Exp.unary h).mono level (Nat.le_refl 7)

theorem Unary.suffixed_of_isLocation {u : List Token} {e : Expr} (h : Unary u e)
    (location : e.isLocation = true) : Suffixed u e := by
  cases h with
  | sign => cases location
  | suffixed h => exact h

/-- A location is no operation, whatever the level at which it is read. -/
theorem Exp.suffixed_of_isLocation {n : Nat} {u : List Token} {e : Expr} (h : Exp n u e) :
    e.isLocation = true → Suffixed u e := by
  induction h using Exp.rec (motive_2 := fun _ _ _ => True) (motive_3 := fun _ _ _ => True)
    (motive_4 := fun _ _ _ => True) (motive_5 := fun _ _ _ => True) with
  | assign => exact nofun
  | binary => exact nofun
  | tighter _ _ ih => exact ih
  | unary inner => exact inner.suffixed_of_isLocation
  | _ => trivial

/-! ## First tokens -/

/-- The kinds of tokens that an expression begins with. -/
def starters : List TokenKind :=
  [.integer, .string, .trueWord, .falseWord, .identifier, .lparen, .minus, .notOp]

/-- Tokens that begin as an expression does. -/
def Begins (u : List Token) : Prop :=
  ∃ t w, u = t :: w ∧ t.kind ∈ starters

theorem Begins.append {u : List Token} (h : Begins u) (v : List Token) : Begins (u ++ v) := by
  obtain ⟨t, w, rfl, starts⟩ := h
  exact ⟨t, w ++ v, rfl, starts⟩

theorem Begins.of_kind {t : Token} {u : List Token} {kind : TokenKind} (h : t.kind = kind)
    (starts : kind ∈ starters) : Begins (t :: u) :=
  ⟨t, u, rfl, h ▸ starts⟩

theorem Begins.length_pos {u : List Token} (h : Begins u) : 0 < u.length := by
  obtain ⟨t, w, rfl, -⟩ := h
  exact Nat.succ_pos _

/-- An expression has a first token, of one of a few kinds. -/
theorem Exp.begins {n : Nat} {u : List Token} {e : Expr} (h : Exp n u e) : Begins u := by
  induction h using Exp.rec (motive_2 := fun u _ _ => Begins u)
    (motive_3 := fun u _ _ => Begins u) (motive_4 := fun _ _ _ => True)
    (motive_5 := fun _ _ _ => True) with
  | assign _ _ _ _ ih => exact ih.append _
  | binary _ _ _ ih => exact ih.append _
  | tighter _ _ ih => exact ih
  | unary _ ih => exact ih
  | sign sign => rcases sign with kind | kind <;> exact .of_kind kind (by decide)
  | suffixed _ ih => exact ih
  | int kind | string kind | yes kind | no kind | ident kind | paren kind =>
    exact .of_kind kind (by decide)
  | dot _ _ _ _ ih => exact ih.append _
  | call _ _ _ _ ih => exact ih.append _
  | none => trivial
  | some => trivial
  | done => trivial
  | more => trivial

theorem Unary.begins {u : List Token} {e : Expr} (h : Unary u e) : Begins u :=
  (Exp.unary h).begins

theorem Suffixed.begins {u : List Token} {e : Expr} (h : Suffixed u e) : Begins u :=
  (Unary.suffixed h).begins

/-! ## The end of a text -/

/-- No token is the end of a text. -/
def EndFree (u : List Token) : Prop :=
  ∀ t ∈ u, t.kind ≠ .eof

@[simp] theorem endFree_nil : EndFree [] :=
  nofun

@[simp] theorem endFree_cons {t : Token} {u : List Token} :
    EndFree (t :: u) ↔ t.kind ≠ .eof ∧ EndFree u :=
  List.forall_mem_cons

@[simp] theorem endFree_append {u v : List Token} : EndFree (u ++ v) ↔ EndFree u ∧ EndFree v :=
  List.forall_mem_append

theorem ne_eof_of_mem_operatorsAt {n : Nat} {kind : TokenKind} (h : kind ∈ operatorsAt n) :
    kind ≠ .eof := by
  rintro rfl
  exact absurd (mem_operators_of_mem_operatorsAt h) (by decide)

theorem Exp.endFree {n : Nat} {u : List Token} {e : Expr} (h : Exp n u e) : EndFree u := by
  induction h using Exp.rec (motive_2 := fun u _ _ => EndFree u)
    (motive_3 := fun u _ _ => EndFree u) (motive_4 := fun u _ _ => EndFree u)
    (motive_5 := fun u _ _ => EndFree u) with
  | assign _ _ equals _ ih ih' => simp [ih, ih', equals]
  | binary _ operator _ ih ih' => simp [ih, ih', ne_eof_of_mem_operatorsAt operator]
  | tighter _ _ ih => exact ih
  | unary _ ih => exact ih
  | sign sign _ ih => rcases sign with kind | kind <;> simp [ih, kind]
  | suffixed _ ih => exact ih
  | int kind | string kind | yes kind | no kind | ident kind => simp [kind]
  | paren opening _ closing ih => simp [ih, opening, closing]
  | dot _ _ dot field ih => simp [ih, dot, field]
  | call _ opening _ closing ih ih' => simp [ih, ih', opening, closing]
  | none => simp
  | some _ _ ih ih' => simp [ih, ih']
  | done => simp
  | more comma _ _ ih ih' => simp [ih, ih', comma]

theorem Unary.endFree {u : List Token} {e : Expr} (h : Unary u e) : EndFree u :=
  (Exp.unary h).endFree

end Grammar

end Minim
