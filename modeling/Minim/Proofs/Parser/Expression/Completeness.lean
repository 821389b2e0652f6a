import Minim.Proofs.Parser.Expression.Steps

/-!
# Completeness of the expression parser

A phrase that derives a tree is read as that tree. The depth that a phrase takes is bounded by three
times its length. A left operand is not read to its end by a call of its own: the loop passes
through it, and what is said of it is the state in which the loop goes on after it.
-/

namespace Minim.Parser

open Grammar

/-- Any operator that comes next may follow a phrase of level `n` in a phrase of that level. -/
def Fits (n : Nat) (s : TokenStream) : Prop :=
  ∀ p, precedence? s.current.kind = some p → p ≤ n ∧ 0 < n

/-- The loop passes through the phrase and goes on with its tree. -/
def PassesThrough (n : Nat) (u : List Token) (e : Expr) : Prop :=
  ∀ ⦃s t : TokenStream⦄ ⦃depth minimum : Nat⦄, s.Reads u t → NoSuffix t → Fits n t →
    minimum ≤ n → 3 * u.length ≤ depth + 1 →
    ∃ depth', depth ≤ depth' + u.length ∧
      climb depth minimum s = operators depth' minimum e t

/-- The phrase is read as an operand. -/
def ReadAsOperand (u : List Token) (e : Expr) : Prop :=
  ∀ ⦃s t : TokenStream⦄ ⦃depth : Nat⦄, s.Reads u t → NoSuffix t → 3 * u.length ≤ depth + 1 →
    operandAt depth s = .ok e t

/-- The phrase is read as what suffixes may follow. -/
def ReadBeforeSuffixes (u : List Token) (e : Expr) : Prop :=
  ∀ ⦃s t : TokenStream⦄ ⦃depth : Nat⦄, s.Reads u t → 3 * u.length ≤ depth + 1 →
    ∃ depth', depth ≤ depth' + u.length ∧ operandAt depth s = suffixes depth' e t

/-- The phrase is read as the arguments of a call. -/
def ReadAsArguments (parser : Nat → Parser (List Expr)) (u : List Token) (es : List Expr) :
    Prop :=
  ∀ ⦃s t : TokenStream⦄ ⦃depth : Nat⦄, s.Reads u t → t.current.kind = .rparen →
    3 * u.length + 1 ≤ depth → parser depth s = .ok es t

theorem Fits.loose {n : Nat} {s : TokenStream} (fits : Fits n s) : Loose (n + 1) s :=
  fun p precedence => Nat.lt_succ_of_le (fits p precedence).1

theorem starter_of_reads {u : List Token} (begins : Begins u) {s t : TokenStream}
    (reads : s.Reads u t) : s.current.kind ∈ starters := by
  obtain ⟨a, w, rfl, starts⟩ := begins
  rwa [reads.head]

theorem PassesThrough.expressionAt {u : List Token} {e : Expr} (through : PassesThrough 0 u e)
    (begins : Begins u) {s t : TokenStream} {depth : Nat} (reads : s.Reads u t)
    (stop : ¬ Extends t.current.kind) (deep : 3 * u.length ≤ depth) :
    expressionAt depth s = .ok e t := by
  have positive := begins.length_pos
  have none := precedence?_of_not_extends stop
  obtain ⟨depth, rfl⟩ : ∃ d, depth = d + 1 := ⟨depth - 1, by omega⟩
  obtain ⟨depth', enough, run⟩ := through reads (noSuffix_of_not_extends stop)
    (fun p h => absurd h (none p)) (Nat.le_refl 0) deep
  obtain ⟨depth', rfl⟩ : ∃ d, depth' = d + 1 := ⟨depth' - 1, by omega⟩
  rw [expressionAt_succ, run, operators_stop fun p h => absurd h (none p)]

/-! ## Operands -/

theorem operandAt_of_primary {depth : Nat} {s t : TokenStream} {e : Expr}
    (run : primary depth s = .ok e t) : operandAt (depth + 1) s = suffixes depth e t :=
  bind_of_ok run _

theorem ReadBeforeSuffixes.leaf {a : Token} {e : Expr}
    (run : ∀ (s : TokenStream) (depth : Nat), s.current = a →
      primary (depth + 1) s = .ok e s.advance) : ReadBeforeSuffixes [a] e := by
  intro s t depth reads deep
  obtain ⟨here, rfl⟩ := reads.of_single
  obtain ⟨depth, rfl⟩ : ∃ d, depth = d + 2 := ⟨depth - 2, by simp at deep; omega⟩
  exact ⟨depth + 1, by simp, operandAt_of_primary (run s depth here)⟩

theorem ReadBeforeSuffixes.paren {o c : Token} {u : List Token} {e : Expr}
    (opening : o.kind = .lparen) (begins : Begins u) (inner : PassesThrough 0 u e)
    (closing : c.kind = .rparen) : ReadBeforeSuffixes (o :: (u ++ [c])) e := by
  intro s t depth reads deep
  simp only [List.length_cons, List.length_append, List.length_nil] at deep ⊢
  obtain ⟨depth, rfl⟩ : ∃ d, depth = d + 2 := ⟨depth - 2, by omega⟩
  obtain ⟨m, innerReads, closingReads⟩ := reads.tail.split
  obtain ⟨isClosing, rfl⟩ := closingReads.of_single
  have stop : ¬ Extends m.current.kind := by
    rw [isClosing, closing]
    exact not_extends_rparen
  have kind : s.current.kind = .lparen := by rw [reads.head, opening]
  refine ⟨depth + 1, by omega, operandAt_of_primary ?_⟩
  rw [primary, current_bind]
  simp only [kind]
  rw [advance_bind, bind_of_ok (inner.expressionAt begins innerReads stop (by omega)),
    bind_of_ok (expect_eq_ok.mpr ⟨by rw [isClosing, closing], rfl, rfl⟩)]
  rfl

theorem ReadBeforeSuffixes.dot {u : List Token} {d f : Token} {l : Expr}
    (base : ReadBeforeSuffixes u l) (begins : Begins u) (location : l.isLocation = true)
    (dot : d.kind = .dot) (field : f.kind = .identifier) :
    ReadBeforeSuffixes (u ++ [d, f]) (.dot l.pos l f.ident) := by
  intro s t depth reads deep
  have positive := begins.length_pos
  simp only [List.length_append, List.length_cons, List.length_nil] at deep ⊢
  obtain ⟨m, baseReads, fieldReads⟩ := reads.split
  obtain ⟨isField, rfl⟩ := fieldReads.tail.of_single
  obtain ⟨depth', enough, run⟩ := base baseReads (show 3 * _ ≤ depth + 1 by omega)
  obtain ⟨depth', rfl⟩ : ∃ d, depth' = d + 1 := ⟨depth' - 1, by omega⟩
  refine ⟨depth', by omega, ?_⟩
  rw [run, suffixes_dot (by rw [fieldReads.head, dot]), if_pos location,
    bind_of_ok (identifier_eq_ok.mpr ⟨by rw [isField, field], rfl, rfl⟩), isField]

theorem ReadBeforeSuffixes.call {u v : List Token} {o c : Token} {callee : Ident}
    {es : List Expr} (function : ReadBeforeSuffixes u (.ident callee)) (begins : Begins u)
    (opening : o.kind = .lparen) (args : ReadAsArguments arguments v es)
    (closing : c.kind = .rparen) :
    ReadBeforeSuffixes (u ++ o :: (v ++ [c])) (.call callee.pos callee callee.pos es) := by
  intro s t depth reads deep
  have positive := begins.length_pos
  simp only [List.length_append, List.length_cons, List.length_nil] at deep ⊢
  obtain ⟨m, functionReads, callReads⟩ := reads.split
  obtain ⟨m', argsReads, closingReads⟩ := callReads.tail.split
  obtain ⟨isClosing, rfl⟩ := closingReads.of_single
  have closes : m'.current.kind = .rparen := by rw [isClosing, closing]
  obtain ⟨depth', enough, run⟩ := function functionReads (show 3 * _ ≤ depth + 1 by omega)
  obtain ⟨depth', rfl⟩ : ∃ d, depth' = d + 1 := ⟨depth' - 1, by omega⟩
  refine ⟨depth', by omega, ?_⟩
  rw [run, suffixes_call (by rw [callReads.head, opening]),
    bind_of_ok (args argsReads closes (by omega)),
    bind_of_ok (expect_eq_ok.mpr ⟨closes, rfl, rfl⟩)]

theorem ReadAsOperand.of_suffixes {u : List Token} {e : Expr} (inner : ReadBeforeSuffixes u e)
    (begins : Begins u) : ReadAsOperand u e := by
  intro s t depth reads stop deep
  have positive := begins.length_pos
  obtain ⟨depth', enough, run⟩ := inner reads deep
  obtain ⟨depth', rfl⟩ : ∃ d, depth' = d + 1 := ⟨depth' - 1, by omega⟩
  rw [run, suffixes_stop stop]

theorem ReadAsOperand.sign {a : Token} {u : List Token} {e : Expr}
    (sign : a.kind = .minus ∨ a.kind = .notOp) (operand : ReadAsOperand u e) :
    ReadAsOperand (a :: u) (.unary a.pos a.value e) := by
  intro s t depth reads stop deep
  rw [List.length_cons] at deep
  obtain ⟨depth, rfl⟩ : ∃ d, depth = d + 2 := ⟨depth - 2, by omega⟩
  have run : primary (depth + 1) s = .ok (.unary a.pos a.value e) t := by
    have operandRun := operand reads.tail stop (show 3 * _ ≤ depth + 1 by omega)
    rw [primary, current_bind]
    rcases sign with kind | kind
    all_goals
      rw [← reads.head] at kind
      simp only [kind]
      rw [advance_bind, bind_of_ok operandRun, reads.head]
      rfl
  rw [operandAt_of_primary run, suffixes_stop stop]

/-! ## Arguments -/

theorem not_extends_of_moreArgs {v : List Token} {es : List Expr} (h : MoreArgs v es)
    {s t : TokenStream} (reads : s.Reads v t) (closes : t.current.kind = .rparen) :
    ¬ Extends s.current.kind := by
  cases h with
  | done =>
    rw [← reads.eq_nil, closes]
    exact not_extends_rparen
  | more comma =>
    rw [reads.head, comma]
    exact not_extends_comma

theorem ReadAsArguments.none : ReadAsArguments arguments [] [] := by
  intro s t depth reads closes deep
  obtain ⟨depth, rfl⟩ : ∃ d, depth = d + 1 := ⟨depth - 1, by simp at deep; omega⟩
  obtain rfl := reads.eq_nil
  rw [arguments, current_bind, if_pos closes]
  rfl

theorem ReadAsArguments.some {u v : List Token} {e : Expr} {es : List Expr}
    (first : PassesThrough 0 u e) (begins : Begins u) (others : MoreArgs v es)
    (othersRead : ReadAsArguments moreArguments v es) :
    ReadAsArguments arguments (u ++ v) (e :: es) := by
  intro s t depth reads closes deep
  have positive := begins.length_pos
  rw [List.length_append] at deep
  obtain ⟨depth, rfl⟩ : ∃ d, depth = d + 1 := ⟨depth - 1, by omega⟩
  obtain ⟨m, firstReads, othersReads⟩ := reads.split
  have notClosing : s.current.kind ≠ .rparen := by
    intro kind
    have starts := starter_of_reads begins firstReads
    rw [kind] at starts
    exact absurd starts (by decide)
  rw [arguments, current_bind, if_neg notClosing,
    bind_of_ok (first.expressionAt begins firstReads
      (not_extends_of_moreArgs others othersReads closes) (by omega)),
    bind_of_ok (othersRead othersReads closes (by omega))]
  rfl

theorem ReadAsArguments.done : ReadAsArguments moreArguments [] [] := by
  intro s t depth reads closes deep
  obtain ⟨depth, rfl⟩ : ∃ d, depth = d + 1 := ⟨depth - 1, by simp at deep; omega⟩
  obtain rfl := reads.eq_nil
  rw [moreArguments, accept_bind, if_neg (by rw [closes]; decide)]
  rfl

theorem ReadAsArguments.more {a : Token} {u v : List Token} {e : Expr} {es : List Expr}
    (comma : a.kind = .comma) (next : PassesThrough 0 u e) (begins : Begins u)
    (others : MoreArgs v es) (othersRead : ReadAsArguments moreArguments v es) :
    ReadAsArguments moreArguments (a :: (u ++ v)) (e :: es) := by
  intro s t depth reads closes deep
  rw [List.length_cons, List.length_append] at deep
  obtain ⟨depth, rfl⟩ : ∃ d, depth = d + 1 := ⟨depth - 1, by omega⟩
  obtain ⟨m, nextReads, othersReads⟩ := reads.tail.split
  rw [moreArguments, accept_bind, if_pos (by rw [reads.head, comma]), if_pos rfl,
    bind_of_ok (next.expressionAt begins nextReads
      (not_extends_of_moreArgs others othersReads closes) (by omega)),
    bind_of_ok (othersRead othersReads closes (by omega))]
  rfl

/-! ## Levels -/

theorem PassesThrough.unary {u : List Token} {e : Expr} (inner : ReadAsOperand u e) :
    PassesThrough 7 u e := by
  intro s t depth minimum reads stop _ _ deep
  exact ⟨depth, by omega, bind_of_ok (inner reads stop deep) _⟩

theorem PassesThrough.tighter {n : Nat} {u : List Token} {e : Expr}
    (inner : PassesThrough (n + 1) u e) : PassesThrough n u e := by
  intro s t depth minimum reads stop fits low deep
  refine inner reads stop (fun p precedence => ?_) (by omega) deep
  have := fits p precedence
  omega

theorem PassesThrough.binary {n : Nat} {u v : List Token} {a : Token} {l r : Expr}
    (left : PassesThrough n u l) (beginsLeft : Begins u) (operator : a.kind ∈ operatorsAt n)
    (right : PassesThrough (n + 1) v r) (beginsRight : Begins v) :
    PassesThrough n (u ++ a :: v) (.binary l.pos l a.value r) := by
  intro s t depth minimum reads stop fits low deep
  have positive := beginsLeft.length_pos
  have positive' := beginsRight.length_pos
  have level := (level_le_of_mem_operatorsAt operator).1
  simp only [List.length_append, List.length_cons] at deep ⊢
  obtain ⟨m, leftReads, operatorReads⟩ := reads.split
  have here : m.current.kind ∈ operatorsAt n := by rwa [operatorReads.head]
  have precedence := precedence?_eq_some_iff.mpr (.inr here)
  have fitsLeft : Fits n m := by
    intro p found
    rw [precedence, Option.some.injEq] at found
    omega
  obtain ⟨depth', enough, run⟩ :=
    left leftReads (noSuffix_of_precedence precedence) fitsLeft low
      (show 3 * _ ≤ depth + 1 by omega)
  obtain ⟨depth', rfl⟩ : ∃ d, depth' = d + 1 := ⟨depth' - 1, by omega⟩
  have fitsRight : Fits (n + 1) t := by
    intro p found
    have := fits p found
    omega
  obtain ⟨depth'', enough', run'⟩ :=
    right operatorReads.tail stop fitsRight (Nat.le_refl _) (show 3 * _ ≤ depth' + 1 by omega)
  obtain ⟨depth'', rfl⟩ : ∃ d, depth'' = d + 1 := ⟨depth'' - 1, by omega⟩
  refine ⟨depth', by omega, ?_⟩
  rw [run, operators_binary here low, bind_of_ok (run'.trans (operators_stop fits.loose)),
    operatorReads.head]

theorem PassesThrough.assign {u v : List Token} {a : Token} {l r : Expr}
    (target : ReadBeforeSuffixes u l) (beginsLeft : Begins u) (location : l.isLocation = true)
    (equals : a.kind = .assign) (value : PassesThrough 0 v r) (beginsRight : Begins v) :
    PassesThrough 0 (u ++ a :: v) (.assign l.pos l r) := by
  intro s t depth minimum reads stop fits low deep
  have positive := beginsLeft.length_pos
  have positive' := beginsRight.length_pos
  simp only [List.length_append, List.length_cons] at deep ⊢
  obtain rfl : minimum = 0 := Nat.le_zero.mp low
  obtain ⟨m, leftReads, equalsReads⟩ := reads.split
  have here : m.current.kind = .assign := by rw [equalsReads.head, equals]
  have precedence : precedence? m.current.kind = some 0 := by rw [here]; rfl
  have run : climb depth 0 s = operators depth 0 l m :=
    bind_of_ok (ReadAsOperand.of_suffixes target beginsLeft leftReads
      (noSuffix_of_precedence precedence) (by omega)) _
  obtain ⟨depth, rfl⟩ : ∃ d, depth = d + 1 := ⟨depth - 1, by omega⟩
  obtain ⟨depth', enough, run'⟩ :=
    value equalsReads.tail stop fits (Nat.le_refl 0) (show 3 * _ ≤ depth + 1 by omega)
  obtain ⟨depth', rfl⟩ : ∃ d, depth' = d + 1 := ⟨depth' - 1, by omega⟩
  have loose : Loose 0 t := by
    intro p found
    have := fits p found
    omega
  refine ⟨depth, by omega, ?_⟩
  rw [run, operators_assign here location, bind_of_ok (run'.trans (operators_stop loose))]

/-! ## Phrases -/

/-- **Every phrase is read**, whatever the level at which it derives its tree. -/
theorem passesThrough_of_exp {n : Nat} {u : List Token} {e : Expr} (h : Exp n u e) :
    PassesThrough n u e := by
  induction h using Exp.rec (motive_2 := fun u e _ => ReadAsOperand u e)
    (motive_3 := fun u e _ => ReadBeforeSuffixes u e)
    (motive_4 := fun u es _ => ReadAsArguments arguments u es)
    (motive_5 := fun u es _ => ReadAsArguments moreArguments u es) with
  | assign target location equals value ihTarget ihValue =>
    exact .assign ihTarget target.begins location equals ihValue value.begins
  | binary left operator right ihLeft ihRight =>
    exact .binary ihLeft left.begins operator ihRight right.begins
  | tighter _ _ ih => exact ih.tighter
  | unary _ ih => exact .unary ih
  | sign sign _ ih => exact .sign sign ih
  | suffixed inner ih => exact .of_suffixes ih inner.begins
  | int kind =>
    refine .leaf fun s depth here => ?_
    subst here
    rw [primary, current_bind]
    simp only [kind]
    rfl
  | string kind =>
    refine .leaf fun s depth here => ?_
    subst here
    rw [primary, current_bind]
    simp only [kind]
    rfl
  | yes kind =>
    refine .leaf fun s depth here => ?_
    subst here
    rw [primary, current_bind]
    simp only [kind]
    rfl
  | no kind =>
    refine .leaf fun s depth here => ?_
    subst here
    rw [primary, current_bind]
    simp only [kind]
    rfl
  | ident kind =>
    refine .leaf fun s depth here => ?_
    subst here
    rw [primary, current_bind]
    simp only [kind]
    rw [bind_of_ok (identifier_eq_ok.mpr ⟨kind, rfl, rfl⟩)]
    rfl
  | paren opening inner closing ih => exact .paren opening inner.begins ih closing
  | dot base location dot field ih => exact .dot ih base.begins location dot field
  | call function opening _ closing ihFunction ihArgs =>
    exact .call ihFunction function.begins opening ihArgs closing
  | none => exact .none
  | some first others ihFirst ihOthers => exact .some ihFirst first.begins others ihOthers
  | done => exact .done
  | more comma next others ihNext ihOthers => exact .more comma ihNext next.begins others ihOthers

end Minim.Parser
