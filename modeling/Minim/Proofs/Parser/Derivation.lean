import Minim.Proofs.Parser.Declaration

/-!
# One derivation only

The parser finds where the parts of a phrase end, so that a phrase cannot be cut into parts in two
ways; which rule is the last one is told by the tree. Two derivations of one phrase and one tree are
hence the same. Phrases and trees of derivations are compared up to equations, since a phrase that
is cut in two is equal to itself cut elsewhere only by proof.
-/

namespace Minim.Parser

open Grammar

/-! ## Where a phrase ends -/

/-- A parser that reads one beginning of some tokens, and also another, has read the same one. -/
theorem cut {α : Type} {p : Parser α} {u v u' v' : List Token} {a a' : α}
    (same : u ++ v = u' ++ v') (run : ∀ ⦃s t⦄, s.Reads u t → t.rest = v → p s = .ok a t)
    (run' : ∀ ⦃s t⦄, s.Reads u' t → t.rest = v' → p s = .ok a' t) :
    u = u' ∧ v = v' ∧ a = a' := by
  obtain ⟨t, reads, rest⟩ := TokenStream.exists_reads (s := .ofList (u ++ v)) rfl
  obtain ⟨t', reads', rest'⟩ := TokenStream.exists_reads (s := .ofList (u ++ v)) same
  have result := run reads rest
  rw [run' reads' rest'] at result
  cases result
  obtain rfl := rest.symm.trans rest'
  exact ⟨List.append_cancel_right same, rfl, rfl⟩

theorem exp_cut {u v u' v' : List Token} {c c' : Token} {e e' : Expr} (h : Exp 0 u e)
    (h' : Exp 0 u' e') (stop : ¬ Extends c.kind) (stop' : ¬ Extends c'.kind)
    (same : u ++ c :: v = u' ++ c' :: v') : u = u' ∧ c = c' ∧ v = v' ∧ e = e' := by
  have run {u v : List Token} {c : Token} {e : Expr} (h : Exp 0 u e) (stop : ¬ Extends c.kind)
      ⦃s t : TokenStream⦄ (reads : s.Reads u t) (rest : t.rest = c :: v) :
      expression s = .ok e t :=
    expression_complete h reads (by rw [TokenStream.current, rest]; exact stop)
  obtain ⟨rfl, rest, rfl⟩ := cut same (run h stop) (run h' stop')
  cases rest
  exact ⟨rfl, rfl, rfl, rfl⟩

theorem exp_cut_of_kind {kind : TokenKind} (stop : ¬ Extends kind) {u v u' v' : List Token}
    {c c' : Token} {e e' : Expr} (h : Exp 0 u e) (h' : Exp 0 u' e') (isKind : c.kind = kind)
    (isKind' : c'.kind = kind) (same : u ++ c :: v = u' ++ c' :: v') :
    u = u' ∧ c = c' ∧ v = v' ∧ e = e' :=
  exp_cut h h' (isKind ▸ stop) (isKind' ▸ stop) same

theorem not_extends_increment : ¬ Extends .increment :=
  not_extends_of_precedence? (by decide) (by decide) rfl

theorem not_extends_decrement : ¬ Extends .decrement :=
  not_extends_of_precedence? (by decide) (by decide) rfl

theorem type_cut {u v u' v' : List Token} {ty ty' : TypeExpr} (h : TypeName u ty)
    (h' : TypeName u' ty') (same : u ++ v = u' ++ v') : u = u' ∧ v = v' ∧ ty = ty' :=
  cut same (fun _ _ reads _ => type_complete h reads) (fun _ _ reads _ => type_complete h' reads)

theorem variable_cut {u v u' v' : List Token} {d d' : Decl} (h : Variable u d)
    (h' : Variable u' d') (same : u ++ v = u' ++ v') : u = u' ∧ v = v' ∧ d = d' :=
  cut same (fun _ _ reads _ => variableDecl_complete h reads)
    (fun _ _ reads _ => variableDecl_complete h' reads)

theorem block_cut {u v u' v' : List Token} {b b' : Minim.Block} (h : Grammar.Block u b)
    (h' : Grammar.Block u' b') (same : u ++ v = u' ++ v') : u = u' ∧ v = v' ∧ b = b' :=
  cut same (fun _ _ reads _ => block_complete h reads)
    (fun _ _ reads _ => block_complete h' reads)

/-! ## Types and variables -/

/-- No other derivation has the phrase and the tree of this one. -/
def Only {α : Type} {F : List Token → α → Type} {u : List Token} {a : α} (x : F u a) : Prop :=
  ∀ ⦃u' : List Token⦄ ⦃a' : α⦄ (y : F u' a'), u = u' → a = a' → HEq x y

theorem Only.eq {α : Type} {F : List Token → α → Type} {u : List Token} {a : α} {x : F u a}
    (only : Only x) (y : F u a) : x = y :=
  eq_of_heq (only y rfl rfl)

/-- Derivations of one phrase and one tree are the same. -/
def Unique {α : Type} (F : List Token → α → Type) : Prop :=
  ∀ ⦃u : List Token⦄ ⦃a : α⦄ (x : F u a), Only x

theorem Unique.eq {α : Type} {F : List Token → α → Type} (unique : Unique F) {u : List Token}
    {a : α} (x y : F u a) : x = y :=
  (unique x).eq y

theorem typeName_unique : Unique TypeName := by
  intro u ty x u' ty' y sameTokens sameTree
  subst sameTokens sameTree
  cases x <;> cases y <;> rfl

theorem variable_unique : Unique Variable := by
  intro u d x u' d' y sameTokens sameTree
  obtain ⟨written, name, semicolon⟩ := x
  obtain ⟨written', name', semicolon'⟩ := y
  obtain ⟨rfl, same, rfl⟩ := type_cut written written' sameTokens
  cases same
  obtain rfl := typeName_unique.eq written written'
  rfl

theorem variables_unique : Unique Variables := by
  intro u ds x
  induction x with
  | nil =>
    intro u' ds' y sameTokens sameTree
    cases y with
    | nil => rfl
    | cons => cases sameTree
  | cons first others ih =>
    intro u' ds' y sameTokens sameTree
    cases y with
    | nil => cases sameTree
    | cons first' others' =>
      obtain ⟨rfl, rfl, rfl⟩ := variable_cut first first' sameTokens
      cases sameTree
      obtain rfl := variable_unique.eq first first'
      obtain rfl := ih.eq others'
      rfl

/-! ## Statements -/

/-- Variable declarations end where no more of them begin. -/
theorem variables_cut {u v u' v' : List Token} {ds ds' : List Decl} (h : Variables u ds)
    (h' : Variables u' ds')
    (stop : ∀ ⦃s : TokenStream⦄, s.rest = v → s.atVariableDecl = false)
    (stop' : ∀ ⦃s : TokenStream⦄, s.rest = v' → s.atVariableDecl = false)
    (same : u ++ v = u' ++ v') : u = u' ∧ v = v' := by
  have run {u v : List Token} {ds : List Decl} (h : Variables u ds)
      (stop : ∀ ⦃s : TokenStream⦄, s.rest = v → s.atVariableDecl = false) ⦃s t : TokenStream⦄
      (reads : s.Reads u t) (rest : t.rest = v) :
      many TokenStream.atVariableDecl variableDecl s = .ok ds t :=
    variableItems_complete h reads (stop rest) (by rw [reads.length]; omega)
  obtain ⟨rfl, rest, -⟩ := cut same (run h stop) (run h' stop')
  exact ⟨rfl, rest⟩

theorem not_atVariableDecl_of_statements {v : List Token} {ss : List Stmt} (h : Statements v ss)
    {c : Token} (closing : c.kind = .rbrace) ⦃s : TokenStream⦄ (rest : s.rest = v ++ [c]) :
    s.atVariableDecl = false := by
  obtain ⟨t, reads, atClosing⟩ := TokenStream.exists_reads rest
  have closes : t.current.kind = .rbrace := by
    rw [TokenStream.current, atClosing]
    exact closing
  exact (kind_after_of_statements h reads closes).2

/-- The statements after a statement do not begin with `else`, so it ends where they begin. -/
theorem statement_cut {u v u' v' : List Token} {st st' : Stmt} {ss ss' : List Stmt}
    (h : Statement u st) (h' : Statement u' st') (others : Statements v ss)
    (others' : Statements v' ss') (same : u ++ v = u' ++ v') : u = u' ∧ v = v' ∧ st = st' := by
  have run {u v : List Token} {st : Stmt} {ss : List Stmt} (h : Statement u st)
      (others : Statements v ss) ⦃s t : TokenStream⦄ (reads : s.Reads u t) (rest : t.rest = v) :
      statement s = .ok st t := by
    refine statement_complete h reads ?_
    cases others with
    | nil =>
      rw [TokenStream.current, rest]
      decide
    | cons first =>
      obtain ⟨a, w, rfl, begins⟩ := statement_begins first
      rw [TokenStream.current, rest]
      exact (kind_ne_of_begins begins).2.2.1
  exact cut same (run h others) (run h' others')

section Rules

variable {k o c l : Token} {u v w : List Token}

theorem Only.assign {pos : Position} {target value : Expr}
    (e : Exp 0 u (.assign pos target value)) (semicolon : c.kind = .semicolon) :
    Only (Statement.assign e semicolon) := by
  intro u' st' y sameTokens sameTree
  cases y with
  | assign e' semicolon' =>
    obtain ⟨rfl, rfl, -, same⟩ :=
      exp_cut_of_kind not_extends_semicolon e e' semicolon semicolon' sameTokens
    cases same
    rfl
  | _ => cases sameTree

theorem Only.call {pos argsPos : Position} {callee : Ident} {args : List Expr}
    (e : Exp 0 u (.call pos callee argsPos args)) (semicolon : c.kind = .semicolon) :
    Only (Statement.call e semicolon) := by
  intro u' st' y sameTokens sameTree
  cases y with
  | call e' semicolon' =>
    obtain ⟨rfl, rfl, -, same⟩ :=
      exp_cut_of_kind not_extends_semicolon e e' semicolon semicolon' sameTokens
    cases same
    rfl
  | _ => cases sameTree

theorem Only.increment {place : Expr} (e : Exp 0 u place) (location : place.isLocation = true)
    (operator : o.kind = .increment) (semicolon : c.kind = .semicolon) :
    Only (Statement.increment e location operator semicolon) := by
  intro u' st' y sameTokens sameTree
  cases y with
  | increment e' location' operator' semicolon' =>
    obtain ⟨rfl, rfl, rest, rfl⟩ :=
      exp_cut_of_kind not_extends_increment e e' operator operator' sameTokens
    cases rest
    rfl
  | _ => cases sameTree

theorem Only.decrement {place : Expr} (e : Exp 0 u place) (location : place.isLocation = true)
    (operator : o.kind = .decrement) (semicolon : c.kind = .semicolon) :
    Only (Statement.decrement e location operator semicolon) := by
  intro u' st' y sameTokens sameTree
  cases y with
  | decrement e' location' operator' semicolon' =>
    obtain ⟨rfl, rfl, rest, rfl⟩ :=
      exp_cut_of_kind not_extends_decrement e e' operator operator' sameTokens
    cases rest
    rfl
  | _ => cases sameTree

theorem Only.read {place : Expr} (keyword : k.kind = .inputWord) (operator : o.kind = .readOp)
    (e : Unary u place) (location : place.isLocation = true) (semicolon : c.kind = .semicolon) :
    Only (Statement.read keyword operator e location semicolon) := by
  intro u' st' y sameTokens sameTree
  cases y with
  | read keyword' operator' e' location' semicolon' =>
    simp only [List.cons.injEq] at sameTokens
    obtain ⟨rfl, rfl, sameTokens⟩ := sameTokens
    obtain ⟨rfl, rfl, -, rfl⟩ := exp_cut_of_kind not_extends_semicolon (e.exp 0 (by omega))
      (e'.exp 0 (by omega)) semicolon semicolon' sameTokens
    rfl
  | _ => cases sameTree

theorem Only.write {value : Expr} (keyword : k.kind = .dispWord) (operator : o.kind = .writeOp)
    (e : Exp 0 u value) (semicolon : c.kind = .semicolon) :
    Only (Statement.write keyword operator e semicolon) := by
  intro u' st' y sameTokens sameTree
  cases y with
  | write keyword' operator' e' semicolon' =>
    simp only [List.cons.injEq] at sameTokens
    obtain ⟨rfl, rfl, sameTokens⟩ := sameTokens
    obtain ⟨rfl, rfl, -, rfl⟩ :=
      exp_cut_of_kind not_extends_semicolon e e' semicolon semicolon' sameTokens
    rfl
  | _ => cases sameTree

theorem Only.ret (keyword : k.kind = .returnWord) (semicolon : c.kind = .semicolon) :
    Only (Statement.ret keyword semicolon) := by
  intro u' st' y sameTokens sameTree
  cases y with
  | ret keyword' semicolon' =>
    cases sameTokens
    rfl
  | _ => simp at sameTree

theorem Only.retValue {value : Expr} (keyword : k.kind = .returnWord) (e : Exp 0 u value)
    (semicolon : c.kind = .semicolon) : Only (Statement.retValue keyword e semicolon) := by
  intro u' st' y sameTokens sameTree
  cases y with
  | retValue keyword' e' semicolon' =>
    simp only [List.cons.injEq] at sameTokens
    obtain ⟨rfl, sameTokens⟩ := sameTokens
    obtain ⟨rfl, rfl, -, rfl⟩ :=
      exp_cut_of_kind not_extends_semicolon e e' semicolon semicolon' sameTokens
    rfl
  | _ => simp at sameTree

theorem Only.ifThen {cond : Expr} {body : Minim.Block} (keyword : k.kind = .ifWord)
    (opening : o.kind = .lparen) (e : Exp 0 u cond) (closing : c.kind = .rparen)
    {block : Grammar.Block v body} (only : Only block) :
    Only (Statement.ifThen keyword opening e closing block) := by
  intro u' st' y sameTokens sameTree
  cases y with
  | ifThen keyword' opening' e' closing' block' =>
    simp only [List.cons.injEq] at sameTokens
    obtain ⟨rfl, rfl, sameTokens⟩ := sameTokens
    obtain ⟨rfl, rfl, rfl, rfl⟩ :=
      exp_cut_of_kind not_extends_rparen e e' closing closing' sameTokens
    cases sameTree
    obtain rfl := only.eq block'
    rfl
  | _ => cases sameTree

theorem Only.ifElse {cond : Expr} {yes no : Minim.Block} (keyword : k.kind = .ifWord)
    (opening : o.kind = .lparen) (e : Exp 0 u cond) (closing : c.kind = .rparen)
    {block : Grammar.Block v yes} (only : Only block) (otherwise : l.kind = .elseWord)
    {other : Grammar.Block w no} (only' : Only other) :
    Only (Statement.ifElse keyword opening e closing block otherwise other) := by
  intro u' st' y sameTokens sameTree
  cases y with
  | ifElse keyword' opening' e' closing' block' otherwise' other' =>
    simp only [List.cons.injEq] at sameTokens
    obtain ⟨rfl, rfl, sameTokens⟩ := sameTokens
    obtain ⟨rfl, rfl, sameBlocks, rfl⟩ :=
      exp_cut_of_kind not_extends_rparen e e' closing closing' sameTokens
    obtain ⟨rfl, sameElse, rfl⟩ := block_cut block block' sameBlocks
    cases sameElse
    cases sameTree
    obtain rfl := only.eq block'
    obtain rfl := only'.eq other'
    rfl
  | _ => cases sameTree

theorem Only.loop {cond : Expr} {body : Minim.Block} (keyword : k.kind = .whileWord)
    (opening : o.kind = .lparen) (e : Exp 0 u cond) (closing : c.kind = .rparen)
    {block : Grammar.Block v body} (only : Only block) :
    Only (Statement.loop keyword opening e closing block) := by
  intro u' st' y sameTokens sameTree
  cases y with
  | loop keyword' opening' e' closing' block' =>
    simp only [List.cons.injEq] at sameTokens
    obtain ⟨rfl, rfl, sameTokens⟩ := sameTokens
    obtain ⟨rfl, rfl, rfl, rfl⟩ :=
      exp_cut_of_kind not_extends_rparen e e' closing closing' sameTokens
    cases sameTree
    obtain rfl := only.eq block'
    rfl
  | _ => cases sameTree

theorem Only.nil : Only Statements.nil := by
  intro u' ss' y sameTokens sameTree
  cases y with
  | nil => rfl
  | cons => cases sameTree

theorem Only.cons {st : Stmt} {ss : List Stmt} {first : Statement u st}
    {others : Statements v ss} (only : Only first) (only' : Only others) :
    Only (Statements.cons first others) := by
  intro u' ss' y sameTokens sameTree
  cases y with
  | nil => cases sameTree
  | cons first' others' =>
    obtain ⟨rfl, rfl, rfl⟩ := statement_cut first first' others others' sameTokens
    cases sameTree
    obtain rfl := only.eq first'
    obtain rfl := only'.eq others'
    rfl

theorem Only.block {ds : List Decl} {ss : List Stmt} (opening : o.kind = .lbrace)
    (decls : Variables u ds) {stmts : Statements v ss} (closing : c.kind = .rbrace)
    (only : Only stmts) : Only (Grammar.Block.mk opening decls stmts closing) := by
  intro u' b' y sameTokens sameTree
  obtain ⟨opening', decls', stmts', closing'⟩ := y
  simp only [List.cons.injEq] at sameTokens
  obtain ⟨rfl, sameTokens⟩ := sameTokens
  obtain ⟨rfl, sameRest⟩ := variables_cut decls decls'
    (not_atVariableDecl_of_statements stmts closing)
    (not_atVariableDecl_of_statements stmts' closing') sameTokens
  obtain ⟨rfl, sameClosing⟩ := List.append_inj' sameRest rfl
  cases sameClosing
  cases sameTree
  obtain rfl := variables_unique.eq decls decls'
  obtain rfl := only.eq stmts'
  rfl

end Rules

end Minim.Parser
