import Minim.Proofs.Parser.Variable

/-!
# Reading statements

The keyword tells a statement, and where there is none the shape of the expression that it begins
with does. A block changes from declarations to statements at the first token where no variable
declaration begins. A conditional without `else` is read as such only where no `else` follows it;
inside a block nothing but a statement or the closing brace does.
-/

namespace Minim.Parser

open Grammar

/-! ## First tokens -/

/-- The keywords that a statement begins with. -/
def statementWords : List TokenKind :=
  [.ifWord, .whileWord, .returnWord, .inputWord, .dispWord]

/-- A statement has a first token: one of an expression, or one of a few keywords. -/
theorem statement_begins {u : List Token} {st : Stmt} (h : Statement u st) :
    ∃ a w, u = a :: w ∧ (a.kind ∈ starters ∨ a.kind ∈ statementWords) := by
  have ofBegins {v : List Token} (w : List Token) (begins : Begins v) :
      ∃ a x, v ++ w = a :: x ∧ (a.kind ∈ starters ∨ a.kind ∈ statementWords) := by
    obtain ⟨a, x, rfl, starts⟩ := begins
    exact ⟨a, x ++ w, rfl, .inl starts⟩
  have ofWord {k : Token} (w : List Token) {kind : TokenKind} (keyword : k.kind = kind)
      (word : kind ∈ statementWords) :
      ∃ a x, k :: w = a :: x ∧ (a.kind ∈ starters ∨ a.kind ∈ statementWords) :=
    ⟨k, w, rfl, .inr (keyword ▸ word)⟩
  cases h with
  | assign e | call e | increment e | decrement e => exact ofBegins _ e.begins
  | read keyword | write keyword | ret keyword | retValue keyword | ifThen keyword
  | ifElse keyword | loop keyword => exact ofWord _ keyword (by decide)

theorem statement_ne_nil {u : List Token} {st : Stmt} (h : Statement u st) : u ≠ [] := by
  obtain ⟨a, w, rfl, -⟩ := statement_begins h
  exact List.cons_ne_nil a w

/-- What the first token of a statement, or the brace after the last one, is not. -/
theorem kind_ne_of_begins {kind : TokenKind} (h : kind ∈ starters ∨ kind ∈ statementWords) :
    kind ≠ .rbrace ∧ kind ≠ .eof ∧ kind ≠ .elseWord ∧ kind ∉
      [.intType, .boolType, .voidType, .structWord] := by
  simp only [starters, statementWords, List.mem_cons, List.not_mem_nil, or_false] at h
  rcases h with (rfl | rfl | rfl | rfl | rfl | rfl | rfl | rfl) | (rfl | rfl | rfl | rfl | rfl) <;>
    decide

theorem atVariableDecl_of_kind {s : TokenStream}
    (h : s.current.kind ∉ [.intType, .boolType, .voidType, .structWord]) :
    s.atVariableDecl = false := by
  simp only [List.mem_cons, List.not_mem_nil, or_false, not_or] at h
  obtain ⟨int, bool, void, struct⟩ := h
  simp only [TokenStream.atVariableDecl]

theorem atStatement_of_atEnd {s : TokenStream} (atEnd : s.rest = []) :
    atStatement s = false := by
  simp [atStatement, TokenStream.current, atEnd, Token.endOfList]

/-! ## Soundness -/

theorem location_sound {s t : TokenStream} {e : Expr} (run : location s = .ok e t) :
    ∃ u, s.Reads u t ∧ Unary u e ∧ e.isLocation = true := by
  rw [location, get_bind] at run
  obtain ⟨operand, m, operandRun, run⟩ := bind_eq_ok.mp run
  obtain ⟨u, reads, derived, -⟩ := operandAt_sound operandRun
  by_cases isLocation : operand.isLocation = true
  · rw [if_pos isLocation] at run
    obtain ⟨rfl, rfl⟩ := pure_eq_ok.mp run
    exact ⟨u, reads, derived, isLocation⟩
  · rw [if_neg isLocation] at run
    exact absurd run fail_ne_ok

theorem condition_sound {s t : TokenStream} {cond : Expr} (run : condition s = .ok cond t) :
    ∃ o u c, s.Reads (o :: (u ++ [c])) t ∧ o.kind = .lparen ∧ Exp 0 u cond ∧
      c.kind = .rparen := by
  rw [condition] at run
  obtain ⟨o, m, openingRun, run⟩ := bind_eq_ok.mp run
  obtain ⟨e, m', condRun, run⟩ := bind_eq_ok.mp run
  obtain ⟨c, m'', closingRun, result⟩ := bind_eq_ok.mp run
  obtain ⟨opening, rfl, rfl⟩ := expect_eq_ok.mp openingRun
  obtain ⟨u, reads, derived, -⟩ := expression_sound condRun
  obtain ⟨closing, rfl, rfl⟩ := expect_eq_ok.mp closingRun
  obtain ⟨rfl, rfl⟩ := pure_eq_ok.mp result
  refine ⟨_, u, _, .cons (by simp [opening]) (reads.trans (.single (by simp [closing]))), ?_⟩
  exact ⟨opening, derived, closing⟩

/-- Whatever `statement` reads is a statement. -/
def ReadsStatements (statement : Parser Stmt) : Prop :=
  ∀ ⦃s t : TokenStream⦄ ⦃st : Stmt⦄, statement s = .ok st t →
    ∃ u, s.Reads u t ∧ Nonempty (Statement u st)

theorem blockOf_sound {statement : Parser Stmt} (sound : ReadsStatements statement)
    {s t : TokenStream} {b : Minim.Block} (run : blockOf statement s = .ok b t) :
    ∃ u, s.Reads u t ∧ Nonempty (Grammar.Block u b) := by
  rw [blockOf] at run
  obtain ⟨o, m, openingRun, run⟩ := bind_eq_ok.mp run
  obtain ⟨⟨pos, ds⟩, m', declsRun, run⟩ := bind_eq_ok.mp run
  simp only [current_bind] at run
  obtain ⟨ss, m'', stmtsRun, run⟩ := bind_eq_ok.mp run
  obtain ⟨c, m''', closingRun, result⟩ := bind_eq_ok.mp run
  obtain ⟨opening, rfl, rfl⟩ := expect_eq_ok.mp openingRun
  obtain ⟨rfl, -, u, declsReads, ⟨decls⟩⟩ := variableDecls_sound declsRun
  obtain ⟨v, stmtsReads, ⟨stmts⟩, -⟩ := many_sound Statements.nil Statements.cons statement_ne_nil
    (fun _ => @sound _ _ _) atStatement_of_atEnd stmtsRun
  obtain ⟨closing, rfl, rfl⟩ := expect_eq_ok.mp closingRun
  obtain ⟨rfl, rfl⟩ := pure_eq_ok.mp result
  have stmtsReads' := stmtsReads.trans (.single (by simp [closing]))
  have declsReads' := declsReads.trans stmtsReads'
  refine ⟨_, .cons (by simp [opening]) declsReads', ?_⟩
  rw [← stmtsReads'.startOf (by simp), ← declsReads'.startOf (by simp)]
  exact ⟨.mk opening decls stmts closing⟩

theorem conditional_sound {block : Parser Minim.Block}
    (sound : ∀ ⦃s t b⦄, block s = .ok b t → ∃ u, s.Reads u t ∧ Nonempty (Grammar.Block u b))
    {s t : TokenStream} {st : Stmt} (run : conditional block s = .ok st t) :
    ∃ u, s.Reads u t ∧ Nonempty (Statement u st) := by
  rw [conditional] at run
  obtain ⟨k, m, keywordRun, run⟩ := bind_eq_ok.mp run
  obtain ⟨keyword, rfl, rfl⟩ := expect_eq_ok.mp keywordRun
  obtain ⟨cond, m', condRun, run⟩ := bind_eq_ok.mp run
  obtain ⟨yes, m'', yesRun, run⟩ := bind_eq_ok.mp run
  obtain ⟨o, u, c, condReads, opening, derived, closing⟩ := condition_sound condRun
  obtain ⟨v, yesReads, ⟨body⟩⟩ := sound yesRun
  have reads := TokenStream.Reads.cons (by simp [keyword]) (condReads.trans yesReads)
  rw [accept_bind] at run
  by_cases otherwise : m''.current.kind = .elseWord
  · rw [if_pos otherwise, if_pos rfl] at run
    obtain ⟨no, m''', noRun, result⟩ := bind_eq_ok.mp run
    obtain ⟨rfl, rfl⟩ := pure_eq_ok.mp result
    obtain ⟨w, noReads, ⟨body'⟩⟩ := sound noRun
    refine ⟨_, reads.trans (.cons (by simp [otherwise]) noReads), ⟨?_⟩⟩
    simpa using Statement.ifElse keyword opening derived closing body otherwise body'
  · rw [if_neg otherwise, if_neg Bool.false_ne_true] at run
    obtain ⟨rfl, rfl⟩ := pure_eq_ok.mp run
    refine ⟨_, reads, ⟨?_⟩⟩
    simpa using Statement.ifThen keyword opening derived closing body

theorem loop_sound {block : Parser Minim.Block}
    (sound : ∀ ⦃s t b⦄, block s = .ok b t → ∃ u, s.Reads u t ∧ Nonempty (Grammar.Block u b))
    {s t : TokenStream} {st : Stmt} (run : loop block s = .ok st t) :
    ∃ u, s.Reads u t ∧ Nonempty (Statement u st) := by
  rw [loop] at run
  obtain ⟨k, m, keywordRun, run⟩ := bind_eq_ok.mp run
  obtain ⟨cond, m', condRun, run⟩ := bind_eq_ok.mp run
  obtain ⟨b, m'', bodyRun, result⟩ := bind_eq_ok.mp run
  obtain ⟨keyword, rfl, rfl⟩ := expect_eq_ok.mp keywordRun
  obtain ⟨o, u, c, condReads, opening, derived, closing⟩ := condition_sound condRun
  obtain ⟨v, bodyReads, ⟨body⟩⟩ := sound bodyRun
  obtain ⟨rfl, rfl⟩ := pure_eq_ok.mp result
  refine ⟨_, .cons (by simp [keyword]) (condReads.trans bodyReads), ⟨?_⟩⟩
  simpa using Statement.loop keyword opening derived closing body

theorem returnStatement_sound : ReadsStatements returnStatement := by
  intro s t st run
  rw [returnStatement] at run
  obtain ⟨k, m, keywordRun, run⟩ := bind_eq_ok.mp run
  obtain ⟨keyword, rfl, rfl⟩ := expect_eq_ok.mp keywordRun
  rw [current_bind] at run
  by_cases semicolon : s.advance.current.kind = .semicolon
  · rw [if_pos semicolon] at run
    obtain ⟨c, m', semicolonRun, result⟩ := bind_eq_ok.mp run
    obtain ⟨-, rfl, rfl⟩ := require_eq_ok.mp semicolonRun
    obtain ⟨rfl, rfl⟩ := pure_eq_ok.mp result
    refine ⟨_, .cons (by simp [keyword]) (.single (by simp [semicolon])), ?_⟩
    exact ⟨.ret keyword semicolon⟩
  · rw [if_neg semicolon] at run
    obtain ⟨value, m', valueRun, run⟩ := bind_eq_ok.mp run
    obtain ⟨c, m'', semicolonRun, result⟩ := bind_eq_ok.mp run
    obtain ⟨u, reads, derived, -⟩ := expression_sound valueRun
    obtain ⟨ends, rfl, rfl⟩ := require_eq_ok.mp semicolonRun
    obtain ⟨rfl, rfl⟩ := pure_eq_ok.mp result
    refine ⟨_, .cons (by simp [keyword]) (reads.trans (.single (by simp [ends]))), ?_⟩
    exact ⟨.retValue keyword derived ends⟩

theorem readStatement_sound {s t : TokenStream} {st : Stmt} (keyword : s.current.kind = .inputWord)
    (run : readStatement s = .ok st t) : ∃ u, s.Reads u t ∧ Nonempty (Statement u st) := by
  rw [readStatement, current_bind, advance_bind] at run
  obtain ⟨o, m, operatorRun, run⟩ := bind_eq_ok.mp run
  obtain ⟨place, m', placeRun, run⟩ := bind_eq_ok.mp run
  obtain ⟨c, m'', semicolonRun, result⟩ := bind_eq_ok.mp run
  obtain ⟨operator, rfl, rfl⟩ := require_eq_ok.mp operatorRun
  obtain ⟨u, reads, derived, isLocation⟩ := location_sound placeRun
  obtain ⟨semicolon, rfl, rfl⟩ := require_eq_ok.mp semicolonRun
  obtain ⟨rfl, rfl⟩ := pure_eq_ok.mp result
  refine ⟨_, .cons (by simp [keyword]) (.cons (by simp [operator])
    (reads.trans (.single (by simp [semicolon])))), ?_⟩
  exact ⟨.read keyword operator derived isLocation semicolon⟩

theorem writeStatement_sound {s t : TokenStream} {st : Stmt} (keyword : s.current.kind = .dispWord)
    (run : writeStatement s = .ok st t) : ∃ u, s.Reads u t ∧ Nonempty (Statement u st) := by
  rw [writeStatement, current_bind, advance_bind] at run
  obtain ⟨o, m, operatorRun, run⟩ := bind_eq_ok.mp run
  obtain ⟨value, m', valueRun, run⟩ := bind_eq_ok.mp run
  obtain ⟨c, m'', semicolonRun, result⟩ := bind_eq_ok.mp run
  obtain ⟨operator, rfl, rfl⟩ := require_eq_ok.mp operatorRun
  obtain ⟨u, reads, derived, -⟩ := expression_sound valueRun
  obtain ⟨semicolon, rfl, rfl⟩ := require_eq_ok.mp semicolonRun
  obtain ⟨rfl, rfl⟩ := pure_eq_ok.mp result
  refine ⟨_, .cons (by simp [keyword]) (.cons (by simp [operator])
    (reads.trans (.single (by simp [semicolon])))), ?_⟩
  exact ⟨.write keyword operator derived semicolon⟩

/-- What has to follow a location for it to begin a statement. -/
def counting (start : Position) (place : Expr) : Parser Stmt := do
  match place.isLocation, (← current).kind with
  | true, .increment =>
    advance
    let _ ← expect .semicolon
    return .increment start place
  | true, .decrement =>
    advance
    let _ ← expect .semicolon
    return .decrement start place
  | _, _ => failAt start (.missing .statement)

theorem counting_sound {u : List Token} {place : Expr} (derived : Exp 0 u place)
    (location : place.isLocation = true) {s m t : TokenStream} {st : Stmt} (reads : s.Reads u m)
    (run : counting (startOf u) place m = .ok st t) :
    ∃ u, s.Reads u t ∧ Nonempty (Statement u st) := by
  rw [counting, current_bind, location] at run
  cases operator : m.current.kind with
  | increment =>
    simp only [operator] at run
    rw [advance_bind] at run
    obtain ⟨c, m', semicolonRun, result⟩ := bind_eq_ok.mp run
    obtain ⟨semicolon, rfl, rfl⟩ := expect_eq_ok.mp semicolonRun
    obtain ⟨rfl, rfl⟩ := pure_eq_ok.mp result
    refine ⟨_, reads.trans (.cons (by simp [operator]) (.single (by simp [semicolon]))), ?_⟩
    exact ⟨.increment derived location operator semicolon⟩
  | decrement =>
    simp only [operator] at run
    rw [advance_bind] at run
    obtain ⟨c, m', semicolonRun, result⟩ := bind_eq_ok.mp run
    obtain ⟨semicolon, rfl, rfl⟩ := expect_eq_ok.mp semicolonRun
    obtain ⟨rfl, rfl⟩ := pure_eq_ok.mp result
    refine ⟨_, reads.trans (.cons (by simp [operator]) (.single (by simp [semicolon]))), ?_⟩
    exact ⟨.decrement derived location operator semicolon⟩
  | _ =>
    simp only [operator] at run
    exact absurd run failAt_ne_ok

theorem expressionStatement_sound : ReadsStatements expressionStatement := by
  intro s t st run
  rw [expressionStatement, current_bind] at run
  obtain ⟨e, m, expressionRun, run⟩ := bind_eq_ok.mp run
  obtain ⟨u, reads, derived, -⟩ := expression_sound expressionRun
  have start := reads.startOf (List.length_pos_iff.mp derived.begins.length_pos)
  rw [← start] at run
  cases e with
  | assign pos target value =>
    obtain ⟨c, m', semicolonRun, result⟩ := bind_eq_ok.mp run
    obtain ⟨semicolon, rfl, rfl⟩ := require_eq_ok.mp semicolonRun
    obtain ⟨rfl, rfl⟩ := pure_eq_ok.mp result
    exact ⟨_, reads.trans (.single (by simp [semicolon])), ⟨.assign derived semicolon⟩⟩
  | call pos callee argsPos args =>
    obtain ⟨c, m', semicolonRun, result⟩ := bind_eq_ok.mp run
    obtain ⟨semicolon, rfl, rfl⟩ := require_eq_ok.mp semicolonRun
    obtain ⟨rfl, rfl⟩ := pure_eq_ok.mp result
    exact ⟨_, reads.trans (.single (by simp [semicolon])), ⟨.call derived semicolon⟩⟩
  | ident name => exact counting_sound derived rfl reads run
  | dot pos base field => exact counting_sound derived rfl reads run
  | _ => exact absurd run failAt_ne_ok

/-- Whatever the depth, what is read as a statement is one. -/
theorem statementAt_sound (depth : Nat) : ReadsStatements (statementAt depth) := by
  induction depth with
  | zero => exact fun _ _ _ run => absurd run fail_ne_ok
  | succ depth ih =>
    intro s t st run
    rw [statementAt, current_bind] at run
    cases kind : s.current.kind with
    | ifWord =>
      simp only [kind] at run
      exact conditional_sound (fun _ _ _ => blockOf_sound ih) run
    | whileWord =>
      simp only [kind] at run
      exact loop_sound (fun _ _ _ => blockOf_sound ih) run
    | returnWord =>
      simp only [kind] at run
      exact returnStatement_sound run
    | inputWord =>
      simp only [kind] at run
      exact readStatement_sound kind run
    | dispWord =>
      simp only [kind] at run
      exact writeStatement_sound kind run
    | intType | boolType | voidType | structWord =>
      simp only [kind] at run
      exact absurd run fail_ne_ok
    | _ =>
      simp only [kind] at run
      exact expressionStatement_sound run

theorem block_sound {s t : TokenStream} {b : Minim.Block} (run : block s = .ok b t) :
    ∃ u, s.Reads u t ∧ Nonempty (Grammar.Block u b) :=
  blockOf_sound (fun s _ _ run => statementAt_sound (s.rest.length + 1) run) run

/-! ## Completeness -/

theorem operandAt_complete {u : List Token} {e : Expr} (h : Unary u e) {s t : TokenStream}
    {depth : Nat} (reads : s.Reads u t) (stop : NoSuffix t) (deep : 3 * u.length ≤ depth + 1) :
    operandAt depth s = .ok e t := by
  -- At level 7 the loop passes through the phrase and then has no operator to take.
  have loose (m : TokenStream) : Loose 7 m := fun p h => Nat.lt_succ_of_le (precedence?_le h)
  have positive := h.begins.length_pos
  obtain ⟨depth', enough, run⟩ := passesThrough_of_exp (.unary h) reads stop
    (fun p h => ⟨Nat.le_of_lt (loose t p h), by omega⟩) (Nat.le_refl 7) deep
  obtain ⟨depth', rfl⟩ : ∃ d, depth' = d + 1 := ⟨depth' - 1, by omega⟩
  obtain ⟨depth, rfl⟩ : ∃ d, depth = d + 1 := ⟨depth - 1, by omega⟩
  rw [operators_stop (loose t)] at run
  obtain ⟨head, m, headRun, run⟩ := bind_eq_ok.mp run
  rw [operators_stop (loose m)] at run
  cases run
  exact headRun

theorem location_complete {u : List Token} {e : Expr} (h : Unary u e)
    (isLocation : e.isLocation = true) {s t : TokenStream} (reads : s.Reads u t)
    (stop : NoSuffix t) : location s = .ok e t := by
  have run : operandAt (depthFor s) s = .ok e t :=
    operandAt_complete h reads stop (by rw [depthFor, reads.length]; omega)
  rw [location, get_bind, bind_of_ok run, if_pos isLocation]
  rfl

theorem condition_complete {o c : Token} {u : List Token} {cond : Expr}
    (opening : o.kind = .lparen) (h : Exp 0 u cond) (closing : c.kind = .rparen)
    {s t : TokenStream} (reads : s.Reads (o :: (u ++ [c])) t) : condition s = .ok cond t := by
  obtain rfl := reads.head
  obtain ⟨m, condReads, closingReads⟩ := reads.tail.split
  obtain ⟨rfl, rfl⟩ := closingReads.of_single
  have stop : ¬ Extends m.current.kind := by
    rw [closing]
    exact not_extends_rparen
  rw [condition, bind_of_ok (expect_eq_ok.mpr ⟨opening, rfl, rfl⟩),
    bind_of_ok (expression_complete h condReads stop),
    bind_of_ok (expect_eq_ok.mpr ⟨closing, rfl, rfl⟩)]
  rfl

theorem not_extends_semicolon : ¬ Extends .semicolon :=
  not_extends_of_precedence? (by decide) (by decide) rfl

/-- The phrase is read as a statement where no `else` follows, with at most so many blocks around
each other in it. -/
def ReadAsStatement (depth : Nat) (u : List Token) (st : Stmt) : Prop :=
  ∀ ⦃s t : TokenStream⦄, s.Reads u t → t.current.kind ≠ .elseWord →
    statementAt (depth + 1) s = .ok st t

/-- The phrase is read as a block, with at most so many blocks around each other in it. -/
def ReadAsBlock (depth : Nat) (u : List Token) (b : Minim.Block) : Prop :=
  ∀ ⦃s t : TokenStream⦄, s.Reads u t → blockOf (statementAt depth) s = .ok b t

/-- Every statement of at most `bound` tokens is read, where no `else` follows. -/
def ReadsAllUpTo (bound : Nat) (statement : Parser Stmt) : Prop :=
  ∀ ⦃u : List Token⦄ ⦃st : Stmt⦄ ⦃s t : TokenStream⦄, Statement u st → u.length ≤ bound →
    s.Reads u t → t.current.kind ≠ .elseWord → statement s = .ok st t

section Depth

variable {depth : Nat}

/-! ### Statements that begin with an expression -/

theorem statementAt_of_starter {depth : Nat} {s : TokenStream} (h : s.current.kind ∈ starters) :
    statementAt (depth + 1) s = expressionStatement s := by
  rw [statementAt, current_bind]
  simp only [starters, List.mem_cons, List.not_mem_nil, or_false] at h
  rcases h with kind | kind | kind | kind | kind | kind | kind | kind <;> simp only [kind]

/-- Reading a statement that begins with an expression is reading the expression first. -/
theorem ReadAsStatement.of_expression {u v : List Token} {e : Expr} {st : Stmt}
    (h : Exp 0 u e)
    (rest : ∀ ⦃s m t : TokenStream⦄, s.current.pos = startOf u → expression s = .ok e m →
      m.Reads v t → expressionStatement s = .ok st t)
    (stop : ∀ ⦃m t : TokenStream⦄, m.Reads v t → ¬ Extends m.current.kind) :
    ReadAsStatement depth (u ++ v) st := by
  intro s t reads _
  obtain ⟨m, expressionReads, restReads⟩ := reads.split
  rw [statementAt_of_starter (starter_of_reads h.begins expressionReads)]
  exact rest (expressionReads.startOf (List.length_pos_iff.mp h.begins.length_pos)).symm
    (expression_complete h expressionReads (stop restReads)) restReads

theorem ReadAsStatement.assign {u : List Token} {c : Token} {pos : Position} {target value : Expr}
    (h : Exp 0 u (.assign pos target value)) (semicolon : c.kind = .semicolon) :
    ReadAsStatement depth (u ++ [c]) (.assign (startOf u) ⟨pos, target, value⟩) := by
  refine .of_expression h (fun s m t start run reads => ?_) (fun m t reads => ?_)
  · obtain ⟨rfl, rfl⟩ := reads.of_single
    rw [expressionStatement, current_bind, bind_of_ok run, start]
    simp only
    rw [bind_of_ok (require_eq_ok.mpr ⟨semicolon, rfl, rfl⟩)]
    rfl
  · rw [reads.head, semicolon]
    exact not_extends_semicolon

theorem ReadAsStatement.call {u : List Token} {c : Token} {pos argsPos : Position}
    {callee : Ident} {args : List Expr} (h : Exp 0 u (.call pos callee argsPos args))
    (semicolon : c.kind = .semicolon) :
    ReadAsStatement depth (u ++ [c]) (.call (startOf u) ⟨pos, callee, argsPos, args⟩) := by
  refine .of_expression h (fun s m t start run reads => ?_) (fun m t reads => ?_)
  · obtain ⟨rfl, rfl⟩ := reads.of_single
    rw [expressionStatement, current_bind, bind_of_ok run, start]
    simp only
    rw [bind_of_ok (require_eq_ok.mpr ⟨semicolon, rfl, rfl⟩)]
    rfl
  · rw [reads.head, semicolon]
    exact not_extends_semicolon

theorem expressionStatement_of_location {s m : TokenStream} {place : Expr}
    (run : expression s = .ok place m) (location : place.isLocation = true) :
    expressionStatement s = counting s.current.pos place m := by
  rw [expressionStatement, current_bind, bind_of_ok run]
  cases place with
  | ident => rfl
  | dot => rfl
  | _ => cases location

theorem ReadAsStatement.increment {u : List Token} {o c : Token} {place : Expr}
    (h : Exp 0 u place) (location : place.isLocation = true) (operator : o.kind = .increment)
    (semicolon : c.kind = .semicolon) :
    ReadAsStatement depth (u ++ [o, c]) (.increment (startOf u) place) := by
  refine .of_expression h (fun s m t start run reads => ?_) (fun m t reads => ?_)
  · obtain rfl := reads.head
    obtain ⟨rfl, rfl⟩ := reads.tail.of_single
    rw [expressionStatement_of_location run location, start, counting, current_bind, location]
    simp only [operator]
    rw [advance_bind, bind_of_ok (expect_eq_ok.mpr ⟨semicolon, rfl, rfl⟩)]
    rfl
  · rw [reads.head, operator]
    exact not_extends_of_precedence? (by decide) (by decide) rfl

theorem ReadAsStatement.decrement {u : List Token} {o c : Token} {place : Expr}
    (h : Exp 0 u place) (location : place.isLocation = true) (operator : o.kind = .decrement)
    (semicolon : c.kind = .semicolon) :
    ReadAsStatement depth (u ++ [o, c]) (.decrement (startOf u) place) := by
  refine .of_expression h (fun s m t start run reads => ?_) (fun m t reads => ?_)
  · obtain rfl := reads.head
    obtain ⟨rfl, rfl⟩ := reads.tail.of_single
    rw [expressionStatement_of_location run location, start, counting, current_bind, location]
    simp only [operator]
    rw [advance_bind, bind_of_ok (expect_eq_ok.mpr ⟨semicolon, rfl, rfl⟩)]
    rfl
  · rw [reads.head, operator]
    exact not_extends_of_precedence? (by decide) (by decide) rfl

/-! ### Statements that begin with a keyword -/

theorem ReadAsStatement.read {k o c : Token} {u : List Token} {place : Expr}
    (keyword : k.kind = .inputWord) (operator : o.kind = .readOp) (h : Unary u place)
    (isLocation : place.isLocation = true) (semicolon : c.kind = .semicolon) :
    ReadAsStatement depth (k :: o :: (u ++ [c])) (.read k.pos place) := by
  intro s t reads _
  obtain rfl := reads.head
  obtain rfl := reads.tail.head
  obtain ⟨m, placeReads, semicolonReads⟩ := reads.tail.tail.split
  obtain ⟨rfl, rfl⟩ := semicolonReads.of_single
  have stop : NoSuffix m := ⟨by rw [semicolon]; decide, by rw [semicolon]; decide⟩
  rw [statementAt, current_bind]
  simp only [keyword]
  rw [readStatement, current_bind, advance_bind,
    bind_of_ok (require_eq_ok.mpr ⟨operator, rfl, rfl⟩),
    bind_of_ok (location_complete h isLocation placeReads stop),
    bind_of_ok (require_eq_ok.mpr ⟨semicolon, rfl, rfl⟩)]
  rfl

theorem ReadAsStatement.write {k o c : Token} {u : List Token} {value : Expr}
    (keyword : k.kind = .dispWord) (operator : o.kind = .writeOp) (h : Exp 0 u value)
    (semicolon : c.kind = .semicolon) :
    ReadAsStatement depth (k :: o :: (u ++ [c])) (.write k.pos value) := by
  intro s t reads _
  obtain rfl := reads.head
  obtain rfl := reads.tail.head
  obtain ⟨m, valueReads, semicolonReads⟩ := reads.tail.tail.split
  obtain ⟨rfl, rfl⟩ := semicolonReads.of_single
  have stop : ¬ Extends m.current.kind := by rw [semicolon]; exact not_extends_semicolon
  rw [statementAt, current_bind]
  simp only [keyword]
  rw [writeStatement, current_bind, advance_bind,
    bind_of_ok (require_eq_ok.mpr ⟨operator, rfl, rfl⟩),
    bind_of_ok (expression_complete h valueReads stop),
    bind_of_ok (require_eq_ok.mpr ⟨semicolon, rfl, rfl⟩)]
  rfl

theorem ReadAsStatement.ret {k c : Token} (keyword : k.kind = .returnWord)
    (semicolon : c.kind = .semicolon) : ReadAsStatement depth [k, c] (.ret k.pos none) := by
  intro s t reads _
  obtain rfl := reads.head
  obtain ⟨rfl, rfl⟩ := reads.tail.of_single
  rw [statementAt, current_bind]
  simp only [keyword]
  rw [returnStatement, bind_of_ok (expect_eq_ok.mpr ⟨keyword, rfl, rfl⟩), current_bind,
    if_pos semicolon, bind_of_ok (require_eq_ok.mpr ⟨semicolon, rfl, rfl⟩)]
  rfl

theorem ReadAsStatement.retValue {k c : Token} {u : List Token} {value : Expr}
    (keyword : k.kind = .returnWord) (h : Exp 0 u value) (semicolon : c.kind = .semicolon) :
    ReadAsStatement depth (k :: (u ++ [c])) (.ret k.pos (some value)) := by
  intro s t reads _
  obtain rfl := reads.head
  obtain ⟨m, valueReads, semicolonReads⟩ := reads.tail.split
  obtain ⟨rfl, rfl⟩ := semicolonReads.of_single
  have stop : ¬ Extends m.current.kind := by rw [semicolon]; exact not_extends_semicolon
  have notSemicolon : s.advance.current.kind ≠ .semicolon := by
    intro kind
    have starts := starter_of_reads h.begins valueReads
    rw [kind] at starts
    exact absurd starts (by decide)
  rw [statementAt, current_bind]
  simp only [keyword]
  rw [returnStatement, bind_of_ok (expect_eq_ok.mpr ⟨keyword, rfl, rfl⟩), current_bind,
    if_neg notSemicolon, bind_of_ok (expression_complete h valueReads stop),
    bind_of_ok (require_eq_ok.mpr ⟨semicolon, rfl, rfl⟩)]
  rfl

theorem ReadAsStatement.ifThen {k o c : Token} {u v : List Token} {cond : Expr}
    {body : Minim.Block} (keyword : k.kind = .ifWord) (opening : o.kind = .lparen)
    (h : Exp 0 u cond) (closing : c.kind = .rparen) (block : ReadAsBlock depth v body) :
    ReadAsStatement depth (k :: o :: (u ++ c :: v)) (.ifThen k.pos cond body) := by
  intro s t reads notElse
  obtain rfl := reads.head
  have reads' : s.advance.Reads ((o :: (u ++ [c])) ++ v) t := by simpa using reads.tail
  obtain ⟨m, condReads, bodyReads⟩ := reads'.split
  rw [statementAt, current_bind]
  simp only [keyword]
  rw [conditional, bind_of_ok (expect_eq_ok.mpr ⟨keyword, rfl, rfl⟩),
    bind_of_ok (condition_complete opening h closing condReads),
    bind_of_ok (block bodyReads), accept_bind, if_neg notElse]
  rfl

theorem ReadAsStatement.ifElse {k o c l : Token} {u v w : List Token} {cond : Expr}
    {yes no : Minim.Block} (keyword : k.kind = .ifWord) (opening : o.kind = .lparen)
    (h : Exp 0 u cond) (closing : c.kind = .rparen) (block : ReadAsBlock depth v yes)
    (otherwise : l.kind = .elseWord) (block' : ReadAsBlock depth w no) :
    ReadAsStatement depth (k :: o :: (u ++ c :: (v ++ l :: w))) (.ifElse k.pos cond yes no) := by
  intro s t reads _
  obtain rfl := reads.head
  have reads' : s.advance.Reads ((o :: (u ++ [c])) ++ (v ++ l :: w)) t := by
    simpa using reads.tail
  obtain ⟨m, condReads, branchReads⟩ := reads'.split
  obtain ⟨m', yesReads, elseReads⟩ := branchReads.split
  rw [statementAt, current_bind]
  simp only [keyword]
  rw [conditional, bind_of_ok (expect_eq_ok.mpr ⟨keyword, rfl, rfl⟩),
    bind_of_ok (condition_complete opening h closing condReads),
    bind_of_ok (block yesReads), accept_bind,
    if_pos (by rw [elseReads.head, otherwise]), if_pos rfl,
    bind_of_ok (block' elseReads.tail)]
  rfl

theorem ReadAsStatement.loop {k o c : Token} {u v : List Token} {cond : Expr}
    {body : Minim.Block} (keyword : k.kind = .whileWord) (opening : o.kind = .lparen)
    (h : Exp 0 u cond) (closing : c.kind = .rparen) (block : ReadAsBlock depth v body) :
    ReadAsStatement depth (k :: o :: (u ++ c :: v)) (.loop k.pos cond body) := by
  intro s t reads _
  obtain rfl := reads.head
  have reads' : s.advance.Reads ((o :: (u ++ [c])) ++ v) t := by simpa using reads.tail
  obtain ⟨m, condReads, bodyReads⟩ := reads'.split
  rw [statementAt, current_bind]
  simp only [keyword]
  rw [Parser.loop, bind_of_ok (expect_eq_ok.mpr ⟨keyword, rfl, rfl⟩),
    bind_of_ok (condition_complete opening h closing condReads),
    bind_of_ok (block bodyReads)]
  rfl

end Depth

/-! ### Blocks -/

/-- What comes after the declarations of a block is no variable declaration and no `else`. -/
theorem kind_after_of_statements {v : List Token} {ss : List Stmt} (h : Statements v ss)
    {s t : TokenStream} (reads : s.Reads v t) (closes : t.current.kind = .rbrace) :
    s.current.kind ≠ .elseWord ∧ s.atVariableDecl = false := by
  cases h with
  | nil =>
    obtain rfl := reads.eq_nil
    exact ⟨by rw [closes]; decide, atVariableDecl_of_kind (by rw [closes]; decide)⟩
  | cons first =>
    obtain ⟨a, w, rfl, begins⟩ := statement_begins first
    obtain rfl := reads.head
    obtain ⟨-, -, notElse, notType⟩ := kind_ne_of_begins begins
    exact ⟨notElse, atVariableDecl_of_kind notType⟩

theorem statementItems_complete {statement : Parser Stmt} {bound : Nat}
    (readsAll : ReadsAllUpTo bound statement) {u : List Token} {ss : List Stmt}
    (h : Statements u ss) {s t : TokenStream} (reads : s.Reads u t)
    (closes : t.current.kind = .rbrace) {limit : Nat} (short : u.length ≤ bound)
    (enough : u.length ≤ limit) : itemsWhile atStatement statement limit s = .ok ss t := by
  induction ss generalizing u s limit with
  | nil =>
    obtain _ | _ := h
    obtain rfl := reads.eq_nil
    exact itemsWhile_stop (by simp [atStatement, closes])
  | cons st ss ih =>
    obtain _ | ⟨first, others⟩ := h
    have positive := List.length_pos_iff.mpr (statement_ne_nil first)
    rw [List.length_append] at short enough
    obtain ⟨limit, rfl⟩ : ∃ l, limit = l + 1 := ⟨limit - 1, by omega⟩
    obtain ⟨m, firstReads, othersReads⟩ := reads.split
    have goes : atStatement s = true := by
      obtain ⟨a, w, rfl, begins⟩ := statement_begins first
      obtain rfl := firstReads.head
      obtain ⟨notBrace, notEnd, -⟩ := kind_ne_of_begins begins
      simp [atStatement, notBrace, notEnd]
    have notElse := (kind_after_of_statements others othersReads closes).1
    exact itemsWhile_next goes (readsAll first (by omega) firstReads notElse)
      (ih others othersReads (by omega) (by omega))

theorem blockOf_complete {statement : Parser Stmt} {bound : Nat}
    (readsAll : ReadsAllUpTo bound statement) {u : List Token} {b : Minim.Block}
    (h : Grammar.Block u b) (short : u.length ≤ bound + 2) {s t : TokenStream}
    (reads : s.Reads u t) : blockOf statement s = .ok b t := by
  obtain ⟨opening, decls, stmts, closing⟩ := h
  simp only [List.length_cons, List.length_append, List.length_nil] at short
  obtain rfl := reads.head
  obtain ⟨m, declsReads, restReads⟩ := reads.tail.split
  obtain ⟨m', stmtsReads, closingReads⟩ := restReads.split
  obtain ⟨rfl, rfl⟩ := closingReads.of_single
  have stop := (kind_after_of_statements stmts stmtsReads closing).2
  have stmtsRun : many atStatement statement m = .ok _ m' :=
    statementItems_complete readsAll stmts stmtsReads closing (by omega)
      (by rw [stmtsReads.length]; omega)
  rw [blockOf, bind_of_ok (expect_eq_ok.mpr ⟨opening, rfl, rfl⟩),
    bind_of_ok (variableDecls_complete decls declsReads stop), restReads.startOf (by simp),
    reads.tail.startOf (by simp)]
  simp only
  rw [current_bind, bind_of_ok stmtsRun, bind_of_ok (expect_eq_ok.mpr ⟨closing, rfl, rfl⟩)]
  rfl

/-- **Every statement is read** at a depth of its length or more. -/
theorem statementAt_complete (depth : Nat) : ReadsAllUpTo depth (statementAt depth) := by
  induction depth with
  | zero =>
    intro u st s t h short
    exact absurd (List.length_eq_zero_iff.mp (Nat.le_zero.mp short)) (statement_ne_nil h)
  | succ depth ih =>
    intro u st s t h short reads notElse
    refine (?_ : ReadAsStatement depth u st) reads notElse
    -- A block in the statement is shorter than the statement by its keyword and parentheses.
    have block {v : List Token} {b : Minim.Block} (body : Grammar.Block v b)
        (short : v.length ≤ depth + 2) : ReadAsBlock depth v b :=
      fun s t reads => blockOf_complete ih body short reads
    cases h with
    | assign e semicolon => exact .assign e semicolon
    | call e semicolon => exact .call e semicolon
    | increment e location operator semicolon => exact .increment e location operator semicolon
    | decrement e location operator semicolon => exact .decrement e location operator semicolon
    | read keyword operator e location semicolon =>
      exact .read keyword operator e location semicolon
    | write keyword operator e semicolon => exact .write keyword operator e semicolon
    | ret keyword semicolon => exact .ret keyword semicolon
    | retValue keyword e semicolon => exact .retValue keyword e semicolon
    | ifThen keyword opening e closing body =>
      simp only [List.length_cons, List.length_append] at short
      exact .ifThen keyword opening e closing (block body (by omega))
    | ifElse keyword opening e closing body otherwise body' =>
      simp only [List.length_cons, List.length_append] at short
      exact .ifElse keyword opening e closing (block body (by omega)) otherwise
        (block body' (by omega))
    | loop keyword opening e closing body =>
      simp only [List.length_cons, List.length_append] at short
      exact .loop keyword opening e closing (block body (by omega))

theorem statement_complete {u : List Token} {st : Stmt} (h : Statement u st) {s t : TokenStream}
    (reads : s.Reads u t) (notElse : t.current.kind ≠ .elseWord) :
    statement s = .ok st t :=
  statementAt_complete _ h (by rw [reads.length]; omega) reads notElse

theorem block_complete {u : List Token} {b : Minim.Block} (h : Grammar.Block u b)
    {s t : TokenStream} (reads : s.Reads u t) : block s = .ok b t :=
  have readsAll : ReadsAllUpTo u.length statement :=
    fun _ _ _ _ h _ reads notElse => statement_complete h reads notElse
  blockOf_complete readsAll h (by omega) reads

end Minim.Parser
