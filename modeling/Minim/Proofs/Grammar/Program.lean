import Minim.Proofs.Grammar.Expression

/-!
# The grammar of programs

Declarations and statements over the phrases of expressions.

```
program      ::=  declaration*
declaration  ::=  variable  |  type ID '(' [formal {',' formal}] ')' block
               |  'struct' ID '{' variable* '}' [';']
variable     ::=  type ID ';'
formal       ::=  type ID
type         ::=  'int' | 'bool' | 'void' | 'struct' ID
block        ::=  '{' variable* statement* '}'
statement    ::=  assignment ';'  |  call ';'  |  location ('++' | '--') ';'
               |  'input' '>>' location ';'  |  'disp' '<<' expression ';'
               |  'return' [expression] ';'
               |  'if' '(' expression ')' block ['else' block]
               |  'while' '(' expression ')' block
```

Here derivations are data and not mere propositions, so that "one derivation only" can be said of
them. Whether an expression is an assignment, a call or a location is told by its tree. A list of
declarations or statements stands where the token does that follows what comes before it, be it the
closing brace.
-/

namespace Minim.Grammar

/-- Where some tokens begin. -/
def startOf (u : List Token) : Position := (u.headD Token.endOfList).pos

/-! ## Types and variables -/

/-- How tokens derive a written type. -/
inductive TypeName : List Token → TypeExpr → Type
  | int {t : Token} (keyword : t.kind = .intType) : TypeName [t] (.int t.pos)
  | bool {t : Token} (keyword : t.kind = .boolType) : TypeName [t] (.bool t.pos)
  | void {t : Token} (keyword : t.kind = .voidType) : TypeName [t] (.void t.pos)
  | struct {t n : Token} (keyword : t.kind = .structWord) (name : n.kind = .identifier) :
      TypeName [t, n] (.struct t.pos n.ident)

/-- How tokens derive a variable declaration. -/
inductive Variable : List Token → Decl → Type
  | mk {u : List Token} {n c : Token} {type : TypeExpr} (written : TypeName u type)
      (name : n.kind = .identifier) (semicolon : c.kind = .semicolon) :
      Variable (u ++ [n, c]) (.var type.pos type n.ident)

/-- How tokens derive variable declarations one after the other. -/
inductive Variables : List Token → List Decl → Type
  | nil : Variables [] []
  | cons {u v : List Token} {d : Decl} {ds : List Decl} (first : Variable u d)
      (others : Variables v ds) : Variables (u ++ v) (d :: ds)

/-! ## Statements -/

mutual

/-- How tokens derive a statement. -/
inductive Statement : List Token → Stmt → Type
  | assign {u : List Token} {c : Token} {pos : Position} {target value : Expr}
      (expression : Exp 0 u (.assign pos target value)) (semicolon : c.kind = .semicolon) :
      Statement (u ++ [c]) (.assign (startOf u) ⟨pos, target, value⟩)
  | call {u : List Token} {c : Token} {pos argsPos : Position} {callee : Ident}
      {args : List Expr} (expression : Exp 0 u (.call pos callee argsPos args))
      (semicolon : c.kind = .semicolon) :
      Statement (u ++ [c]) (.call (startOf u) ⟨pos, callee, argsPos, args⟩)
  | increment {u : List Token} {o c : Token} {place : Expr} (expression : Exp 0 u place)
      (location : place.isLocation = true) (operator : o.kind = .increment)
      (semicolon : c.kind = .semicolon) :
      Statement (u ++ [o, c]) (.increment (startOf u) place)
  | decrement {u : List Token} {o c : Token} {place : Expr} (expression : Exp 0 u place)
      (location : place.isLocation = true) (operator : o.kind = .decrement)
      (semicolon : c.kind = .semicolon) :
      Statement (u ++ [o, c]) (.decrement (startOf u) place)
  | read {k o c : Token} {u : List Token} {place : Expr} (keyword : k.kind = .inputWord)
      (operator : o.kind = .readOp) (expression : Unary u place)
      (location : place.isLocation = true) (semicolon : c.kind = .semicolon) :
      Statement (k :: o :: (u ++ [c])) (.read k.pos place)
  | write {k o c : Token} {u : List Token} {value : Expr} (keyword : k.kind = .dispWord)
      (operator : o.kind = .writeOp) (expression : Exp 0 u value)
      (semicolon : c.kind = .semicolon) :
      Statement (k :: o :: (u ++ [c])) (.write k.pos value)
  | ret {k c : Token} (keyword : k.kind = .returnWord) (semicolon : c.kind = .semicolon) :
      Statement [k, c] (.ret k.pos none)
  | retValue {k c : Token} {u : List Token} {value : Expr} (keyword : k.kind = .returnWord)
      (expression : Exp 0 u value) (semicolon : c.kind = .semicolon) :
      Statement (k :: (u ++ [c])) (.ret k.pos (some value))
  | ifThen {k o c : Token} {u v : List Token} {cond : Expr} {body : Minim.Block}
      (keyword : k.kind = .ifWord) (opening : o.kind = .lparen) (expression : Exp 0 u cond)
      (closing : c.kind = .rparen) (block : Block v body) :
      Statement (k :: o :: (u ++ c :: v)) (.ifThen k.pos cond body)
  | ifElse {k o c l : Token} {u v w : List Token} {cond : Expr} {yes no : Minim.Block}
      (keyword : k.kind = .ifWord) (opening : o.kind = .lparen) (expression : Exp 0 u cond)
      (closing : c.kind = .rparen) (block : Block v yes) (otherwise : l.kind = .elseWord)
      (block' : Block w no) :
      Statement (k :: o :: (u ++ c :: (v ++ l :: w))) (.ifElse k.pos cond yes no)
  | loop {k o c : Token} {u v : List Token} {cond : Expr} {body : Minim.Block}
      (keyword : k.kind = .whileWord) (opening : o.kind = .lparen) (expression : Exp 0 u cond)
      (closing : c.kind = .rparen) (block : Block v body) :
      Statement (k :: o :: (u ++ c :: v)) (.loop k.pos cond body)

/-- How tokens derive statements one after the other. -/
inductive Statements : List Token → List Stmt → Type
  | nil : Statements [] []
  | cons {u v : List Token} {s : Stmt} {ss : List Stmt} (first : Statement u s)
      (others : Statements v ss) : Statements (u ++ v) (s :: ss)

/-- How tokens derive a block. -/
inductive Block : List Token → Minim.Block → Type
  | mk {o c : Token} {u v : List Token} {ds : List Decl} {ss : List Stmt}
      (opening : o.kind = .lbrace) (decls : Variables u ds) (stmts : Statements v ss)
      (closing : c.kind = .rbrace) :
      Block (o :: (u ++ (v ++ [c])))
        (.mk (startOf (u ++ (v ++ [c]))) ds (startOf (v ++ [c])) ss)

end

/-! ## Declarations -/

/-- How tokens derive a formal parameter. -/
inductive Formal : List Token → Minim.Formal → Type
  | mk {u : List Token} {n : Token} {type : TypeExpr} (written : TypeName u type)
      (name : n.kind = .identifier) :
      Formal (u ++ [n]) { pos := type.pos, type, name := n.ident }

/-- How tokens derive the formal parameters after the first one. -/
inductive MoreFormals : List Token → List Minim.Formal → Type
  | done : MoreFormals [] []
  | more {t : Token} {u v : List Token} {f : Minim.Formal} {fs : List Minim.Formal}
      (comma : t.kind = .comma) (next : Formal u f) (others : MoreFormals v fs) :
      MoreFormals (t :: (u ++ v)) (f :: fs)

/-- How tokens derive formal parameters. -/
inductive FormalItems : List Token → List Minim.Formal → Type
  | none : FormalItems [] []
  | some {u v : List Token} {f : Minim.Formal} {fs : List Minim.Formal} (first : Formal u f)
      (others : MoreFormals v fs) : FormalItems (u ++ v) (f :: fs)

/-- How tokens derive a declaration. -/
inductive Declaration : List Token → Decl → Type
  | var {u : List Token} {d : Decl} (decl : Variable u d) : Declaration u d
  | func {u v w : List Token} {n o c : Token} {type : TypeExpr} {fs : List Minim.Formal}
      {body : Minim.Block} (written : TypeName u type) (name : n.kind = .identifier)
      (opening : o.kind = .lparen) (formals : FormalItems v fs) (closing : c.kind = .rparen)
      (block : Block w body) :
      Declaration (u ++ n :: o :: (v ++ c :: w))
        (.func type.pos type n.ident { pos := o.pos, items := fs } (startOf w) body)
  | struct {k n o c : Token} {u : List Token} {ds : List Decl} (keyword : k.kind = .structWord)
      (name : n.kind = .identifier) (opening : o.kind = .lbrace) (fields : Variables u ds)
      (closing : c.kind = .rbrace) :
      Declaration (k :: n :: o :: (u ++ [c]))
        (.struct k.pos n.ident (startOf (u ++ [c])) ds)
  | structEnded {k n o c e : Token} {u : List Token} {ds : List Decl}
      (keyword : k.kind = .structWord) (name : n.kind = .identifier)
      (opening : o.kind = .lbrace) (fields : Variables u ds) (closing : c.kind = .rbrace)
      (semicolon : e.kind = .semicolon) :
      Declaration (k :: n :: o :: (u ++ [c, e]))
        (.struct k.pos n.ident (startOf (u ++ [c, e])) ds)

/-- How tokens derive declarations one after the other. -/
inductive Declarations : List Token → List Decl → Type
  | nil : Declarations [] []
  | cons {u v : List Token} {d : Decl} {ds : List Decl} (first : Declaration u d)
      (others : Declarations v ds) : Declarations (u ++ v) (d :: ds)

/-- How tokens derive a program; `next` is the token after them, where a program without
declarations stands. -/
inductive Program (next : Token) : List Token → Minim.Program → Type
  | mk {u : List Token} {ds : List Decl} (decls : Declarations u ds) :
      Program next u
        { pos := (u.headD next).pos, declsPos := (u.headD next).pos, decls := ds }

/-! ## The end of a text -/

theorem TypeName.endFree {u : List Token} {ty : TypeExpr} (h : TypeName u ty) : EndFree u := by
  cases h <;> simp [*]

theorem Variable.endFree {u : List Token} {d : Decl} (h : Variable u d) : EndFree u := by
  obtain ⟨written, name, semicolon⟩ := h
  simp [written.endFree, name, semicolon]

theorem Variables.endFree {u : List Token} {ds : List Decl} (h : Variables u ds) : EndFree u := by
  induction h with
  | nil => simp
  | cons first _ ih => simp [first.endFree, ih]

theorem Block.endFree {u : List Token} {b : Minim.Block} (h : Block u b) : EndFree u := by
  induction h using Block.rec (motive_1 := fun u _ _ => EndFree u)
    (motive_2 := fun u _ _ => EndFree u) with
  | assign e semicolon | call e semicolon => simp [e.endFree, semicolon]
  | increment e _ operator semicolon | decrement e _ operator semicolon =>
    simp [e.endFree, operator, semicolon]
  | read keyword operator e _ semicolon => simp [keyword, operator, e.endFree, semicolon]
  | write keyword operator e semicolon => simp [keyword, operator, e.endFree, semicolon]
  | ret keyword semicolon => simp [keyword, semicolon]
  | retValue keyword e semicolon => simp [keyword, e.endFree, semicolon]
  | ifThen keyword opening e closing _ ih | loop keyword opening e closing _ ih =>
    simp [keyword, opening, e.endFree, closing, ih]
  | ifElse keyword opening e closing _ otherwise _ ih ih' =>
    simp [keyword, opening, e.endFree, closing, otherwise, ih, ih']
  | nil => simp
  | cons _ _ ih ih' => simp [ih, ih']
  | mk opening decls _ closing ih => simp [opening, decls.endFree, ih, closing]

theorem Formal.endFree {u : List Token} {f : Minim.Formal} (h : Formal u f) : EndFree u := by
  obtain ⟨written, name⟩ := h
  simp [written.endFree, name]

theorem MoreFormals.endFree {u : List Token} {fs : List Minim.Formal} (h : MoreFormals u fs) :
    EndFree u := by
  induction h with
  | done => simp
  | more comma next _ ih => simp [comma, next.endFree, ih]

theorem FormalItems.endFree {u : List Token} {fs : List Minim.Formal} (h : FormalItems u fs) :
    EndFree u := by
  cases h with
  | none => simp
  | some first others => simp [first.endFree, others.endFree]

theorem Declaration.endFree {u : List Token} {d : Decl} (h : Declaration u d) : EndFree u := by
  cases h with
  | var decl => exact decl.endFree
  | func written name opening formals closing block =>
    simp [written.endFree, name, opening, formals.endFree, closing, block.endFree]
  | struct keyword name opening fields closing =>
    simp [keyword, name, opening, fields.endFree, closing]
  | structEnded keyword name opening fields closing semicolon =>
    simp [keyword, name, opening, fields.endFree, closing, semicolon]

theorem Declarations.endFree {u : List Token} {ds : List Decl} (h : Declarations u ds) :
    EndFree u := by
  induction h with
  | nil => simp
  | cons first _ ih => simp [first.endFree, ih]

theorem Program.endFree {next : Token} {u : List Token} {T : Minim.Program}
    (h : Program next u T) : EndFree u := by
  obtain ⟨decls⟩ := h
  exact decls.endFree

end Minim.Grammar
