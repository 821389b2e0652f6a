import Minim.Proofs.Syntax.RoundTrip
import Minim.Proofs.Syntax.Shape
import Minim.Proofs.Token.Order

/-!
# The identifiers of a tree

All identifiers of a tree from left to right, those of written types included. In a tree that was
read they are the names among its tokens, each once and in order. So they stand one behind the
other, and name analysis finds no symbol noted at any of them.
-/

namespace Minim

/-! ## Identifiers from left to right -/

/-- The identifiers of a written type. -/
def TypeExpr.idents : TypeExpr → List Ident
  | .struct _ name => [name]
  | _ => []

mutual

/-- The identifiers of an expression. -/
def Expr.idents : Expr → List Ident
  | .int _ _ | .string _ _ | .bool _ _ => []
  | .ident name => [name]
  | .dot _ base field => base.idents ++ [field]
  | .assign _ target value => target.idents ++ value.idents
  | .call _ callee _ args => callee :: Expr.identsAll args
  | .unary _ _ operand => operand.idents
  | .binary _ left _ right => left.idents ++ right.idents

/-- The identifiers of expressions. -/
def Expr.identsAll : List Expr → List Ident
  | [] => []
  | e :: es => e.idents ++ Expr.identsAll es

end

/-- The identifiers of a formal parameter. -/
def Formal.idents (f : Formal) : List Ident := f.type.idents ++ [f.name]

mutual

/-- The identifiers of a declaration. -/
def Decl.idents : Decl → List Ident
  | .var _ type name => type.idents ++ [name]
  | .func _ returnType name formals _ body =>
    returnType.idents ++ name :: (formals.items.flatMap Formal.idents ++ body.idents)
  | .struct _ name _ fields => name :: Decl.identsAll fields

/-- The identifiers of a statement. -/
def Stmt.idents : Stmt → List Ident
  | .assign _ assignment => assignment.expr.idents
  | .increment _ e | .decrement _ e | .read _ e | .write _ e => e.idents
  | .ifThen _ cond body | .loop _ cond body => cond.idents ++ body.idents
  | .ifElse _ cond yes no => cond.idents ++ (yes.idents ++ no.idents)
  | .call _ call => call.expr.idents
  | .ret _ none => []
  | .ret _ (some value) => value.idents

/-- The identifiers of a block. -/
def Block.idents : Block → List Ident
  | .mk _ decls _ stmts => Decl.identsAll decls ++ Stmt.identsAll stmts

/-- The identifiers of declarations. -/
def Decl.identsAll : List Decl → List Ident
  | [] => []
  | d :: ds => d.idents ++ Decl.identsAll ds

/-- The identifiers of statements. -/
def Stmt.identsAll : List Stmt → List Ident
  | [] => []
  | s :: ss => s.idents ++ Stmt.identsAll ss

end

/-- The identifiers of a program. -/
def Program.idents (T : Program) : List Ident := Decl.identsAll T.decls

/-- The identifiers of any node. -/
def Node.idents : Node → List Ident
  | .program T => T.idents
  | .declList _ decls => Decl.identsAll decls
  | .decl d => d.idents
  | .formals fs => fs.items.flatMap Formal.idents
  | .formal f => f.idents
  | .body _ block => block.idents
  | .stmtList _ stmts => Stmt.identsAll stmts
  | .stmt st => st.idents
  | .exprList _ exprs => Expr.identsAll exprs
  | .expr e => e.idents
  | .type t => t.idents

/-! ## Names among tokens -/

namespace Grammar

/-- The identifiers that the names among some tokens stand for. -/
def namesOf (u : List Token) : List Ident :=
  (u.filter (·.kind = .identifier)).map Token.ident

@[simp] theorem namesOf_nil : namesOf [] = [] :=
  rfl

@[simp] theorem namesOf_append (u v : List Token) : namesOf (u ++ v) = namesOf u ++ namesOf v := by
  simp [namesOf]

theorem namesOf_cons_of_name {t : Token} (name : t.kind = .identifier) (u : List Token) :
    namesOf (t :: u) = t.ident :: namesOf u := by
  simp [namesOf, name]

theorem namesOf_cons_of_kind {t : Token} {kind : TokenKind} (h : t.kind = kind)
    (other : kind ≠ .identifier) (u : List Token) : namesOf (t :: u) = namesOf u := by
  simp [namesOf, h, other]

theorem ne_identifier_of_mem_operatorsAt {n : Nat} {kind : TokenKind}
    (h : kind ∈ operatorsAt n) : kind ≠ .identifier := by
  rintro rfl
  exact absurd (mem_operators_of_mem_operatorsAt h) nofun

theorem Exp.idents {n : Nat} {u : List Token} {e : Expr} (h : Exp n u e) :
    e.idents = namesOf u := by
  induction h using Exp.rec (motive_2 := fun u e _ => e.idents = namesOf u)
    (motive_3 := fun u e _ => e.idents = namesOf u)
    (motive_4 := fun u es _ => Expr.identsAll es = namesOf u)
    (motive_5 := fun u es _ => Expr.identsAll es = namesOf u) with
  | assign _ _ equals _ ih ih' =>
    rw [namesOf_append, namesOf_cons_of_kind equals nofun, ← ih, ← ih', Expr.idents]
  | binary _ operator _ ih ih' =>
    rw [namesOf_append, namesOf_cons_of_kind rfl (ne_identifier_of_mem_operatorsAt operator),
      ← ih, ← ih', Expr.idents]
  | tighter _ _ ih => exact ih
  | unary _ ih => exact ih
  | sign sign _ ih =>
    rcases sign with kind | kind <;>
    rw [namesOf_cons_of_kind kind nofun, ← ih, Expr.idents]
  | suffixed _ ih => exact ih
  | int kind | string kind | yes kind | no kind =>
    rw [namesOf_cons_of_kind kind nofun, Expr.idents, namesOf_nil]
  | ident kind => rw [namesOf_cons_of_name kind, Expr.idents, namesOf_nil]
  | paren opening _ closing ih =>
    rw [namesOf_cons_of_kind opening nofun, namesOf_append,
      namesOf_cons_of_kind closing nofun, namesOf_nil, List.append_nil, ih]
  | dot _ _ dot field ih =>
    rw [namesOf_append, namesOf_cons_of_kind dot nofun, namesOf_cons_of_name field, ← ih,
      Expr.idents, namesOf_nil]
  | call _ opening _ closing ih ih' =>
    rw [namesOf_append, namesOf_cons_of_kind opening nofun, namesOf_append,
      namesOf_cons_of_kind closing nofun, ← ih, ← ih', namesOf_nil, List.append_nil]
    rfl
  | none => rfl
  | some _ _ ih ih' => rw [namesOf_append, ← ih, ← ih', Expr.identsAll]
  | done => rfl
  | more comma _ _ ih ih' =>
    rw [namesOf_cons_of_kind comma nofun, namesOf_append, ← ih, ← ih', Expr.identsAll]

theorem Unary.idents {u : List Token} {e : Expr} (h : Unary u e) : e.idents = namesOf u :=
  (Exp.unary h).idents

theorem TypeName.idents {u : List Token} {type : TypeExpr} (h : TypeName u type) :
    type.idents = namesOf u := by
  cases h with
  | int keyword | bool keyword | void keyword =>
    rw [namesOf_cons_of_kind keyword nofun, namesOf_nil, TypeExpr.idents]
    all_goals exact nofun
  | struct keyword name =>
    rw [namesOf_cons_of_kind keyword nofun, namesOf_cons_of_name name, namesOf_nil,
      TypeExpr.idents]

theorem Variable.idents {u : List Token} {d : Decl} (h : Variable u d) :
    d.idents = namesOf u := by
  obtain ⟨written, name, semicolon⟩ := h
  rw [namesOf_append, namesOf_cons_of_name name, namesOf_cons_of_kind semicolon nofun,
    namesOf_nil, ← written.idents, Decl.idents]

theorem Variables.idents {u : List Token} {ds : List Decl} (h : Variables u ds) :
    Decl.identsAll ds = namesOf u := by
  induction h with
  | nil => rfl
  | cons first _ ih => rw [namesOf_append, ← first.idents, ← ih, Decl.identsAll]

theorem Block.idents {u : List Token} {b : Minim.Block} (h : Block u b) :
    b.idents = namesOf u := by
  induction h using Block.rec (motive_1 := fun u s _ => s.idents = namesOf u)
    (motive_2 := fun u ss _ => Stmt.identsAll ss = namesOf u) with
  | assign e semicolon | call e semicolon =>
    rw [namesOf_append, namesOf_cons_of_kind semicolon nofun, namesOf_nil, List.append_nil,
      ← e.idents]
    rfl
  | increment e _ operator semicolon | decrement e _ operator semicolon =>
    rw [namesOf_append, namesOf_cons_of_kind operator nofun,
      namesOf_cons_of_kind semicolon nofun, namesOf_nil, List.append_nil, ← e.idents]
    rfl
  | read keyword operator e _ semicolon =>
    rw [namesOf_cons_of_kind keyword nofun, namesOf_cons_of_kind operator nofun,
      namesOf_append, namesOf_cons_of_kind semicolon nofun, namesOf_nil, List.append_nil,
      ← e.idents]
    rfl
  | write keyword operator e semicolon =>
    rw [namesOf_cons_of_kind keyword nofun, namesOf_cons_of_kind operator nofun,
      namesOf_append, namesOf_cons_of_kind semicolon nofun, namesOf_nil, List.append_nil,
      ← e.idents]
    rfl
  | ret keyword semicolon =>
    rw [namesOf_cons_of_kind keyword nofun, namesOf_cons_of_kind semicolon nofun]
    rfl
  | retValue keyword e semicolon =>
    rw [namesOf_cons_of_kind keyword nofun, namesOf_append,
      namesOf_cons_of_kind semicolon nofun, namesOf_nil, List.append_nil, ← e.idents]
    rfl
  | ifThen keyword opening e closing _ ih | loop keyword opening e closing _ ih =>
    rw [namesOf_cons_of_kind keyword nofun, namesOf_cons_of_kind opening nofun,
      namesOf_append, namesOf_cons_of_kind closing nofun, ← e.idents, ← ih]
    rfl
  | ifElse keyword opening e closing _ otherwise _ ih ih' =>
    rw [namesOf_cons_of_kind keyword nofun, namesOf_cons_of_kind opening nofun,
      namesOf_append, namesOf_cons_of_kind closing nofun, namesOf_append,
      namesOf_cons_of_kind otherwise nofun, ← e.idents, ← ih, ← ih']
    rfl
  | nil => rfl
  | cons _ _ ih ih' => rw [namesOf_append, ← ih, ← ih', Stmt.identsAll]
  | mk opening decls _ closing ih =>
    rw [namesOf_cons_of_kind opening nofun, namesOf_append, namesOf_append,
      namesOf_cons_of_kind closing nofun, namesOf_nil, List.append_nil, ← decls.idents, ← ih]
    rfl

theorem Formal.idents {u : List Token} {f : Minim.Formal} (h : Formal u f) :
    f.idents = namesOf u := by
  obtain ⟨written, name⟩ := h
  rw [namesOf_append, namesOf_cons_of_name name, namesOf_nil, ← written.idents]
  rfl

theorem MoreFormals.idents {u : List Token} {fs : List Minim.Formal} (h : MoreFormals u fs) :
    fs.flatMap Minim.Formal.idents = namesOf u := by
  induction h with
  | done => rfl
  | more comma next _ ih =>
    rw [namesOf_cons_of_kind comma nofun, namesOf_append, ← next.idents, ← ih,
      List.flatMap_cons]

theorem FormalItems.idents {u : List Token} {fs : List Minim.Formal} (h : FormalItems u fs) :
    fs.flatMap Minim.Formal.idents = namesOf u := by
  cases h with
  | none => rfl
  | some first others =>
    rw [namesOf_append, ← first.idents, ← others.idents, List.flatMap_cons]

theorem Declaration.idents {u : List Token} {d : Decl} (h : Declaration u d) :
    d.idents = namesOf u := by
  cases h with
  | var decl => exact decl.idents
  | func written name opening formals closing block =>
    rw [namesOf_append, namesOf_cons_of_name name, namesOf_cons_of_kind opening nofun,
      namesOf_append, namesOf_cons_of_kind closing nofun, ← written.idents,
      ← formals.idents, ← block.idents, Decl.idents]
  | struct keyword name opening fields closing =>
    rw [namesOf_cons_of_kind keyword nofun, namesOf_cons_of_name name,
      namesOf_cons_of_kind opening nofun, namesOf_append,
      namesOf_cons_of_kind closing nofun, namesOf_nil, List.append_nil, ← fields.idents,
      Decl.idents]
  | structEnded keyword name opening fields closing semicolon =>
    rw [namesOf_cons_of_kind keyword nofun, namesOf_cons_of_name name,
      namesOf_cons_of_kind opening nofun, namesOf_append,
      namesOf_cons_of_kind closing nofun, namesOf_cons_of_kind semicolon nofun,
      namesOf_nil, List.append_nil, ← fields.idents, Decl.idents]

theorem Declarations.idents {u : List Token} {ds : List Decl} (h : Declarations u ds) :
    Decl.identsAll ds = namesOf u := by
  induction h with
  | nil => rfl
  | cons first _ ih => rw [namesOf_append, ← first.idents, ← ih, Decl.identsAll]

theorem Program.idents {next : Token} {u : List Token} {T : Minim.Program}
    (h : Program next u T) : T.idents = namesOf u := by
  obtain ⟨decls⟩ := h
  exact decls.idents

/-- Nothing is noted at the names among tokens. -/
theorem Program.unannotated {next : Token} {u : List Token} {T : Minim.Program}
    (h : Program next u T) : ∀ name ∈ T.idents, name.symbol = none := by
  intro name mem
  rw [h.idents, namesOf] at mem
  obtain ⟨t, -, rfl⟩ := List.mem_map.mp mem
  rfl

end Grammar

/-! ## Trees that were read -/

/-- Identifiers stand one behind the other. -/
def Ident.InOrder (names : List Ident) : Prop :=
  names.Pairwise fun name name' => name.pos < name'.pos

/-- The identifiers of a program are the names among the tokens it is read from. -/
theorem idents_of_parseText {text : String} {T : Program} (run : parseText text = .ok T) :
    ∃ tokens, tokenize text = .ok tokens ∧ T.idents = Grammar.namesOf (beforeEnd tokens) := by
  obtain ⟨tokens, lexed, parsed⟩ := parseText_eq_ok.mp run
  obtain ⟨derived⟩ := Parser.parseTokens_sound parsed
  exact ⟨tokens, lexed, derived.idents⟩

theorem idents_inOrder_of_parseText {text : String} {T : Program}
    (run : parseText text = .ok T) : Ident.InOrder T.idents := by
  obtain ⟨tokens, lexed, names⟩ := idents_of_parseText run
  rw [names, Ident.InOrder, Grammar.namesOf, List.pairwise_map]
  exact ((inOrder_of_tokenize lexed).sublist (List.takeWhile_sublist _)).filter _

theorem symbol_of_parseTokens {tokens : List Token} {T : Program}
    (read : parseTokens tokens = .ok T) : ∀ name ∈ T.idents, name.symbol = none := by
  obtain ⟨derived⟩ := Parser.parseTokens_sound read
  exact derived.unannotated

theorem shaped_of_parseText {text : String} {T : Program} (run : parseText text = .ok T) :
    T.Shaped := by
  obtain ⟨tokens, lexed, parsed⟩ := parseText_eq_ok.mp run
  exact shaped_of_parseTokens parsed

theorem symbol_of_parseText {text : String} {T : Program} (run : parseText text = .ok T) :
    ∀ name ∈ T.idents, name.symbol = none := by
  obtain ⟨tokens, lexed, parsed⟩ := parseText_eq_ok.mp run
  exact symbol_of_parseTokens parsed

end Minim
