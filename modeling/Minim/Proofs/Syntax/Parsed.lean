import Minim.Proofs.Grammar.Program
import Minim.Proofs.Syntax.WellFormed
import Minim.Proofs.Syntax.Words

/-!
# Trees that were read are well-formed

Tokens from a text have the values that their kinds can have, and a tree takes its values from the
tokens that derive it.
-/

namespace Minim.Grammar

open Lexeme

/-- Every token has a value that its kind can have. -/
def AllLegal (u : List Token) : Prop :=
  ∀ t ∈ u, Legal t.content

@[simp] theorem allLegal_cons {t : Token} {u : List Token} :
    AllLegal (t :: u) ↔ Legal t.content ∧ AllLegal u :=
  List.forall_mem_cons

@[simp] theorem allLegal_append {u v : List Token} :
    AllLegal (u ++ v) ↔ AllLegal u ∧ AllLegal v :=
  List.forall_mem_append

theorem legal_of_kind {t : Token} {kind : TokenKind} (h : t.kind = kind)
    (legal : Legal t.content) : Legal (kind, t.value) :=
  h ▸ legal

theorem value_of_kind {t : Token} {kind : TokenKind} (h : t.kind = kind)
    (hasSpelling : HasSpelling kind) (legal : Legal t.content) :
    t.value = .text (spelling kind) :=
  value_of_legal hasSpelling (legal_of_kind h legal)

theorem ident_wellFormed {t : Token} (h : t.kind = .identifier) (legal : Legal t.content) :
    t.ident.WellFormed :=
  legal_of_kind h legal

/-- What the phrase derives is well-formed if the tokens are legal. -/
def Sound (u : List Token) (formed : Prop) : Prop :=
  AllLegal u → formed

/-! ## Expressions -/

theorem Exp.sound {n : Nat} {u : List Token} {e : Expr} (h : Exp n u e) :
    Sound u e.WellFormed := by
  induction h using Exp.rec (motive_2 := fun u e _ => Sound u e.WellFormed)
    (motive_3 := fun u e _ => Sound u e.WellFormed)
    (motive_4 := fun u es _ => Sound u (Expr.AllWellFormed es))
    (motive_5 := fun u es _ => Sound u (Expr.AllWellFormed es)) with
  | assign _ location _ _ ih ih' =>
    intro legal
    simp only [allLegal_append, allLegal_cons] at legal
    exact ⟨location, ih legal.1, ih' legal.2.2⟩
  | binary _ operator _ ih ih' =>
    intro legal
    simp only [allLegal_append, allLegal_cons] at legal
    obtain ⟨left, isOperator, right⟩ := legal
    have value := value_of_kind rfl (hasSpelling_of_mem_operatorsAt operator) isOperator
    exact ⟨⟨_, _, operator, value⟩, ih left, ih' right⟩
  | tighter _ _ ih => exact ih
  | unary _ ih => exact ih
  | sign sign _ ih =>
    intro legal
    obtain ⟨isSign, operand⟩ := allLegal_cons.mp legal
    refine ⟨?_, ih operand⟩
    rcases sign with kind | kind
    · exact .inl (value_of_kind kind (by decide) isSign)
    · exact .inr (value_of_kind kind (by decide) isSign)
  | suffixed _ ih => exact ih
  | int kind =>
    intro legal
    exact legal_of_kind kind (allLegal_cons.mp legal).1
  | string kind =>
    intro legal
    exact legal_of_kind kind (allLegal_cons.mp legal).1
  | yes => exact fun _ => trivial
  | no => exact fun _ => trivial
  | ident kind =>
    intro legal
    exact legal_of_kind kind (allLegal_cons.mp legal).1
  | paren _ _ _ ih =>
    intro legal
    simp only [allLegal_append, allLegal_cons] at legal
    exact ih legal.2.1
  | dot _ location _ field ih =>
    intro legal
    simp only [allLegal_append, allLegal_cons] at legal
    exact ⟨location, ih legal.1, ident_wellFormed field legal.2.2.1⟩
  | call _ _ _ _ ih ih' =>
    intro legal
    simp only [allLegal_append, allLegal_cons] at legal
    exact ⟨ih legal.1, ih' legal.2.2.1⟩
  | none => exact fun _ => trivial
  | some _ _ ih ih' =>
    intro legal
    obtain ⟨first, others⟩ := allLegal_append.mp legal
    exact ⟨ih first, ih' others⟩
  | done => exact fun _ => trivial
  | more _ _ _ ih ih' =>
    intro legal
    simp only [allLegal_append, allLegal_cons] at legal
    exact ⟨ih legal.2.1, ih' legal.2.2⟩

theorem Unary.sound {u : List Token} {e : Expr} (h : Unary u e) : Sound u e.WellFormed :=
  (Exp.unary h).sound

/-! ## Statements -/

theorem TypeName.sound {u : List Token} {ty : TypeExpr} (h : TypeName u ty) :
    Sound u ty.WellFormed := by
  intro legal
  cases h with
  | int => trivial
  | bool => trivial
  | void => trivial
  | struct keyword name =>
    simp only [allLegal_cons] at legal
    exact ident_wellFormed name legal.2.1

theorem Variable.sound {u : List Token} {d : Decl} (h : Variable u d) : Sound u d.IsVariable := by
  obtain ⟨written, name, -⟩ := h
  intro legal
  simp only [allLegal_append, allLegal_cons] at legal
  exact ⟨written.sound legal.1, ident_wellFormed name legal.2.1⟩

theorem Variables.sound {u : List Token} {ds : List Decl} (h : Variables u ds) :
    Sound u (∀ d ∈ ds, d.IsVariable) := by
  induction h with
  | nil => exact fun _ => List.forall_mem_nil _
  | cons first _ ih =>
    intro legal
    obtain ⟨legal, legal'⟩ := allLegal_append.mp legal
    exact List.forall_mem_cons.mpr ⟨first.sound legal, ih legal'⟩

theorem Block.sound {u : List Token} {b : Minim.Block} (h : Block u b) :
    Sound u b.WellFormed := by
  induction h using Block.rec (motive_1 := fun u st _ => Sound u st.WellFormed)
    (motive_2 := fun u ss _ => Sound u (Stmt.AllWellFormed ss)) with
  | assign e | call e =>
    intro legal
    exact e.sound (allLegal_append.mp legal).1
  | increment e location | decrement e location =>
    intro legal
    exact ⟨location, e.sound (allLegal_append.mp legal).1⟩
  | read _ _ e location =>
    intro legal
    simp only [allLegal_append, allLegal_cons] at legal
    exact ⟨location, e.sound legal.2.2.1⟩
  | write _ _ e =>
    intro legal
    simp only [allLegal_append, allLegal_cons] at legal
    exact e.sound legal.2.2.1
  | ret => exact fun _ => nofun
  | retValue _ e =>
    intro legal
    simp only [allLegal_append, allLegal_cons] at legal
    rintro value ⟨⟩
    exact e.sound legal.2.1
  | ifThen _ _ e _ _ ih | loop _ _ e _ _ ih =>
    intro legal
    simp only [allLegal_append, allLegal_cons] at legal
    exact ⟨e.sound legal.2.2.1, ih legal.2.2.2.2⟩
  | ifElse _ _ e _ _ _ _ ih ih' =>
    intro legal
    simp only [allLegal_append, allLegal_cons] at legal
    obtain ⟨-, -, cond, -, yes, -, no⟩ := legal
    exact ⟨e.sound cond, ih yes, ih' no⟩
  | nil => exact fun _ => trivial
  | cons _ _ ih ih' =>
    intro legal
    obtain ⟨legal, legal'⟩ := allLegal_append.mp legal
    exact ⟨ih legal, ih' legal'⟩
  | mk _ decls _ _ ih =>
    intro legal
    simp only [allLegal_append, allLegal_cons] at legal
    exact ⟨decls.sound legal.2.1, ih legal.2.2.1⟩

/-! ## Declarations -/

theorem Formal.sound {u : List Token} {f : Minim.Formal} (h : Formal u f) :
    Sound u f.WellFormed := by
  obtain ⟨written, name⟩ := h
  intro legal
  simp only [allLegal_append, allLegal_cons] at legal
  exact ⟨written.sound legal.1, ident_wellFormed name legal.2.1⟩

theorem MoreFormals.sound {u : List Token} {fs : List Minim.Formal} (h : MoreFormals u fs) :
    Sound u (∀ f ∈ fs, f.WellFormed) := by
  induction h with
  | done => exact fun _ => List.forall_mem_nil _
  | more _ next _ ih =>
    intro legal
    simp only [allLegal_append, allLegal_cons] at legal
    exact List.forall_mem_cons.mpr ⟨next.sound legal.2.1, ih legal.2.2⟩

theorem FormalItems.sound {u : List Token} {fs : List Minim.Formal} (h : FormalItems u fs) :
    Sound u (∀ f ∈ fs, f.WellFormed) := by
  cases h with
  | none => exact fun _ => List.forall_mem_nil _
  | some first others =>
    intro legal
    obtain ⟨legal, legal'⟩ := allLegal_append.mp legal
    exact List.forall_mem_cons.mpr ⟨first.sound legal, others.sound legal'⟩

theorem Declaration.sound {u : List Token} {d : Decl} (h : Declaration u d) :
    Sound u d.WellFormed := by
  cases h with
  | var decl =>
    intro legal
    obtain ⟨written, name, semicolon⟩ := decl
    exact (Variable.mk written name semicolon).sound legal
  | func written name opening formals closing block =>
    intro legal
    simp only [allLegal_append, allLegal_cons] at legal
    obtain ⟨typeLegal, nameLegal, -, formalsLegal, -, blockLegal⟩ := legal
    exact ⟨written.sound typeLegal, ident_wellFormed name nameLegal, formals.sound formalsLegal,
      block.sound blockLegal⟩
  | struct keyword name opening fields closing | structEnded keyword name opening fields closing =>
    intro legal
    simp only [allLegal_append, allLegal_cons] at legal
    obtain ⟨-, nameLegal, -, fieldsLegal, -⟩ := legal
    exact ⟨ident_wellFormed name nameLegal, fields.sound fieldsLegal⟩

theorem Declarations.sound {u : List Token} {ds : List Decl} (h : Declarations u ds) :
    Sound u (∀ d ∈ ds, d.WellFormed) := by
  induction h with
  | nil => exact fun _ => List.forall_mem_nil _
  | cons first _ ih =>
    intro legal
    obtain ⟨legal, legal'⟩ := allLegal_append.mp legal
    exact List.forall_mem_cons.mpr ⟨first.sound legal, ih legal'⟩

theorem Program.sound {next : Token} {u : List Token} {T : Minim.Program}
    (h : Program next u T) : Sound u T.WellFormed := by
  obtain ⟨decls⟩ := h
  exact decls.sound

end Minim.Grammar
