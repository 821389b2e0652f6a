import Mathlib.Data.List.Basic
import Minim.Proofs.Parser.Program
import Minim.Proofs.Syntax.Edits
import Minim.Proofs.Token.Layout

/-!
# Moved tokens

A tree takes its positions from the tokens that it is read from, and the parser does not look at
them. So tokens that stand elsewhere are read as the same tree, which stands elsewhere.
-/

namespace Minim

variable (shift : Position → Position)

/-- An identifier in another place. -/
def Ident.move (name : Ident) : Ident := { name with pos := shift name.pos }

/-- A tree in another place. -/
def Edit.move : Edit := { pos := shift, ident := Ident.move shift }

theorem TypeExpr.pos_move (type : TypeExpr) :
    (type.edit (.move shift)).pos = (Edit.move shift).pos type.pos := by
  cases type <;> rfl

theorem Expr.pos_move (e : Expr) : (e.edit (.move shift)).pos = (Edit.move shift).pos e.pos := by
  cases e <;> rfl

namespace Grammar

theorem startOf_move {u : List Token} (nonempty : u ≠ []) :
    (Edit.move shift).pos (startOf u) = startOf (u.map (Token.move shift)) := by
  cases u with
  | nil => exact absurd rfl nonempty
  | cons => rfl

theorem Exp.startOf_move {n : Nat} {u : List Token} {e : Expr} (h : Exp n u e) :
    (Edit.move shift).pos (startOf u) = startOf (u.map (Token.move shift)) := by
  obtain ⟨t, w, rfl, -⟩ := h.begins
  rfl

/-! ## Expressions -/

theorem Exp.move {n : Nat} {u : List Token} {e : Expr} (h : Exp n u e) :
    Exp n (u.map (Token.move shift)) (e.edit (.move shift)) := by
  induction h using Exp.rec
    (motive_2 := fun u e _ => Unary (u.map (Token.move shift)) (e.edit (.move shift)))
    (motive_3 := fun u e _ => Suffixed (u.map (Token.move shift)) (e.edit (.move shift)))
    (motive_4 := fun u es _ => Args (u.map (Token.move shift)) (Expr.editAll (.move shift) es))
    (motive_5 := fun u es _ =>
      MoreArgs (u.map (Token.move shift)) (Expr.editAll (.move shift) es)) with
  | assign _ location equals _ ih ih' =>
    rename_i l r _ _
    rw [List.map_append, List.map_cons, Expr.edit, ← l.pos_move]
    exact .assign ih ((l.isLocation_edit _).trans location) equals ih'
  | binary _ operator _ ih ih' =>
    rename_i l r _ _
    rw [List.map_append, List.map_cons, Expr.edit, ← l.pos_move]
    exact .binary ih operator ih'
  | tighter level _ ih => exact .tighter level ih
  | unary _ ih => exact .unary ih
  | sign sign _ ih => exact .sign sign ih
  | suffixed _ ih => exact .suffixed ih
  | int kind => exact .int kind
  | string kind => exact .string kind
  | yes kind => exact .yes kind
  | no kind => exact .no kind
  | ident kind => exact .ident kind
  | paren opening _ closing ih =>
    rw [List.map_cons, List.map_append]
    exact .paren opening ih closing
  | dot _ location dot field ih =>
    rename_i l _
    rw [List.map_append, Expr.edit, ← l.pos_move]
    exact .dot ih ((l.isLocation_edit _).trans location) dot field
  | call _ opening _ closing ih ih' =>
    rw [List.map_append, List.map_cons, List.map_append]
    exact .call ih opening ih' closing
  | none => exact .none
  | some _ _ ih ih' =>
    rw [List.map_append]
    exact .some ih ih'
  | done => exact .done
  | more comma _ _ ih ih' =>
    rw [List.map_cons, List.map_append]
    exact .more comma ih ih'

/-- A location is no operation, in whatever place. -/
theorem Unary.move_of_isLocation {u : List Token} {e : Expr} (h : Unary u e)
    (location : e.isLocation = true) :
    Unary (u.map (Token.move shift)) (e.edit (.move shift)) :=
  .suffixed
    (((Exp.unary h).move shift).suffixed_of_isLocation ((e.isLocation_edit _).trans location))

/-! ## Types and variables -/

theorem TypeName.move {u : List Token} {type : TypeExpr} (h : TypeName u type) :
    Nonempty (TypeName (u.map (Token.move shift)) (type.edit (.move shift))) := by
  cases h with
  | int keyword => exact ⟨.int keyword⟩
  | bool keyword => exact ⟨.bool keyword⟩
  | void keyword => exact ⟨.void keyword⟩
  | struct keyword name => exact ⟨.struct keyword name⟩

theorem Variable.move {u : List Token} {d : Decl} (h : Variable u d) :
    Nonempty (Variable (u.map (Token.move shift)) (d.edit (.move shift))) := by
  obtain ⟨written, name, semicolon⟩ := h
  rename_i type
  obtain ⟨written⟩ := written.move shift
  rw [List.map_append, Decl.edit, ← type.pos_move]
  exact ⟨.mk written name semicolon⟩

theorem Variables.move {u : List Token} {ds : List Decl} (h : Variables u ds) :
    Nonempty (Variables (u.map (Token.move shift)) (Decl.editAll (.move shift) ds)) := by
  induction h with
  | nil => exact ⟨.nil⟩
  | cons first _ ih =>
    obtain ⟨first⟩ := first.move shift
    obtain ⟨others⟩ := ih
    rw [List.map_append]
    exact ⟨.cons first others⟩

/-! ## Statements -/

theorem Block.move {u : List Token} {b : Minim.Block} (h : Block u b) :
    Nonempty (Block (u.map (Token.move shift)) (b.edit (.move shift))) := by
  induction h using Block.rec
    (motive_1 := fun u st _ =>
      Nonempty (Statement (u.map (Token.move shift)) (st.edit (.move shift))))
    (motive_2 := fun u ss _ =>
      Nonempty (Statements (u.map (Token.move shift)) (Stmt.editAll (.move shift) ss))) with
  | assign e semicolon =>
    rw [List.map_append, Stmt.edit, e.startOf_move shift]
    exact ⟨.assign (e.move shift) semicolon⟩
  | call e semicolon =>
    rw [List.map_append, Stmt.edit, e.startOf_move shift]
    exact ⟨.call (e.move shift) semicolon⟩
  | increment e location operator semicolon =>
    rw [List.map_append, Stmt.edit, e.startOf_move shift]
    exact ⟨.increment (e.move shift) ((Expr.isLocation_edit _ _).trans location) operator semicolon⟩
  | decrement e location operator semicolon =>
    rw [List.map_append, Stmt.edit, e.startOf_move shift]
    exact ⟨.decrement (e.move shift) ((Expr.isLocation_edit _ _).trans location) operator semicolon⟩
  | read keyword operator e location semicolon =>
    rw [List.map_cons, List.map_cons, List.map_append]
    exact ⟨.read keyword operator (e.move_of_isLocation shift location)
      ((Expr.isLocation_edit _ _).trans location) semicolon⟩
  | write keyword operator e semicolon =>
    rw [List.map_cons, List.map_cons, List.map_append]
    exact ⟨.write keyword operator (e.move shift) semicolon⟩
  | ret keyword semicolon => exact ⟨.ret keyword semicolon⟩
  | retValue keyword e semicolon =>
    rw [List.map_cons, List.map_append]
    exact ⟨.retValue keyword (e.move shift) semicolon⟩
  | ifThen keyword opening e closing _ ih =>
    obtain ⟨body⟩ := ih
    rw [List.map_cons, List.map_cons, List.map_append, List.map_cons]
    exact ⟨.ifThen keyword opening (e.move shift) closing body⟩
  | ifElse keyword opening e closing _ otherwise _ ih ih' =>
    obtain ⟨yes⟩ := ih
    obtain ⟨no⟩ := ih'
    rw [List.map_cons, List.map_cons, List.map_append, List.map_cons, List.map_append,
      List.map_cons]
    exact ⟨.ifElse keyword opening (e.move shift) closing yes otherwise no⟩
  | loop keyword opening e closing _ ih =>
    obtain ⟨body⟩ := ih
    rw [List.map_cons, List.map_cons, List.map_append, List.map_cons]
    exact ⟨.loop keyword opening (e.move shift) closing body⟩
  | nil => exact ⟨.nil⟩
  | cons _ _ ih ih' =>
    obtain ⟨first⟩ := ih
    obtain ⟨others⟩ := ih'
    rw [List.map_append]
    exact ⟨.cons first others⟩
  | mk opening decls _ closing ih =>
    obtain ⟨decls⟩ := decls.move shift
    obtain ⟨stmts⟩ := ih
    rw [Block.edit, startOf_move shift (by simp), startOf_move shift (by simp), List.map_cons,
      List.map_append, List.map_append]
    exact ⟨.mk opening decls stmts closing⟩

theorem Block.startOf_move {u : List Token} {b : Minim.Block} (h : Block u b) :
    (Edit.move shift).pos (startOf u) = startOf (u.map (Token.move shift)) := by
  cases h
  rfl

/-! ## Declarations -/

theorem Formal.move {u : List Token} {formal : Minim.Formal} (h : Formal u formal) :
    Nonempty (Formal (u.map (Token.move shift)) (formal.edit (.move shift))) := by
  obtain ⟨written, name⟩ := h
  rename_i type
  obtain ⟨written⟩ := written.move shift
  rw [List.map_append, Formal.edit, ← type.pos_move]
  exact ⟨.mk written name⟩

theorem MoreFormals.move {u : List Token} {formals : List Minim.Formal}
    (h : MoreFormals u formals) : Nonempty (MoreFormals (u.map (Token.move shift))
      (formals.map (Formal.edit (.move shift)))) := by
  induction h with
  | done => exact ⟨.done⟩
  | more comma next _ ih =>
    obtain ⟨next⟩ := next.move shift
    obtain ⟨others⟩ := ih
    rw [List.map_cons, List.map_append]
    exact ⟨.more comma next others⟩

theorem FormalItems.move {u : List Token} {formals : List Minim.Formal}
    (h : FormalItems u formals) : Nonempty (FormalItems (u.map (Token.move shift))
      (formals.map (Formal.edit (.move shift)))) := by
  cases h with
  | none => exact ⟨.none⟩
  | some first others =>
    obtain ⟨first⟩ := first.move shift
    obtain ⟨others⟩ := others.move shift
    rw [List.map_append]
    exact ⟨.some first others⟩

theorem Declaration.move {u : List Token} {d : Decl} (h : Declaration u d) :
    Nonempty (Declaration (u.map (Token.move shift)) (d.edit (.move shift))) := by
  cases h with
  | var decl => exact (decl.move shift).map .var
  | func written name opening formals closing block =>
    rename_i type fs body
    obtain ⟨written⟩ := written.move shift
    obtain ⟨formals⟩ := formals.move shift
    obtain ⟨body⟩ := block.move shift
    rw [Decl.edit, ← type.pos_move, block.startOf_move shift, List.map_append, List.map_cons,
      List.map_cons, List.map_append, List.map_cons]
    exact ⟨.func written name opening formals closing body⟩
  | struct keyword name opening fields closing =>
    obtain ⟨fields⟩ := fields.move shift
    rw [Decl.edit, startOf_move shift (by simp), List.map_cons, List.map_cons, List.map_cons,
      List.map_append]
    exact ⟨.struct keyword name opening fields closing⟩
  | structEnded keyword name opening fields closing semicolon =>
    obtain ⟨fields⟩ := fields.move shift
    rw [Decl.edit, startOf_move shift (by simp), List.map_cons, List.map_cons, List.map_cons,
      List.map_append]
    exact ⟨.structEnded keyword name opening fields closing semicolon⟩

theorem Declarations.move {u : List Token} {ds : List Decl} (h : Declarations u ds) :
    Nonempty (Declarations (u.map (Token.move shift)) (Decl.editAll (.move shift) ds)) := by
  induction h with
  | nil => exact ⟨.nil⟩
  | cons first _ ih =>
    obtain ⟨first⟩ := first.move shift
    obtain ⟨others⟩ := ih
    rw [List.map_append]
    exact ⟨.cons first others⟩

theorem Program.move {next : Token} {u : List Token} {T : Minim.Program} (h : Program next u T) :
    Nonempty (Program (next.move shift) (u.map (Token.move shift)) (T.edit (.move shift))) := by
  obtain ⟨decls⟩ := h
  obtain ⟨moved⟩ := decls.move shift
  have starts : shift (u.headD next).pos =
      ((u.map (Token.move shift)).headD (next.move shift)).pos := by
    cases u <;> rfl
  rw [Program.edit]
  show Nonempty (Program _ _ ⟨shift (u.headD next).pos, shift (u.headD next).pos, _⟩)
  rw [starts]
  exact ⟨.mk moved⟩

end Grammar

/-! ## Lists of tokens -/

theorem beforeEnd_move (tokens : List Token) :
    beforeEnd (tokens.map (Token.move shift)) = (beforeEnd tokens).map (Token.move shift) :=
  List.takeWhile_map

theorem endOf_move {tokens : List Token} (ended : ∃ t ∈ tokens, t.kind = .eof) :
    endOf (tokens.map (Token.move shift)) = (endOf tokens).move shift := by
  rw [endOf, endOf, List.dropWhile_map]
  cases rest : tokens.dropWhile (·.kind != .eof) with
  | nil =>
    obtain ⟨t, mem, isEnd⟩ := ended
    have goes := List.dropWhile_eq_nil_iff.mp rest t mem
    rw [isEnd] at goes
    cases goes
  | cons t rest =>
    have same : ((·.kind != .eof) ∘ Token.move shift) = fun t : Token => t.kind != .eof := rfl
    rw [same, rest]
    rfl

/-- **Tokens that stand elsewhere are read as the same program**, which stands elsewhere. -/
theorem parseTokens_move {tokens : List Token} {T : Program} (ended : ∃ t ∈ tokens, t.kind = .eof)
    (read : parseTokens tokens = .ok T) :
    parseTokens (tokens.map (Token.move shift)) = .ok (T.edit (.move shift)) := by
  obtain ⟨derived⟩ := Parser.parseTokens_sound read
  obtain ⟨moved⟩ := derived.move shift
  refine Parser.parseTokens_complete ?_
  rwa [beforeEnd_move, endOf_move shift ended]

/-! ## One program after another -/

theorem Grammar.Declarations.append {u v : List Token} {ds es : List Decl} (h : Declarations u ds)
    (h' : Declarations v es) : Nonempty (Declarations (u ++ v) (ds ++ es)) := by
  induction h with
  | nil => exact ⟨h'⟩
  | cons first _ ih =>
    obtain ⟨others⟩ := ih
    rw [List.append_assoc]
    exact ⟨.cons first others⟩

/-- **Programs can be put one after the other.** The tokens of the one and then those of the other
are read as a program with the declarations of both. -/
theorem parseTokens_append {words tokens : List Token} {last : Token} {A B : Program}
    (goes : Grammar.EndFree words) (ends : last.kind = .eof)
    (readA : parseTokens (words ++ [last]) = .ok A) (readB : parseTokens tokens = .ok B) :
    ∃ T, parseTokens (words ++ tokens) = .ok T ∧ T.decls = A.decls ++ B.decls := by
  obtain ⟨⟨declsA⟩⟩ := Parser.parseTokens_sound readA
  obtain ⟨⟨declsB⟩⟩ := Parser.parseTokens_sound readB
  have before : beforeEnd (words ++ [last]) = words := by
    rw [(beforeEnd_append_of_endFree goes).1]
    simp [beforeEnd, ends]
  rw [before] at declsA
  obtain ⟨decls⟩ := declsA.append declsB
  have derived : Grammar.Program (endOf tokens) _ _ := .mk decls
  obtain ⟨before', last'⟩ := beforeEnd_append_of_endFree (r := tokens) goes
  rw [← before', ← last'] at derived
  exact ⟨_, Parser.parseTokens_complete derived, rfl⟩

end Minim
