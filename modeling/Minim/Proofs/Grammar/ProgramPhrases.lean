import Minim.Proofs.Grammar.Phrases

/-!
# Phrases of declarations and statements

Every node of a program has a phrase, by a rule for each sort of node. A list of declarations or
statements that is empty still has its place: it stands at the token that follows.
-/

namespace Minim.Grammar

/-! ## Types and variables -/

theorem TypeName.startsAt {u : List Token} {type : TypeExpr} (h : TypeName u type) :
    StartsAt u type.pos := by
  cases h <;> exact .cons _ _

theorem TypeName.phrased {u : List Token} {type : TypeExpr} (h : TypeName u type) :
    Phrased (.type type) u := by
  intro after
  have starts := h.startsAt
  cases h with
  | int kind | bool kind | void kind =>
    exact (Written.nil.token _ after).hasPhrase (.type (by rw [Token.type?, kind])) starts
      (starts.append _)
  | struct keyword name =>
    exact ((Phrased.name name).alone.token _ after).hasPhrase (.structType keyword) starts
      (starts.append _)

theorem Variable.phrased {u : List Token} {d : Decl} (h : Variable u d) : Phrased (.decl d) u := by
  obtain ⟨written, name, semicolon⟩ := h
  intro after
  exact (written.phrased _).leading ((Phrased.name name).written (Written.nil.token _) after)
    (.var semicolon) (written.startsAt.append _) rfl

theorem Variables.written {u : List Token} {ds : List Decl} (h : Variables u ds) :
    Written ((ds.map .decl).map .node) u := by
  induction h with
  | nil => exact Written.nil
  | cons first _ ih => exact first.phrased.written ih

/-- A list of variables has a phrase, if need be at the token that follows. -/
theorem Variables.hasPhrase {u after : List Token} {ds : List Decl} {pos : Position}
    (h : Variables u ds) (starts : StartsAt (u ++ after) pos) :
    HasPhrase after (.declList pos ds) u :=
  (h.written after).hasPhrase .decls starts starts

/-! ## Statements -/

/-- Tokens that begin with an expression have a first token. -/
theorem Exp.startsAt {n : Nat} {u : List Token} {e : Expr} (h : Exp n u e) :
    StartsAt u (startOf u) := by
  obtain ⟨t, v, rfl, -⟩ := h.begins
  exact .cons t v

/-- A statement has a phrase if it stands at its first token. -/
theorem Phrased.stmt {s : Stmt} {w : List Piece} {u : List Token}
    (made : Production (.stmt s) w) (covers : Written w u)
    (starts : StartsAt u s.pos) : Phrased (.stmt s) u :=
  fun after => (covers after).hasPhrase made starts (starts.append after)

/-- A block in braces has phrases for its two lists. -/
def CoversBlock (b : Minim.Block) (u : List Token) : Prop :=
  ∃ w, Braced b w ∧ Written w u

theorem Block.covers {u : List Token} {b : Minim.Block} (h : Block u b) : CoversBlock b u := by
  induction h using Block.rec (motive_1 := fun u s _ => Phrased (.stmt s) u)
    (motive_2 := fun u ss _ => Written ((ss.map .stmt).map .node) u) with
  | assign e semicolon =>
    exact .stmt (.assignStmt semicolon) (e.phrased.written (Written.nil.token _))
      (e.startsAt.append _)
  | call e semicolon =>
    exact .stmt (.callStmt semicolon) (e.phrased.written (Written.nil.token _))
      (e.startsAt.append _)
  | increment e _ operator semicolon =>
    exact .stmt (.increment operator semicolon)
      (e.phrased.written ((Written.nil.token _).token _)) (e.startsAt.append _)
  | decrement e _ operator semicolon =>
    exact .stmt (.decrement operator semicolon)
      (e.phrased.written ((Written.nil.token _).token _)) (e.startsAt.append _)
  | read keyword operator e _ semicolon =>
    exact .stmt (.read keyword operator semicolon)
      (((e.phrased.written (Written.nil.token _)).token _).token _) (.cons _ _)
  | write keyword operator e semicolon =>
    exact .stmt (.write keyword operator semicolon)
      (((e.phrased.written (Written.nil.token _)).token _).token _) (.cons _ _)
  | ret keyword semicolon =>
    exact .stmt (.ret keyword semicolon) ((Written.nil.token _).token _) (.cons _ _)
  | retValue keyword e semicolon =>
    exact .stmt (.retValue keyword semicolon)
      ((e.phrased.written (Written.nil.token _)).token _) (.cons _ _)
  | ifThen keyword opening e closing _ ih =>
    obtain ⟨w, braced, block⟩ := ih
    exact .stmt (.ifThen keyword opening closing braced)
      (((e.phrased.written (block.token _)).token _).token _) (.cons _ _)
  | ifElse keyword opening e closing _ otherwise _ ih ih' =>
    obtain ⟨w, braced, block⟩ := ih
    obtain ⟨w', braced', block'⟩ := ih'
    exact .stmt (.ifElse keyword opening closing braced otherwise braced')
      (((e.phrased.written ((block.append (block'.token _)).token _)).token _).token _) (.cons _ _)
  | loop keyword opening e closing _ ih =>
    obtain ⟨w, braced, block⟩ := ih
    exact .stmt (.loop keyword opening closing braced)
      (((e.phrased.written (block.token _)).token _).token _) (.cons _ _)
  | nil => exact Written.nil
  | cons _ _ ih ih' => exact ih.written ih'
  | @mk o c u v ds ss opening decls _ closing ih =>
    refine ⟨_, .mk opening closing, fun after => ?_⟩
    have last : StartsAt (v ++ [c] ++ after) (startOf (v ++ [c])) :=
      (StartsAt.startOf (by simp)).append after
    have first : StartsAt (u ++ (v ++ [c]) ++ after) (startOf (u ++ (v ++ [c]))) :=
      (StartsAt.startOf (by simp)).append after
    rw [List.append_assoc] at last first
    have stmts : HasPhrase (c :: after) (.stmtList (startOf (v ++ [c])) ss) v :=
      (ih (c :: after)).hasPhrase .stmts last last
    exact ((decls.hasPhrase first).covers (stmts.covers ((Covers.nil after).token c))).token o

/-! ## Declarations -/

theorem Formal.phrased {u : List Token} {f : Minim.Formal} (h : Formal u f) :
    Phrased (.formal f) u := by
  obtain ⟨written, name⟩ := h
  intro after
  exact (written.phrased _).leading ((Phrased.name name).alone after) .formal
    (written.startsAt.append _) rfl

theorem MoreFormals.covers {u : List Token} {fs : List Minim.Formal} (h : MoreFormals u fs) :
    CoversMore (fs.map .formal) u := by
  induction h with
  | done => exact .done
  | more comma next _ ih => exact .more comma next.phrased ih

theorem FormalItems.covers {u : List Token} {fs : List Minim.Formal} (h : FormalItems u fs) :
    CoversItems (fs.map .formal) u := by
  cases h with
  | none => exact .none
  | some first others => exact .some first.phrased others.covers

/-- A parameter list has a phrase, parentheses included. -/
theorem FormalItems.phrased {u : List Token} {fs : List Minim.Formal} {o c : Token}
    (h : FormalItems u fs) (opening : o.kind = .lparen) (closing : c.kind = .rparen) :
    Phrased (.formals { pos := o.pos, items := fs }) (o :: (u ++ [c])) := by
  intro after
  obtain ⟨w, items, inner⟩ := h.covers
  have enclosed := (inner.append (Written.nil.token c)).token o
  exact (enclosed after).hasPhrase (.formals opening items closing) (.cons o _) (.cons o _)

/-- A block has a phrase as the body of a function. -/
theorem Block.phrased {u : List Token} {b : Minim.Block} (h : Block u b) :
    Phrased (.body (startOf u) b) u := by
  intro after
  obtain ⟨w, braced, written⟩ := h.covers
  have starts : StartsAt u (startOf u) := by
    cases h
    exact .cons _ _
  exact (written after).hasPhrase (.body braced) starts (starts.append after)

/-- A struct has a phrase, with or without a semicolon after it. -/
theorem Variables.structPhrased {u v : List Token} {k n o c : Token} {ds : List Decl}
    {w : List Piece} (fields : Variables u ds) (keyword : k.kind = .structWord)
    (name : n.kind = .identifier) (opening : o.kind = .lbrace) (closing : c.kind = .rbrace)
    (ending : w = [] ∨ ∃ e : Token, e.kind = .semicolon ∧ w = [.token e]) (rest : Written w v) :
    Phrased (.decl (.struct k.pos n.ident (startOf (u ++ c :: v)) ds))
      (k :: n :: o :: (u ++ c :: v)) := by
  intro after
  have starts : StartsAt (u ++ c :: v ++ after) (startOf (u ++ c :: v)) :=
    (StartsAt.startOf (by simp)).append after
  rw [List.append_assoc] at starts
  have inside := (fields.hasPhrase starts).covers (rest.token c after)
  have all := ((Phrased.name name _).covers (inside.token o)).token k
  exact all.hasPhrase (.struct keyword opening closing ending) (.cons k _) (.cons k _)

theorem Declaration.phrased {u : List Token} {d : Decl} (h : Declaration u d) :
    Phrased (.decl d) u := by
  cases h with
  | var decl => exact decl.phrased
  | @func u v w n o c type fs body written name opening formals closing block =>
    intro after
    have parts := (Phrased.name name).written
      ((formals.phrased opening closing).written block.phrased.alone)
    have tokens : u ++ n :: o :: (v ++ c :: w) = u ++ ([n] ++ (o :: (v ++ [c]) ++ w)) := by simp
    rw [tokens]
    exact (written.phrased _).leading (parts after) .func (written.startsAt.append _) rfl
  | struct keyword name opening fields closing =>
    exact fields.structPhrased keyword name opening closing (.inl rfl) Written.nil
  | structEnded keyword name opening fields closing semicolon =>
    exact fields.structPhrased keyword name opening closing (.inr ⟨_, semicolon, rfl⟩)
      (Written.nil.token _)

theorem Declarations.written {u : List Token} {ds : List Decl} (h : Declarations u ds) :
    Written ((ds.map .decl).map .node) u := by
  induction h with
  | nil => exact Written.nil
  | cons first _ ih => exact first.phrased.written ih

/-- A program has a phrase. -/
theorem Program.hasPhrase {next : Token} {u : List Token} {T : Minim.Program}
    (h : Program next u T) : HasPhrase [next] (.program T) u := by
  obtain ⟨decls⟩ := h
  have starts : StartsAt (u ++ [next]) (u.headD next).pos := by cases u <;> exact .cons _ _
  have list : HasPhrase [next] (.declList (u.headD next).pos _) u :=
    (decls.written [next]).hasPhrase .decls starts starts
  exact list.alone.hasPhrase .program starts starts

end Minim.Grammar
