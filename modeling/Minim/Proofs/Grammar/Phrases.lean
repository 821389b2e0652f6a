import Minim.Proofs.Grammar.Unfolding
import Minim.Proofs.Token.Order

/-!
# Where nodes begin

What the grammar derives unfolds to the tokens it is derived from, and every node in it stands where
its phrase begins: an expression at the first token that is no opening parenthesis, a list at the
token that follows what comes before it, any other node at its first token. Only the arguments of a
call stand before their phrase, with the called name.

Over the tokens the nodes are met in order: whoever goes from token to token comes by all of them
without ever turning back.
-/

namespace Minim

/-! ## Going over tokens -/

/-- Going over the tokens `x` up to where `y` is left, one comes by some positions, each of them
that of the token at hand. -/
inductive Sweeps : List Token → List Position → List Token → Prop
  | done {x : List Token} : Sweeps x [] x
  | skip {t : Token} {x y : List Token} {ps : List Position} (rest : Sweeps x ps y) :
      Sweeps (t :: x) ps y
  | stand {t : Token} {x y : List Token} {ps : List Position} (rest : Sweeps (t :: x) ps y) :
      Sweeps (t :: x) (t.pos :: ps) y

namespace Sweeps

variable {x y z : List Token} {p : Position} {ps qs : List Position}

theorem trans (h : Sweeps x ps y) (h' : Sweeps y qs z) : Sweeps x (ps ++ qs) z := by
  induction h with
  | done => exact h'
  | skip _ ih => exact .skip (ih h')
  | stand _ ih => exact .stand (ih h')

/-- Where one comes by a position, one may stay. -/
theorem again (h : Sweeps x (p :: ps) y) : Sweeps x (p :: p :: ps) y := by
  generalize list : p :: ps = qs at h
  induction h with
  | done => cases list
  | skip _ ih => exact .skip (ih list)
  | stand rest =>
    cases list
    exact .stand (.stand rest)

theorem exists_token (h : Sweeps x ps y) : ∀ p ∈ ps, ∃ t ∈ x, t.pos = p := by
  induction h with
  | done => exact nofun
  | skip _ ih =>
    intro p mem
    obtain ⟨t, inRest, pos⟩ := ih p mem
    exact ⟨t, List.mem_cons_of_mem _ inRest, pos⟩
  | stand _ ih =>
    intro p mem
    rcases List.mem_cons.mp mem with rfl | mem
    · exact ⟨_, List.mem_cons_self, rfl⟩
    · exact ih p mem

/-- Over tokens that stand in order the positions never decrease. -/
theorem sorted (h : Sweeps x ps y) (order : InOrder x) : ps.Pairwise (· ≤ ·) := by
  induction h with
  | done => exact .nil
  | skip _ ih => exact ih order.of_cons
  | @stand t x y ps rest ih =>
    refine List.pairwise_cons.mpr ⟨fun p mem => ?_, ih order⟩
    obtain ⟨t', inRest, rfl⟩ := rest.exists_token p mem
    rcases List.mem_cons.mp inRest with rfl | later
    · exact le_refl _
    · exact (List.rel_of_pairwise_cons order later).le

end Sweeps

/-! ## First tokens -/

/-- Tokens of which the first one has a position. -/
def StartsAt (u : List Token) (pos : Position) : Prop :=
  u.head?.map Token.pos = some pos

/-- Tokens of which the first one that is no opening parenthesis has a position. -/
def OpensAt (u : List Token) (pos : Position) : Prop :=
  (u.find? (·.kind ≠ .lparen)).map Token.pos = some pos

namespace StartsAt

theorem cons (t : Token) (u : List Token) : StartsAt (t :: u) t.pos :=
  rfl

theorem append {u : List Token} {pos : Position} (h : StartsAt u pos) (v : List Token) :
    StartsAt (u ++ v) pos := by
  cases u with
  | nil => cases h
  | cons t u => exact h

theorem startOf {u : List Token} (nonempty : u ≠ []) : StartsAt u (Grammar.startOf u) := by
  cases u with
  | nil => exact absurd rfl nonempty
  | cons t u => rfl

theorem sweeps {x y : List Token} {pos : Position} {ps : List Position} (h : StartsAt x pos)
    (rest : Sweeps x ps y) : Sweeps x (pos :: ps) y := by
  cases x with
  | nil => cases h
  | cons t x =>
    cases h
    exact .stand rest

end StartsAt

namespace OpensAt

theorem of_kind {t : Token} {kind : TokenKind} (h : t.kind = kind) (other : kind ≠ .lparen)
    (u : List Token) : OpensAt (t :: u) t.pos := by
  simp [OpensAt, h, other]

theorem paren {t : Token} (opening : t.kind = .lparen) {u : List Token} {pos : Position}
    (h : OpensAt u pos) : OpensAt (t :: u) pos := by
  rw [OpensAt, List.find?_cons_of_neg (by simp [opening])]
  exact h

theorem append {u : List Token} {pos : Position} (h : OpensAt u pos) (v : List Token) :
    OpensAt (u ++ v) pos := by
  obtain ⟨t, found, rfl⟩ := Option.map_eq_some_iff.mp h
  rw [OpensAt, List.find?_append, found]
  rfl

end OpensAt

/-- A node stands where its phrase begins. The arguments of a call do not, and nothing is said
about them. -/
def Span.Begins : Span → Prop
  | ⟨.exprList _ _, _, _⟩ => True
  | ⟨.expr e, u, _⟩ => OpensAt u e.pos
  | ⟨.program T, u, after⟩ => StartsAt (u ++ after) T.pos
  | ⟨.declList pos _, u, after⟩ => StartsAt (u ++ after) pos
  | ⟨.stmtList pos _, u, after⟩ => StartsAt (u ++ after) pos
  | ⟨n, u, _⟩ => StartsAt u n.pos

namespace Grammar

/-! ## Phrases -/

/-- Nodes stand where their phrases begin, and one comes by them in going over the tokens. -/
structure Placed (after u : List Token) (spans : List Span) : Prop where
  begins : ∀ s ∈ spans, s.Begins
  sweeps : Sweeps (u ++ after) (spans.map (·.node.pos)) after

/-- Pieces unfold to tokens, with every node in its place. -/
def Covers (after : List Token) (w : List Piece) (u : List Token) : Prop :=
  ∃ spans, Unfolds after w u spans ∧ Placed after u spans

/-- A node is made of pieces that unfold to tokens, with every node in its place, itself included.
-/
def HasPhrase (after : List Token) (n : Node) (u : List Token) : Prop :=
  ∃ w spans, Production n w ∧ Unfolds after w u spans ∧ Placed after u (⟨n, u, after⟩ :: spans)

/-- Pieces unfold to tokens, with every node in its place, whatever follows. -/
def Written (w : List Piece) (u : List Token) : Prop :=
  ∀ after, Covers after w u

/-- A node has a phrase whatever follows. -/
def Phrased (n : Node) (u : List Token) : Prop :=
  ∀ after, HasPhrase after n u

section

variable {after u u' : List Token} {n l : Node} {w w' : List Piece}

theorem Covers.nil (after : List Token) : Covers after [] [] :=
  ⟨[], .nil, List.forall_mem_nil _, .done⟩

theorem Covers.token (h : Covers after w u) (t : Token) :
    Covers after (.token t :: w) (t :: u) := by
  obtain ⟨spans, unfolds, begins, sweeps⟩ := h
  exact ⟨spans, .token unfolds, begins, .skip sweeps⟩

theorem Placed.append {spans spans' : List Span} (h : Placed (u' ++ after) u spans)
    (h' : Placed after u' spans') : Placed after (u ++ u') (spans ++ spans') := by
  refine ⟨List.forall_mem_append.mpr ⟨h.begins, h'.begins⟩, ?_⟩
  rw [List.map_append, List.append_assoc]
  exact h.sweeps.trans h'.sweeps

theorem Covers.append (h : Covers (u' ++ after) w u) (h' : Covers after w' u') :
    Covers after (w ++ w') (u ++ u') := by
  obtain ⟨spans, unfolds, placed⟩ := h
  obtain ⟨spans', unfolds', placed'⟩ := h'
  exact ⟨_, unfolds.append unfolds', placed.append placed'⟩

theorem HasPhrase.covers (h : HasPhrase (u' ++ after) n u) (others : Covers after w u') :
    Covers after (.node n :: w) (u ++ u') := by
  obtain ⟨v, spans, made, unfolds, placed⟩ := h
  obtain ⟨spans', unfolds', placed'⟩ := others
  exact ⟨_, .node made unfolds unfolds', placed.append placed'⟩

theorem HasPhrase.alone (h : HasPhrase after n u) : Covers after [.node n] u := by
  have covers : Covers after [.node n] (u ++ []) := HasPhrase.covers h (.nil after)
  rwa [List.append_nil] at covers

theorem Written.nil : Written [] [] :=
  Covers.nil

theorem Written.token (h : Written w u) (t : Token) : Written (.token t :: w) (t :: u) :=
  fun after => (h after).token t

theorem Written.append (h : Written w u) (h' : Written w' u') : Written (w ++ w') (u ++ u') :=
  fun after => (h _).append (h' after)

theorem Phrased.written (h : Phrased n u) (others : Written w u') :
    Written (.node n :: w) (u ++ u') :=
  fun after => (h _).covers (others after)

theorem Phrased.alone (h : Phrased n u) : Written [.node n] u :=
  fun after => (h after).alone

/-- A node that stands at the first token has a phrase. -/
theorem Covers.hasPhrase (h : Covers after w u) (made : Production n w)
    (begins : Span.Begins ⟨n, u, after⟩) (first : StartsAt (u ++ after) n.pos) :
    HasPhrase after n u := by
  obtain ⟨spans, unfolds, placed⟩ := h
  exact ⟨w, spans, made, unfolds, List.forall_mem_cons.mpr ⟨begins, placed.begins⟩,
    first.sweeps placed.sweeps⟩

/-- A node that stands where the first node of its phrase does has a phrase. -/
theorem HasPhrase.leading (h : HasPhrase (u' ++ after) l u) (others : Covers after w u')
    (made : Production n (.node l :: w)) (begins : Span.Begins ⟨n, u ++ u', after⟩)
    (same : n.pos = l.pos) : HasPhrase after n (u ++ u') := by
  obtain ⟨v, spans, made', unfolds, placed⟩ := h
  obtain ⟨spans', unfolds', placed'⟩ := others
  have all := placed.append placed'
  refine ⟨_, _, made, .node made' unfolds unfolds',
    List.forall_mem_cons.mpr ⟨begins, all.begins⟩, ?_⟩
  rw [List.map_cons, same]
  exact all.sweeps.again

/-- Parentheses around a phrase belong to it. -/
theorem HasPhrase.paren {e : Expr} {o c : Token} (opening : o.kind = .lparen)
    (h : HasPhrase (c :: after) (.expr e) u) (closing : c.kind = .rparen) :
    HasPhrase after (.expr e) (o :: (u ++ [c])) := by
  obtain ⟨w, spans, made, unfolds, begins, sweeps⟩ := h
  obtain ⟨first, others⟩ := List.forall_mem_cons.mp begins
  have enclosed : Unfolds after (w ++ [.token c]) (u ++ [c]) (spans ++ []) :=
    unfolds.append (.token .nil)
  rw [List.append_nil] at enclosed
  refine ⟨_, spans, .paren opening made closing, .token enclosed,
    List.forall_mem_cons.mpr ⟨(first.append [c]).paren opening, others⟩, .skip ?_⟩
  simpa using sweeps.trans (.skip .done)

end

/-! ## Expressions -/

/-- An expression stands at its first token that is no opening parenthesis. -/
theorem Exp.opensAt {n : Nat} {u : List Token} {e : Expr} (h : Exp n u e) : OpensAt u e.pos := by
  induction h using Exp.rec (motive_2 := fun u e _ => OpensAt u e.pos)
    (motive_3 := fun u e _ => OpensAt u e.pos) (motive_4 := fun _ _ _ => True)
    (motive_5 := fun _ _ _ => True) with
  | assign _ _ _ _ ih => exact ih.append _
  | binary _ _ _ ih => exact ih.append _
  | tighter _ _ ih => exact ih
  | unary _ ih => exact ih
  | sign sign => rcases sign with kind | kind <;> exact .of_kind kind (by decide) _
  | suffixed _ ih => exact ih
  | int kind | string kind | yes kind | no kind | ident kind => exact .of_kind kind (by decide) _
  | paren opening _ _ ih => exact (ih.append _).paren opening
  | dot _ _ _ _ ih => exact ih.append _
  | call _ _ _ _ ih => exact ih.append _
  | none => trivial
  | some => trivial
  | done => trivial
  | more => trivial

theorem Unary.opensAt {u : List Token} {e : Expr} (h : Unary u e) : OpensAt u e.pos :=
  (Exp.unary h).opensAt

/-- Items with commas between them have phrases. -/
def CoversItems (ns : List Node) (u : List Token) : Prop :=
  ∃ w, Items ns w ∧ Written w u

/-- Items with a comma before each of them have phrases. -/
def CoversMore (ns : List Node) (u : List Token) : Prop :=
  ∃ w, MoreItems ns w ∧ Written w u

theorem CoversItems.none : CoversItems [] [] :=
  ⟨[], .none, Written.nil⟩

theorem CoversMore.done : CoversMore [] [] :=
  ⟨[], .done, Written.nil⟩

section

variable {n : Node} {ns : List Node} {u v : List Token}

theorem CoversItems.some (first : Phrased n u) (others : CoversMore ns v) :
    CoversItems (n :: ns) (u ++ v) := by
  obtain ⟨w, items, covers⟩ := others
  exact ⟨_, .some items, first.written covers⟩

theorem CoversMore.more {t : Token} (comma : t.kind = .comma)
    (next : Phrased n u) (others : CoversMore ns v) :
    CoversMore (n :: ns) (t :: (u ++ v)) := by
  obtain ⟨w, items, covers⟩ := others
  exact ⟨_, .more comma items, (next.written covers).token t⟩

end

/-- A leaf has its token as its phrase. -/
theorem Phrased.leaf {t : Token} {e : Expr} (reads : t.leaf? = some e) (pos : e.pos = t.pos)
    (other : t.kind ≠ .lparen) : Phrased (.expr e) [t] := by
  intro after
  refine ((Covers.nil after).token t).hasPhrase (.leaf reads) ?begins ?first
  case begins =>
    have opens := OpensAt.of_kind rfl other []
    rwa [← pos] at opens
  case first => exact congrArg some pos.symm

theorem Phrased.name {t : Token} (name : t.kind = .identifier) :
    Phrased (.expr (.ident t.ident)) [t] :=
  .leaf (by rw [Token.leaf?, if_pos name]) rfl (by simp [name])

theorem Phrased.literal {t : Token} {e : Expr} (reads : t.literal? = some e) :
    Phrased (.expr e) [t] := by
  unfold Token.literal? at reads
  split at reads
  case h_5 => cases reads
  all_goals
    rename_i kind
    cases reads
    exact .leaf (by simp [Token.leaf?, Token.literal?, kind]) rfl (by simp [kind])

/-- A call has a phrase: its arguments stand where the called name does. -/
theorem Phrased.call {u v : List Token} {o c : Token} {callee : Ident} {es : List Expr}
    (function : Phrased (.expr (.ident callee)) u) (opens : OpensAt u callee.pos)
    (opening : o.kind = .lparen) (args : CoversItems (es.map .expr) v)
    (closing : c.kind = .rparen) :
    Phrased (.expr (.call callee.pos callee callee.pos es)) (u ++ o :: (v ++ [c])) := by
  intro after
  obtain ⟨w, spans, made, unfolds, begins, sweeps⟩ := function (o :: (v ++ [c]) ++ after)
  obtain ⟨-, rfl⟩ := unfolds.of_tokens (made.pieces_of_leaf? rfl).1
  obtain ⟨w', items, covers⟩ := args
  obtain ⟨spans, inner, placed⟩ := covers ([c] ++ after)
  have written : Unfolds after [.node (.exprList callee.pos es), .token c] (v ++ [c])
      (⟨.exprList callee.pos es, v, [c] ++ after⟩ :: (spans ++ [])) :=
    .node (.args items) inner (.token .nil)
  refine ⟨_, _, .call opening closing, .node made unfolds (.token written), ?begins, ?sweeps⟩
  case begins =>
    simp only [List.forall_mem_cons, List.nil_append, List.append_nil]
    exact ⟨opens.append _, begins _ List.mem_cons_self, trivial, placed.begins⟩
  case sweeps =>
    -- One stays at the called name for the call, the name and the arguments.
    have first : Sweeps (u ++ (o :: (v ++ [c]) ++ after)) [callee.pos] (o :: (v ++ [c]) ++ after) :=
      sweeps
    have rest := placed.sweeps.trans (.skip (t := c) .done)
    rw [← List.append_assoc] at rest
    rw [List.append_assoc]
    simpa [Node.pos, Expr.pos] using first.again.again.trans (.skip rest)

/-- Every expression has a phrase. -/
theorem Exp.phrased {n : Nat} {u : List Token} {e : Expr} (h : Exp n u e) :
    Phrased (.expr e) u := by
  induction h using Exp.rec (motive_2 := fun u e _ => Phrased (.expr e) u)
    (motive_3 := fun u e _ => Phrased (.expr e) u)
    (motive_4 := fun u es _ => CoversItems (es.map .expr) u)
    (motive_5 := fun u es _ => CoversMore (es.map .expr) u) with
  | assign target _ equals _ ih ih' =>
    intro after
    have opens := (Unary.suffixed target).opensAt.append
    exact (ih _).leading (ih'.alone.token _ after) (.assign equals) (opens _) rfl
  | binary left operator _ ih ih' =>
    intro after
    have covers := fun t => ih'.alone.token t after
    have binary := mem_operators_of_mem_operatorsAt operator
    exact (ih _).leading (covers _) (.binary binary) (left.opensAt.append _) rfl
  | tighter _ _ ih => exact ih
  | unary _ ih => exact ih
  | @sign t u e sign _ ih =>
    intro after
    have other : t.kind ≠ .lparen := by rcases sign with kind | kind <;> simp [kind]
    exact (ih.alone.token t after).hasPhrase (.unary sign) (.of_kind rfl other u) (.cons t _)
  | suffixed _ ih => exact ih
  | int kind | string kind | yes kind | no kind => exact .literal (by rw [Token.literal?, kind])
  | ident kind => exact .name kind
  | paren opening _ closing ih => exact fun after => (ih _).paren opening closing
  | dot base _ dot field ih =>
    intro after
    have opens := (Unary.suffixed base).opensAt.append
    exact (ih _).leading ((Phrased.name field).alone.token _ after) (.dot dot) (opens _) rfl
  | call function opening _ closing ih ih' =>
    exact ih.call (Unary.suffixed function).opensAt opening ih' closing
  | none => exact .none
  | some _ _ ih ih' => exact .some ih ih'
  | done => exact .done
  | more comma _ _ ih ih' => exact .more comma ih ih'

theorem Unary.phrased {u : List Token} {e : Expr} (h : Unary u e) : Phrased (.expr e) u :=
  (Exp.unary h).phrased

end Grammar

end Minim
