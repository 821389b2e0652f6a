import Minim.Proofs.Grammar.Program
import Minim.Syntax.Outline

/-!
# The phrases of nodes

A production says what a node is made of: tokens of its own, and other nodes. To unfold a node is to
replace it by what it is made of, and the nodes in that likewise, until tokens alone are left. So
every node of a tree gets its phrase, the tokens that it is unfolded to, and the tokens that follow
them. The nodes are met in the order in which an outline has them, a node before its children.

Productions leave positions open, but for leaves and for the arguments of a call, which stand where
the called name does.
-/

namespace Minim

/-! ## Leaves -/

/-- The literal that a token is, if it is one. -/
def Token.literal? (t : Token) : Option Expr :=
  match t.kind with
  | .integer => some (.int t.pos t.value)
  | .string => some (.string t.pos t.value)
  | .trueWord => some (.bool t.pos true)
  | .falseWord => some (.bool t.pos false)
  | _ => none

/-- The literal or the name that a token is, if it is one. -/
def Token.leaf? (t : Token) : Option Expr :=
  if t.kind = .identifier then some (.ident t.ident) else t.literal?

/-- The type that a token is by itself, if it is one. -/
def Token.type? (t : Token) : Option TypeExpr :=
  match t.kind with
  | .intType => some (.int t.pos)
  | .boolType => some (.bool t.pos)
  | .voidType => some (.void t.pos)
  | _ => none

namespace Node

/-- The literal that a node is, if it is one. -/
def literal? : Node → Option Expr
  | expr (.int pos value) => some (.int pos value)
  | expr (.string pos written) => some (.string pos written)
  | expr (.bool pos value) => some (.bool pos value)
  | _ => none

/-- The literal or the name that a node is, if it is one. -/
def leaf? : Node → Option Expr
  | expr (.ident name) => some (.ident name)
  | n => n.literal?

/-- The literals of a tree in the order of their fields. -/
def literals (node : Node) : List Expr := node.subtrees.filterMap literal?

/-- The literals and names of a tree in the order of their fields. -/
def leaves (node : Node) : List Expr := node.subtrees.filterMap leaf?

end Node

/-! ## Productions -/

/-- What a node is made of: a token of its own, or another node. -/
inductive Piece
  | token (t : Token)
  | node (n : Node)

namespace Piece

/-- The tokens among some pieces. -/
def tokens : List Piece → List Token
  | [] => []
  | token t :: w => t :: tokens w
  | node _ :: w => tokens w

/-- The nodes among some pieces. -/
def nodes : List Piece → List Node
  | [] => []
  | token _ :: w => nodes w
  | node n :: w => n :: nodes w

/-- A name as a piece. -/
def name (n : Ident) : Piece := node (.expr (.ident n))

@[simp] theorem tokens_append (w w' : List Piece) : tokens (w ++ w') = tokens w ++ tokens w' := by
  fun_induction tokens w with
  | case1 => rfl
  | case2 t w ih => exact congrArg (t :: ·) ih
  | case3 n w ih => exact ih

@[simp] theorem nodes_append (w w' : List Piece) : nodes (w ++ w') = nodes w ++ nodes w' := by
  fun_induction nodes w with
  | case1 => rfl
  | case2 t w ih => exact ih
  | case3 n w ih => exact congrArg (n :: ·) ih

theorem nodes_map (ns : List Node) : nodes (ns.map node) = ns := by
  induction ns with
  | nil => rfl
  | cons n ns ih => exact congrArg (n :: ·) ih

theorem tokens_map (ns : List Node) : tokens (ns.map node) = [] := by
  induction ns with
  | nil => rfl
  | cons n ns ih => exact ih

end Piece

namespace Grammar

/-- Nodes with a comma before each of them. -/
inductive MoreItems : List Node → List Piece → Prop
  | done : MoreItems [] []
  | more {t : Token} {n : Node} {ns : List Node} {w : List Piece} (comma : t.kind = .comma)
      (others : MoreItems ns w) : MoreItems (n :: ns) (.token t :: .node n :: w)

/-- Nodes with commas between them. -/
inductive Items : List Node → List Piece → Prop
  | none : Items [] []
  | some {n : Node} {ns : List Node} {w : List Piece} (others : MoreItems ns w) :
      Items (n :: ns) (.node n :: w)

/-- The two lists of a block in braces. -/
inductive Braced (b : Minim.Block) : List Piece → Prop
  | mk {o c : Token} (opening : o.kind = .lbrace) (closing : c.kind = .rbrace) :
      Braced b [.token o, .node (Node.declsOf b), .node (Node.stmtsOf b), .token c]

/-- What a node is made of. -/
inductive Production : Node → List Piece → Prop
  | leaf {t : Token} {e : Expr} (reads : t.leaf? = some e) : Production (.expr e) [.token t]
  | paren {o c : Token} {e : Expr} {w : List Piece} (opening : o.kind = .lparen)
      (inner : Production (.expr e) w) (closing : c.kind = .rparen) :
      Production (.expr e) (.token o :: (w ++ [.token c]))
  | assign {pos : Position} {t : Token} {l r : Expr} (equals : t.kind = .assign) :
      Production (.expr (.assign pos l r)) [.node (.expr l), .token t, .node (.expr r)]
  | binary {pos : Position} {t : Token} {l r : Expr} (operator : t.kind ∈ operators) :
      Production (.expr (.binary pos l t.value r)) [.node (.expr l), .token t, .node (.expr r)]
  | unary {pos : Position} {t : Token} {e : Expr} (sign : t.kind = .minus ∨ t.kind = .notOp) :
      Production (.expr (.unary pos t.value e)) [.token t, .node (.expr e)]
  | dot {pos : Position} {t : Token} {l : Expr} {field : Ident} (dot : t.kind = .dot) :
      Production (.expr (.dot pos l field)) [.node (.expr l), .token t, .name field]
  | call {pos : Position} {o c : Token} {callee : Ident} {args : List Expr}
      (opening : o.kind = .lparen) (closing : c.kind = .rparen) :
      Production (.expr (.call pos callee callee.pos args))
        [.name callee, .token o, .node (.exprList callee.pos args), .token c]
  | args {pos : Position} {args : List Expr} {w : List Piece} (items : Items (args.map .expr) w) :
      Production (.exprList pos args) w
  | type {t : Token} {type : TypeExpr} (reads : t.type? = some type) :
      Production (.type type) [.token t]
  | structType {pos : Position} {t : Token} {name : Ident} (keyword : t.kind = .structWord) :
      Production (.type (.struct pos name)) [.token t, .name name]
  | assignStmt {pos : Position} {c : Token} {a : Assignment} (semicolon : c.kind = .semicolon) :
      Production (.stmt (.assign pos a)) [.node (.expr a.expr), .token c]
  | callStmt {pos : Position} {c : Token} {call : Call} (semicolon : c.kind = .semicolon) :
      Production (.stmt (.call pos call)) [.node (.expr call.expr), .token c]
  | increment {pos : Position} {o c : Token} {place : Expr} (operator : o.kind = .increment)
      (semicolon : c.kind = .semicolon) :
      Production (.stmt (.increment pos place)) [.node (.expr place), .token o, .token c]
  | decrement {pos : Position} {o c : Token} {place : Expr} (operator : o.kind = .decrement)
      (semicolon : c.kind = .semicolon) :
      Production (.stmt (.decrement pos place)) [.node (.expr place), .token o, .token c]
  | read {pos : Position} {k o c : Token} {place : Expr} (keyword : k.kind = .inputWord)
      (operator : o.kind = .readOp) (semicolon : c.kind = .semicolon) :
      Production (.stmt (.read pos place)) [.token k, .token o, .node (.expr place), .token c]
  | write {pos : Position} {k o c : Token} {value : Expr} (keyword : k.kind = .dispWord)
      (operator : o.kind = .writeOp) (semicolon : c.kind = .semicolon) :
      Production (.stmt (.write pos value)) [.token k, .token o, .node (.expr value), .token c]
  | ret {pos : Position} {k c : Token} (keyword : k.kind = .returnWord)
      (semicolon : c.kind = .semicolon) :
      Production (.stmt (.ret pos none)) [.token k, .token c]
  | retValue {pos : Position} {k c : Token} {value : Expr} (keyword : k.kind = .returnWord)
      (semicolon : c.kind = .semicolon) :
      Production (.stmt (.ret pos (some value))) [.token k, .node (.expr value), .token c]
  | ifThen {pos : Position} {k o c : Token} {cond : Expr} {body : Minim.Block} {w : List Piece}
      (keyword : k.kind = .ifWord) (opening : o.kind = .lparen) (closing : c.kind = .rparen)
      (block : Braced body w) :
      Production (.stmt (.ifThen pos cond body))
        (.token k :: .token o :: .node (.expr cond) :: .token c :: w)
  | ifElse {pos : Position} {k o c l : Token} {cond : Expr} {yes no : Minim.Block}
      {w w' : List Piece} (keyword : k.kind = .ifWord) (opening : o.kind = .lparen)
      (closing : c.kind = .rparen) (block : Braced yes w) (otherwise : l.kind = .elseWord)
      (block' : Braced no w') :
      Production (.stmt (.ifElse pos cond yes no))
        (.token k :: .token o :: .node (.expr cond) :: .token c :: (w ++ .token l :: w'))
  | loop {pos : Position} {k o c : Token} {cond : Expr} {body : Minim.Block} {w : List Piece}
      (keyword : k.kind = .whileWord) (opening : o.kind = .lparen) (closing : c.kind = .rparen)
      (block : Braced body w) :
      Production (.stmt (.loop pos cond body))
        (.token k :: .token o :: .node (.expr cond) :: .token c :: w)
  | stmts {pos : Position} {ss : List Stmt} :
      Production (.stmtList pos ss) ((ss.map .stmt).map .node)
  | body {pos : Position} {b : Minim.Block} {w : List Piece} (block : Braced b w) :
      Production (.body pos b) w
  | formal {f : Minim.Formal} : Production (.formal f) [.node (.type f.type), .name f.name]
  | formals {o c : Token} {fs : Formals} {w : List Piece} (opening : o.kind = .lparen)
      (items : Items (fs.items.map .formal) w) (closing : c.kind = .rparen) :
      Production (.formals fs) (.token o :: (w ++ [.token c]))
  | var {pos : Position} {c : Token} {type : TypeExpr} {name : Ident}
      (semicolon : c.kind = .semicolon) :
      Production (.decl (.var pos type name)) [.node (.type type), .name name, .token c]
  | func {pos bodyPos : Position} {type : TypeExpr} {name : Ident} {fs : Formals}
      {body : Minim.Block} :
      Production (.decl (.func pos type name fs bodyPos body))
        [.node (.type type), .name name, .node (.formals fs), .node (.body bodyPos body)]
  | struct {pos fieldsPos : Position} {k o c : Token} {name : Ident} {fields : List Decl}
      {w : List Piece} (keyword : k.kind = .structWord) (opening : o.kind = .lbrace)
      (closing : c.kind = .rbrace)
      (ending : w = [] ∨ ∃ e : Token, e.kind = .semicolon ∧ w = [.token e]) :
      Production (.decl (.struct pos name fieldsPos fields))
        (.token k :: .name name :: .token o :: .node (.declList fieldsPos fields) ::
          .token c :: w)
  | decls {pos : Position} {ds : List Decl} :
      Production (.declList pos ds) ((ds.map .decl).map .node)
  | program {T : Minim.Program} :
      Production (.program T) [.node (.declList T.declsPos T.decls)]

end Grammar

/-! ## Unfolding -/

/-- A node with the tokens of its phrase and the tokens that follow them. -/
structure Span where
  node : Node
  tokens : List Token
  after : List Token

namespace Grammar

/-- Pieces unfold to tokens that are followed by the tokens `after`; the nodes that are unfolded are
listed with their phrases, a node before those it is made of. -/
inductive Unfolds : List Token → List Piece → List Token → List Span → Prop
  | nil {after : List Token} : Unfolds after [] [] []
  | token {after u : List Token} {t : Token} {w : List Piece} {spans : List Span}
      (others : Unfolds after w u spans) : Unfolds after (.token t :: w) (t :: u) spans
  | node {after u u' : List Token} {n : Node} {v w : List Piece} {spans spans' : List Span}
      (made : Production n v) (inner : Unfolds (u' ++ after) v u spans)
      (others : Unfolds after w u' spans') :
      Unfolds after (.node n :: w) (u ++ u') (⟨n, u, u' ++ after⟩ :: (spans ++ spans'))

namespace Unfolds

variable {after u u' : List Token} {w w' : List Piece} {spans spans' : List Span}

theorem append (h : Unfolds (u' ++ after) w u spans) (h' : Unfolds after w' u' spans') :
    Unfolds after (w ++ w') (u ++ u') (spans ++ spans') := by
  generalize follow : u' ++ after = x at h
  induction h with
  | nil => exact h'
  | token _ ih => exact .token (ih follow)
  | @node x u₁ u₂ n v w spans₁ spans₂ made inner _ _ ih =>
    subst follow
    rw [← List.append_assoc] at inner
    simpa using Unfolds.node made inner (ih rfl)

/-- Every node that is unfolded is made of something. -/
theorem production_of_mem (h : Unfolds after w u spans) {s : Span} (mem : s ∈ spans) :
    ∃ v, Production s.node v := by
  induction h with
  | nil => cases mem
  | token _ ih => exact ih mem
  | node made _ _ ih ih' =>
    rcases List.mem_cons.mp mem with rfl | mem
    · exact ⟨_, made⟩
    · exact (List.mem_append.mp mem).elim ih ih'

/-- A phrase and what follows it are the end of all tokens. -/
theorem suffix_of_mem (h : Unfolds after w u spans) {s : Span} (mem : s ∈ spans) :
    s.tokens ++ s.after <:+ u ++ after := by
  induction h with
  | nil => cases mem
  | token _ ih => exact (ih mem).trans (List.suffix_cons _ _)
  | node made _ _ ih ih' =>
    rw [List.append_assoc]
    rcases List.mem_cons.mp mem with rfl | mem
    · exact List.suffix_refl _
    · rcases List.mem_append.mp mem with mem | mem
      · exact ih mem
      · exact (ih' mem).trans (List.suffix_append _ _)

/-- Pieces without nodes are their tokens already. -/
theorem of_tokens (h : Unfolds after w u spans) (noNodes : Piece.nodes w = []) :
    u = Piece.tokens w ∧ spans = [] := by
  induction h with
  | nil => exact ⟨rfl, rfl⟩
  | token _ ih =>
    obtain ⟨rfl, rfl⟩ := ih noNodes
    exact ⟨rfl, rfl⟩
  | node => cases noNodes

end Unfolds

end Grammar

/-! ## The nodes of a tree -/

/-! What is below a node does not depend on the role it plays. -/

@[simp] theorem Outline.nodes_exprList (role : Role) (pos : Position) (es : List Expr) :
    (mk role (.exprList pos es) (Expr.outlines 0 es)).nodes = (Node.exprList pos es).subtrees :=
  rfl

@[simp] theorem Outline.nodes_declList (role : Role) (pos : Position) (ds : List Decl) :
    (mk role (.declList pos ds) (Decl.outlines 0 ds)).nodes = (Node.declList pos ds).subtrees :=
  rfl

@[simp] theorem Outline.nodes_body (role : Role) (pos : Position) (b : Block) :
    (mk role (.body pos b) (b.outlines "decls" "stmts")).nodes = (Node.body pos b).subtrees :=
  rfl

@[simp] theorem Ident.nodes_outline (role : Role) (name : Ident) :
    (name.outline role).nodes = (Node.expr (.ident name)).subtrees :=
  rfl

@[simp] theorem TypeExpr.nodes_outline (role : Role) (type : TypeExpr) :
    (type.outline role).nodes = (Node.type type).subtrees := by
  cases type <;> rfl

@[simp] theorem Expr.nodes_outline (role : Role) (e : Expr) :
    (e.outline role).nodes = (Node.expr e).subtrees := by
  cases e <;> rfl

@[simp] theorem Formal.nodes_outline (role : Role) (f : Formal) :
    (f.outline role).nodes = (Node.formal f).subtrees :=
  rfl

@[simp] theorem Formals.nodes_outline (role : Role) (fs : Formals) :
    (fs.outline role).nodes = (Node.formals fs).subtrees :=
  rfl

@[simp] theorem Decl.nodes_outline (role : Role) (d : Decl) :
    (d.outline role).nodes = (Node.decl d).subtrees := by
  cases d <;> rfl

@[simp] theorem Stmt.nodes_outline (role : Role) (s : Stmt) :
    (s.outline role).nodes = (Node.stmt s).subtrees := by
  cases s with
  | ret pos value => cases value <;> rfl
  | _ => rfl

theorem Node.subtrees_eq (n : Node) : n.subtrees = n :: Outline.nodesOf n.outline.children := by
  cases n with
  | expr e => cases e <;> rfl
  | type t => cases t <;> rfl
  | decl d => cases d <;> rfl
  | stmt s =>
    cases s with
    | ret pos value => cases value <;> rfl
    | _ => rfl
  | _ => rfl

theorem Node.children_of_leaf? {n : Node} {e : Expr} (h : n.leaf? = some e) :
    n.outline.children = [] := by
  unfold leaf? literal? at h
  split at h
  · rfl
  · split at h
    all_goals first | rfl | cases h

theorem Token.leaf?_expr {t : Token} {e : Expr} (reads : t.leaf? = some e) :
    (Node.expr e).leaf? = some e := by
  unfold leaf? literal? at reads
  split at reads
  · cases reads
    rfl
  · split at reads <;> cases reads <;> rfl

theorem Token.children_of_type? {t : Token} {type : TypeExpr} (reads : t.type? = some type) :
    (Node.type type).outline.children = [] := by
  unfold type? at reads
  split at reads <;> cases reads <;> rfl

theorem Expr.nodesOf_outlines (index : Nat) (es : List Expr) :
    Outline.nodesOf (Expr.outlines index es) = (es.map Node.expr).flatMap Node.subtrees := by
  induction es generalizing index with
  | nil => rfl
  | cons e es ih => simp [outlines, ih]

theorem Decl.nodesOf_outlines (index : Nat) (ds : List Decl) :
    Outline.nodesOf (Decl.outlines index ds) = (ds.map Node.decl).flatMap Node.subtrees := by
  induction ds generalizing index with
  | nil => rfl
  | cons d ds ih => simp [Decl.outlines, ih]

theorem Stmt.nodesOf_outlines (index : Nat) (ss : List Stmt) :
    Outline.nodesOf (Stmt.outlines index ss) = (ss.map Node.stmt).flatMap Node.subtrees := by
  induction ss generalizing index with
  | nil => rfl
  | cons s ss ih => simp [Stmt.outlines, ih]

theorem Formals.nodesOf_outlines (role : Nat → Role) (fs : List Formal) :
    Outline.nodesOf (fs.mapIdx fun index f => f.outline (role index)) =
      (fs.map Node.formal).flatMap Node.subtrees := by
  induction fs generalizing role with
  | nil => rfl
  | cons f fs ih => simp [ih fun index => role (index + 1)]

namespace Grammar

theorem MoreItems.nodes {ns : List Node} {w : List Piece} (h : MoreItems ns w) :
    Piece.nodes w = ns := by
  induction h with
  | done => rfl
  | @more t n ns w _ _ ih => exact congrArg (n :: ·) ih

theorem Items.nodes {ns : List Node} {w : List Piece} (h : Items ns w) :
    Piece.nodes w = ns := by
  cases h with
  | none => rfl
  | @some n ns w others => exact congrArg (n :: ·) others.nodes

theorem Braced.nodesOf_outlines {b : Minim.Block} {w : List Piece} (h : Braced b w)
    (declsRole stmtsRole : String) :
    Outline.nodesOf (b.outlines declsRole stmtsRole) =
      (Piece.nodes w).flatMap Node.subtrees := by
  obtain ⟨-, -⟩ := h
  obtain ⟨declsPos, decls, stmtsPos, stmts⟩ := b
  rfl

theorem Production.nodesOf_children {n : Node} {w : List Piece} (h : Production n w) :
    Outline.nodesOf n.outline.children = (Piece.nodes w).flatMap Node.subtrees := by
  induction h with
  | leaf reads =>
    rw [Node.children_of_leaf? (Token.leaf?_expr reads)]
    rfl
  | paren _ _ _ ih => simpa [Piece.nodes] using ih
  | type reads =>
    rw [Token.children_of_type? reads]
    rfl
  | args items =>
    rw [items.nodes]
    exact Expr.nodesOf_outlines 0 _
  | formals _ items =>
    rw [Piece.nodes, Piece.nodes_append, items.nodes, List.flatMap_append]
    exact (Formals.nodesOf_outlines _ _).trans (List.append_nil _).symm
  | stmts =>
    rw [Piece.nodes_map]
    exact Stmt.nodesOf_outlines 0 _
  | decls =>
    rw [Piece.nodes_map]
    exact Decl.nodesOf_outlines 0 _
  | body block => exact block.nodesOf_outlines _ _
  | ifThen _ _ _ block | loop _ _ _ block =>
    simp [Node.outline, Stmt.outline, Outline.children, Piece.nodes, block.nodesOf_outlines]
  | ifElse _ _ _ block _ block' =>
    simp [Node.outline, Stmt.outline, Outline.children, Piece.nodes, block.nodesOf_outlines,
      block'.nodesOf_outlines]
  | struct _ _ _ ending =>
    rcases ending with rfl | ⟨e, -, rfl⟩ <;>
    simp [Node.outline, Decl.outline, Outline.children, Piece.nodes, Piece.name]
  | structType | program => rfl
  | formal => simp [Node.outline, Formal.outline, Outline.children, Piece.nodes, Piece.name]
  | assign | binary | unary | dot | call =>
    simp [Node.outline, Expr.outline, Outline.children, Piece.nodes, Piece.name]
  | assignStmt | callStmt | increment | decrement | read | write | ret | retValue =>
    simp [Node.outline, Stmt.outline, Outline.children, Piece.nodes]
  | var | func => simp [Node.outline, Decl.outline, Outline.children, Piece.nodes, Piece.name]

/-- The nodes below a node are those below the nodes that it is made of. -/
theorem Production.subtrees {n : Node} {w : List Piece} (h : Production n w) :
    n.subtrees = n :: (Piece.nodes w).flatMap Node.subtrees := by
  rw [Node.subtrees_eq, h.nodesOf_children]

/-- A leaf is made of its token alone, parentheses aside. -/
theorem Production.pieces_of_leaf? {n : Node} {w : List Piece} {e : Expr} (h : Production n w)
    (leaf : n.leaf? = some e) :
    Piece.nodes w = [] ∧ (Piece.tokens w).filterMap Token.leaf? = [e] := by
  induction h with
  | leaf reads =>
    rw [Token.leaf?_expr reads] at leaf
    cases leaf
    exact ⟨rfl, by simp [Piece.tokens, reads]⟩
  | paren opening _ closing ih =>
    obtain ⟨noNodes, tokens⟩ := ih leaf
    refine ⟨by simp [Piece.nodes, noNodes], ?_⟩
    simp [Piece.tokens, tokens, Token.leaf?, Token.literal?, opening, closing]
  | _ => cases leaf

/-- The nodes that are unfolded are the subtrees of the pieces. -/
theorem Unfolds.nodes {after u : List Token} {w : List Piece} {spans : List Span}
    (h : Unfolds after w u spans) :
    spans.map Span.node = (Piece.nodes w).flatMap Node.subtrees := by
  induction h with
  | nil => rfl
  | token _ ih => exact ih
  | node made _ _ ih ih' => simp [Piece.nodes, made.subtrees, ih, ih']

end Grammar

end Minim
