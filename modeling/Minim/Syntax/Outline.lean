import Minim.Syntax.Node

/-!
Outlines: a syntax tree as nothing but nodes and the roles of their children. Children stand in the
order of their fields; a list field contributes its items one by one, and an absent child nothing.
All walks that treat every kind of node alike go over the outline.
-/

namespace Minim

/-- What a node is to its parent. -/
inductive Role
  | root
  | field (name : String)
  | item (list : String) (index : Nat)
  deriving DecidableEq, Repr, Inhabited

/-- A node under its role, with the outlines of its children. -/
inductive Outline
  | mk (role : Role) (self : Node) (children : List Outline)

instance : Inhabited Outline := ⟨.mk .root default []⟩

/-! ## The outline of each sort of node -/

/-- An identifier has no children. -/
def Ident.outline (role : Role) (name : Ident) : Outline :=
  .mk role (.expr (.ident name)) []

/-- A struct type has the struct's name as its child, the other types none. -/
def TypeExpr.outline (role : Role) : TypeExpr → Outline
  | .struct pos name => .mk role (.type (.struct pos name)) [name.outline (.field "name")]
  | type => .mk role (.type type) []

mutual

/-- The outline of an expression. -/
def Expr.outline (role : Role) : Expr → Outline
  | .int pos value => .mk role (.expr (.int pos value)) []
  | .string pos written => .mk role (.expr (.string pos written)) []
  | .bool pos value => .mk role (.expr (.bool pos value)) []
  | .ident name => name.outline role
  | .dot pos base field =>
    .mk role (.expr (.dot pos base field))
      [base.outline (.field "loc"), field.outline (.field "field_id")]
  | .assign pos target value =>
    .mk role (.expr (.assign pos target value))
      [target.outline (.field "left"), value.outline (.field "right")]
  | .call pos callee argsPos args =>
    .mk role (.expr (.call pos callee argsPos args))
      [callee.outline (.field "function"),
        .mk (.field "arguments") (.exprList argsPos args) (Expr.outlines 0 args)]
  | .unary pos op operand =>
    .mk role (.expr (.unary pos op operand)) [operand.outline (.field "operand")]
  | .binary pos left op right =>
    .mk role (.expr (.binary pos left op right))
      [left.outline (.field "left"), right.outline (.field "right")]

/-- The outlines of the items of an expression list, counted from `index` on. -/
def Expr.outlines (index : Nat) : List Expr → List Outline
  | [] => []
  | e :: es => e.outline (.item "expressions" index) :: Expr.outlines (index + 1) es

end

/-- A formal parameter has its type and its name as children. -/
def Formal.outline (role : Role) (formal : Formal) : Outline :=
  .mk role (.formal formal)
    [formal.type.outline (.field "var_type"), formal.name.outline (.field "name")]

/-- The outline of a parameter list. -/
def Formals.outline (role : Role) (formals : Formals) : Outline :=
  .mk role (.formals formals)
    (formals.items.mapIdx fun index formal => formal.outline (.item "formals" index))

mutual

/-- The outline of a declaration. -/
def Decl.outline (role : Role) : Decl → Outline
  | .var pos type name =>
    .mk role (.decl (.var pos type name))
      [type.outline (.field "var_type"), name.outline (.field "name")]
  | .func pos returnType name formals bodyPos body =>
    .mk role (.decl (.func pos returnType name formals bodyPos body))
      [returnType.outline (.field "return_type"), name.outline (.field "name"),
        formals.outline (.field "formals"),
        .mk (.field "body") (.body bodyPos body) (body.outlines "decls" "stmts")]
  | .struct pos name fieldsPos fields =>
    .mk role (.decl (.struct pos name fieldsPos fields))
      [name.outline (.field "name"),
        .mk (.field "fields") (.declList fieldsPos fields) (Decl.outlines 0 fields)]

/-- The outline of a statement. -/
def Stmt.outline (role : Role) : Stmt → Outline
  | .assign pos assignment =>
    .mk role (.stmt (.assign pos assignment)) [assignment.expr.outline (.field "assignment")]
  | .increment pos place =>
    .mk role (.stmt (.increment pos place)) [place.outline (.field "expression")]
  | .decrement pos place =>
    .mk role (.stmt (.decrement pos place)) [place.outline (.field "expression")]
  | .read pos place => .mk role (.stmt (.read pos place)) [place.outline (.field "expression")]
  | .write pos value => .mk role (.stmt (.write pos value)) [value.outline (.field "expression")]
  | .ifThen pos cond body =>
    .mk role (.stmt (.ifThen pos cond body))
      (cond.outline (.field "condition") :: body.outlines "decls" "stmts")
  | .ifElse pos cond yes no =>
    .mk role (.stmt (.ifElse pos cond yes no))
      (cond.outline (.field "condition") ::
        (yes.outlines "then_decls" "then_stmts" ++ no.outlines "else_decls" "else_stmts"))
  | .loop pos cond body =>
    .mk role (.stmt (.loop pos cond body))
      (cond.outline (.field "condition") :: body.outlines "decls" "stmts")
  | .call pos call => .mk role (.stmt (.call pos call)) [call.expr.outline (.field "call")]
  | .ret pos none => .mk role (.stmt (.ret pos none)) []
  | .ret pos (some value) =>
    .mk role (.stmt (.ret pos (some value))) [value.outline (.field "expression")]

/-- The declaration list and the statement list of a block, under the given roles. -/
def Block.outlines (declsRole stmtsRole : String) : Block → List Outline
  | .mk declsPos decls stmtsPos stmts =>
    [.mk (.field declsRole) (.declList declsPos decls) (Decl.outlines 0 decls),
      .mk (.field stmtsRole) (.stmtList stmtsPos stmts) (Stmt.outlines 0 stmts)]

/-- The outlines of the items of a declaration list, counted from `index` on. -/
def Decl.outlines (index : Nat) : List Decl → List Outline
  | [] => []
  | d :: ds => d.outline (.item "decls" index) :: Decl.outlines (index + 1) ds

/-- The outlines of the items of a statement list, counted from `index` on. -/
def Stmt.outlines (index : Nat) : List Stmt → List Outline
  | [] => []
  | s :: ss => s.outline (.item "statements" index) :: Stmt.outlines (index + 1) ss

end

namespace Node

/-- The outline of a node by itself. -/
def outline : Node → Outline
  | program p =>
    .mk .root (.program p)
      [.mk (.field "decls") (.declList p.declsPos p.decls) (Decl.outlines 0 p.decls)]
  | declList pos decls => .mk .root (.declList pos decls) (Decl.outlines 0 decls)
  | decl d => d.outline .root
  | formals fs => fs.outline .root
  | formal f => f.outline .root
  | body pos block => .mk .root (.body pos block) (block.outlines "decls" "stmts")
  | stmtList pos stmts => .mk .root (.stmtList pos stmts) (Stmt.outlines 0 stmts)
  | stmt s => s.outline .root
  | exprList pos exprs => .mk .root (.exprList pos exprs) (Expr.outlines 0 exprs)
  | expr e => e.outline .root
  | type t => t.outline .root

end Node

/-! ## Walks -/

namespace Outline

/-- The role of the node at the top. -/
def role : Outline → Role
  | mk role _ _ => role

/-- The node at the top. -/
def self : Outline → Node
  | mk _ self _ => self

/-- The outlines below the top. -/
def children : Outline → List Outline
  | mk _ _ children => children

mutual

/-- All nodes, a node before its children. -/
def nodes : Outline → List Node
  | mk _ self children => self :: nodesOf children

/-- All nodes of several outlines, one outline after the other. -/
def nodesOf : List Outline → List Node
  | [] => []
  | o :: os => o.nodes ++ nodesOf os

end

@[simp] theorem nodesOf_nil : nodesOf [] = [] := by
  rw [nodesOf]

@[simp] theorem nodesOf_cons (o : Outline) (os : List Outline) :
    nodesOf (o :: os) = o.nodes ++ nodesOf os := by
  rw [nodesOf]

@[simp] theorem nodesOf_append (os os' : List Outline) :
    nodesOf (os ++ os') = nodesOf os ++ nodesOf os' := by
  induction os with
  | nil => rfl
  | cons o os ih => simp [ih]

mutual

/-- Whether two outlines have the same shape and `same` holds of the nodes that meet. -/
def agrees (same : Node → Node → Bool) : Outline → Outline → Bool
  | mk _ a as, mk _ b bs => same a b && agreesAll same as bs

/-- Whether two lists of outlines agree item by item. -/
def agreesAll (same : Node → Node → Bool) : List Outline → List Outline → Bool
  | [], [] => true
  | a :: as, b :: bs => a.agrees same b && agreesAll same as bs
  | _, _ => false

end

end Outline

/-- What a node says by itself besides its kind and position: nothing, a truth value, or the value
of its token. -/
inductive Detail
  | none
  | bool (value : Bool)
  | token (value : TokenValue)
  deriving DecidableEq, Repr, Inhabited

namespace Node

/-- The detail of a node. -/
def detail : Node → Detail
  | expr (.ident name) => .token name.value
  | expr (.int _ value) | expr (.string _ value) => .token value
  | expr (.bool _ value) => .bool value
  | expr (.unary _ op _) | expr (.binary _ _ op _) => .token op
  | _ => .none

/-- All nodes of a tree, a node before its children. -/
def subtrees (node : Node) : List Node := node.outline.nodes

/-- The identifiers of a tree in the order of their fields. -/
def identifiers (node : Node) : List Ident := node.subtrees.filterMap ident?

/-- Whether two trees are the same but for positions and annotations. -/
def sameStructure (a b : Node) : Bool :=
  a.outline.agrees (fun x y => x.kind = y.kind && x.detail = y.detail) b.outline

/-- Whether two trees are the same but for annotations. -/
def sameTree (a b : Node) : Bool :=
  a.outline.agrees (fun x y => x.kind = y.kind && x.pos = y.pos && x.detail = y.detail) b.outline

end Node

end Minim
