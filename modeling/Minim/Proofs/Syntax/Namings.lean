import Minim.Proofs.Syntax.Idents
import Minim.Syntax.Legend

/-!
# What identifiers are there for

An identifier names the struct of a written type, the base of a dot access, or anything else. All
identifiers of a tree are listed with these roles in the order of the text, which is the order in
which the walk over the outline of the tree meets them.
-/

namespace Minim

/-- What an identifier is there for. -/
inductive NameRole
  | structName
  | base
  | other
  deriving DecidableEq, Repr

/-- An identifier with what it is there for. -/
structure Naming where
  role : NameRole
  name : Ident
  deriving DecidableEq, Repr

/-! ## The identifiers of a tree with their roles -/

/-- The struct name of a written type. -/
def TypeExpr.namings : TypeExpr → List Naming
  | .struct _ name => [⟨.structName, name⟩]
  | _ => []

mutual

/-- The identifiers of an expression; if it is one, it has the given role. -/
def Expr.namings (role : NameRole) : Expr → List Naming
  | .int _ _ | .string _ _ | .bool _ _ => []
  | .ident name => [⟨role, name⟩]
  | .dot _ base field => base.namings .base ++ [⟨.other, field⟩]
  | .assign _ target value => target.namings .other ++ value.namings .other
  | .call _ callee _ args => ⟨.other, callee⟩ :: Expr.namingsAll args
  | .unary _ _ operand => operand.namings .other
  | .binary _ left _ right => left.namings .other ++ right.namings .other

/-- The identifiers of expressions. -/
def Expr.namingsAll : List Expr → List Naming
  | [] => []
  | e :: es => e.namings .other ++ Expr.namingsAll es

end

/-- The identifiers of a formal parameter. -/
def Formal.namings (f : Formal) : List Naming := f.type.namings ++ [⟨.other, f.name⟩]

mutual

/-- The identifiers of a declaration. -/
def Decl.namings : Decl → List Naming
  | .var _ type name => type.namings ++ [⟨.other, name⟩]
  | .func _ returnType name formals _ body =>
    returnType.namings ++ ⟨.other, name⟩ :: (formals.items.flatMap Formal.namings ++ body.namings)
  | .struct _ name _ fields => ⟨.other, name⟩ :: Decl.namingsAll fields

/-- The identifiers of a statement. -/
def Stmt.namings : Stmt → List Naming
  | .assign _ assignment => assignment.expr.namings .other
  | .increment _ e | .decrement _ e | .read _ e | .write _ e => e.namings .other
  | .ifThen _ cond body | .loop _ cond body => cond.namings .other ++ body.namings
  | .ifElse _ cond yes no => cond.namings .other ++ (yes.namings ++ no.namings)
  | .call _ call => call.expr.namings .other
  | .ret _ none => []
  | .ret _ (some value) => value.namings .other

/-- The identifiers of a block. -/
def Block.namings : Block → List Naming
  | .mk _ decls _ stmts => Decl.namingsAll decls ++ Stmt.namingsAll stmts

/-- The identifiers of declarations. -/
def Decl.namingsAll : List Decl → List Naming
  | [] => []
  | d :: ds => d.namings ++ Decl.namingsAll ds

/-- The identifiers of statements. -/
def Stmt.namingsAll : List Stmt → List Naming
  | [] => []
  | s :: ss => s.namings ++ Stmt.namingsAll ss

end

/-- The identifiers of a program. -/
def Program.namings (T : Program) : List Naming := Decl.namingsAll T.decls

/-! ## The identifiers of a tree without their roles -/

theorem TypeExpr.map_namings (type : TypeExpr) : type.namings.map Naming.name = type.idents := by
  cases type <;> rfl

mutual

theorem Expr.map_namings (role : NameRole) (e : Expr) :
    (e.namings role).map Naming.name = e.idents := by
  cases e with
  | int | string | bool | ident => rfl
  | dot pos base field =>
    rw [namings, List.map_append, Expr.map_namings .base base, idents, List.map_singleton]
  | assign pos target value =>
    rw [namings, List.map_append, Expr.map_namings .other target, Expr.map_namings .other value,
      idents]
  | call pos callee argsPos args => rw [namings, List.map_cons, Expr.map_namingsAll args, idents]
  | unary pos op operand => rw [namings, Expr.map_namings .other operand, idents]
  | binary pos left op right =>
    rw [namings, List.map_append, Expr.map_namings .other left, Expr.map_namings .other right,
      idents]

theorem Expr.map_namingsAll (es : List Expr) :
    (Expr.namingsAll es).map Naming.name = Expr.identsAll es := by
  cases es with
  | nil => rfl
  | cons e es =>
    rw [namingsAll, List.map_append, Expr.map_namings .other e, Expr.map_namingsAll es, identsAll]

end

theorem Formal.map_namings (f : Formal) : f.namings.map Naming.name = f.idents := by
  rw [namings, List.map_append, f.type.map_namings, idents, List.map_singleton]

theorem Formal.map_namingsAll (fs : List Formal) :
    (fs.flatMap Formal.namings).map Naming.name = fs.flatMap Formal.idents := by
  rw [List.map_flatMap]
  exact congrArg (List.flatMap · fs) (funext Formal.map_namings)

mutual

theorem Decl.map_namings (d : Decl) : d.namings.map Naming.name = d.idents := by
  cases d with
  | var pos type name =>
    rw [Decl.namings, List.map_append, type.map_namings, Decl.idents, List.map_singleton]
  | func pos returnType name formals bodyPos body =>
    rw [Decl.namings, List.map_append, List.map_cons, List.map_append, returnType.map_namings,
      Formal.map_namingsAll, Block.map_namings body, Decl.idents]
  | struct pos name fieldsPos fields =>
    rw [Decl.namings, List.map_cons, Decl.map_namingsAll fields, Decl.idents]

theorem Stmt.map_namings (st : Stmt) : st.namings.map Naming.name = st.idents := by
  cases st with
  | assign pos a => rw [Stmt.namings, Expr.map_namings, Stmt.idents]
  | increment pos e | decrement pos e | read pos e | write pos e =>
    rw [Stmt.namings, Expr.map_namings, Stmt.idents]
  | ifThen pos cond body | loop pos cond body =>
    rw [Stmt.namings, List.map_append, Expr.map_namings, Block.map_namings body, Stmt.idents]
  | ifElse pos cond yes no =>
    rw [Stmt.namings, List.map_append, List.map_append, Expr.map_namings, Block.map_namings yes,
      Block.map_namings no, Stmt.idents]
  | call pos c => rw [Stmt.namings, Expr.map_namings, Stmt.idents]
  | ret pos value =>
    cases value with
    | none => rfl
    | some e => rw [Stmt.namings, Expr.map_namings, Stmt.idents]

theorem Block.map_namings (b : Block) : b.namings.map Naming.name = b.idents := by
  obtain ⟨declsPos, decls, stmtsPos, stmts⟩ := b
  rw [Block.namings, List.map_append, Decl.map_namingsAll decls, Stmt.map_namingsAll stmts,
    Block.idents]

theorem Decl.map_namingsAll (ds : List Decl) :
    (Decl.namingsAll ds).map Naming.name = Decl.identsAll ds := by
  cases ds with
  | nil => rfl
  | cons d ds =>
    rw [Decl.namingsAll, List.map_append, Decl.map_namings d, Decl.map_namingsAll ds,
      Decl.identsAll]

theorem Stmt.map_namingsAll (ss : List Stmt) :
    (Stmt.namingsAll ss).map Naming.name = Stmt.identsAll ss := by
  cases ss with
  | nil => rfl
  | cons s ss =>
    rw [Stmt.namingsAll, List.map_append, Stmt.map_namings s, Stmt.map_namingsAll ss,
      Stmt.identsAll]

end

/-- The identifiers with roles are all identifiers, in the order of the text. -/
theorem Program.map_namings (T : Program) : T.namings.map Naming.name = T.idents :=
  Decl.map_namingsAll T.decls

/-! ## The identifiers of an outline -/

namespace Outline

/-- The identifiers among the nodes of several outlines. -/
def identsOf (os : List Outline) : List Ident := (nodesOf os).filterMap Node.ident?

@[simp] theorem identsOf_nil : identsOf [] = [] :=
  rfl

@[simp] theorem identsOf_cons (role : Role) (self : Node) (children os : List Outline) :
    identsOf (.mk role self children :: os) =
      self.ident?.toList ++ (identsOf children ++ identsOf os) := by
  rw [identsOf, nodesOf, nodes, List.cons_append, List.filterMap_cons, List.filterMap_append]
  cases self.ident? <;> rfl

@[simp] theorem identsOf_append (os os' : List Outline) :
    identsOf (os ++ os') = identsOf os ++ identsOf os' := by
  induction os with
  | nil => rfl
  | cons o os ih =>
    obtain ⟨role, self, children⟩ := o
    simp only [List.cons_append, identsOf_cons, ih, List.append_assoc]

end Outline

theorem TypeExpr.identsOf_outline (role : Role) (type : TypeExpr) (os : List Outline) :
    Outline.identsOf (type.outline role :: os) = type.idents ++ Outline.identsOf os := by
  cases type <;> simp [outline, Ident.outline, idents, Node.ident?]

mutual

theorem Expr.identsOf_outline (role : Role) (e : Expr) (os : List Outline) :
    Outline.identsOf (e.outline role :: os) = e.idents ++ Outline.identsOf os := by
  cases e with
  | int | string | bool | ident => simp [outline, Ident.outline, idents, Node.ident?]
  | dot pos base field =>
    simp [outline, Ident.outline, idents, Node.ident?, Expr.identsOf_outline _ base]
  | assign pos target value =>
    simp [outline, idents, Node.ident?, Expr.identsOf_outline _ target,
      Expr.identsOf_outline _ value]
  | call pos callee argsPos args =>
    simp [outline, Ident.outline, idents, Node.ident?, Expr.identsOf_outlines _ args]
  | unary pos op operand => simp [outline, idents, Node.ident?, Expr.identsOf_outline _ operand]
  | binary pos left op right =>
    simp [outline, idents, Node.ident?, Expr.identsOf_outline _ left,
      Expr.identsOf_outline _ right]

theorem Expr.identsOf_outlines (index : Nat) (es : List Expr) :
    Outline.identsOf (Expr.outlines index es) = Expr.identsAll es := by
  cases es with
  | nil => rfl
  | cons e es =>
    rw [outlines, Expr.identsOf_outline _ e, Expr.identsOf_outlines _ es, identsAll]

end

theorem Formal.identsOf_outline (role : Role) (f : Formal) (os : List Outline) :
    Outline.identsOf (f.outline role :: os) = f.idents ++ Outline.identsOf os := by
  simp [outline, Ident.outline, idents, Node.ident?, f.type.identsOf_outline]

theorem Formals.identsOf_outlines (index : Nat) (fs : List Formal) :
    Outline.identsOf (fs.mapIdx fun i f => f.outline (.item "formals" (index + i))) =
      fs.flatMap Formal.idents := by
  induction fs generalizing index with
  | nil => rfl
  | cons f fs ih =>
    rw [List.mapIdx_cons, Formal.identsOf_outline, List.flatMap_cons, ← ih (index + 1)]
    simp only [Nat.add_assoc, Nat.add_comm 1]

mutual

theorem Decl.identsOf_outline (role : Role) (d : Decl) (os : List Outline) :
    Outline.identsOf (d.outline role :: os) = d.idents ++ Outline.identsOf os := by
  cases d with
  | var pos type name =>
    simp [Decl.outline, Ident.outline, Decl.idents, Node.ident?, type.identsOf_outline]
  | func pos returnType name formals bodyPos body =>
    have items := Formals.identsOf_outlines 0 formals.items
    simp only [Nat.zero_add] at items
    simp [Decl.outline, Ident.outline, Formals.outline, Decl.idents, Node.ident?, items,
      returnType.identsOf_outline, Block.identsOf_outlines _ _ body]
  | struct pos name fieldsPos fields =>
    simp [Decl.outline, Ident.outline, Decl.idents, Node.ident?, Decl.identsOf_outlines _ fields]

theorem Stmt.identsOf_outline (role : Role) (st : Stmt) (os : List Outline) :
    Outline.identsOf (st.outline role :: os) = st.idents ++ Outline.identsOf os := by
  cases st with
  | assign | increment | decrement | read | write | call =>
    simp [Stmt.outline, Stmt.idents, Node.ident?, Expr.identsOf_outline]
  | ifThen pos cond body | loop pos cond body =>
    simp [Stmt.outline, Stmt.idents, Node.ident?, Expr.identsOf_outline,
      Block.identsOf_outlines _ _ body]
  | ifElse pos cond yes no =>
    simp [Stmt.outline, Stmt.idents, Node.ident?, Expr.identsOf_outline,
      Block.identsOf_outlines _ _ yes, Block.identsOf_outlines _ _ no]
  | ret pos value =>
    cases value <;> simp [Stmt.outline, Stmt.idents, Node.ident?, Expr.identsOf_outline]

theorem Block.identsOf_outlines (declsRole stmtsRole : String) (b : Block) :
    Outline.identsOf (b.outlines declsRole stmtsRole) = b.idents := by
  obtain ⟨declsPos, decls, stmtsPos, stmts⟩ := b
  simp [Block.outlines, Block.idents, Node.ident?, Decl.identsOf_outlines _ decls,
    Stmt.identsOf_outlines _ stmts]

theorem Decl.identsOf_outlines (index : Nat) (ds : List Decl) :
    Outline.identsOf (Decl.outlines index ds) = Decl.identsAll ds := by
  cases ds with
  | nil => rfl
  | cons d ds =>
    rw [Decl.outlines, Decl.identsOf_outline _ d, Decl.identsOf_outlines _ ds, Decl.identsAll]

theorem Stmt.identsOf_outlines (index : Nat) (ss : List Stmt) :
    Outline.identsOf (Stmt.outlines index ss) = Stmt.identsAll ss := by
  cases ss with
  | nil => rfl
  | cons s ss =>
    rw [Stmt.outlines, Stmt.identsOf_outline _ s, Stmt.identsOf_outlines _ ss, Stmt.identsAll]

end

theorem Node.identifiers_eq (node : Node) :
    node.identifiers = Outline.identsOf [node.outline] := by
  rw [identifiers, subtrees, Outline.identsOf, Outline.nodesOf, Outline.nodesOf, List.append_nil]

/-- The walk over the outline of a node meets its identifiers in the order of the text. -/
theorem Node.identifiers_eq_idents (node : Node) : node.identifiers = node.idents := by
  rw [identifiers_eq]
  cases node with
  | program T => simp [outline, ident?, Decl.identsOf_outlines, idents, Program.idents]
  | declList pos decls => simp [outline, ident?, Decl.identsOf_outlines, idents]
  | decl d => simp [outline, d.identsOf_outline, idents]
  | formals formals =>
    have items := Formals.identsOf_outlines 0 formals.items
    simp only [Nat.zero_add] at items
    simp [outline, Formals.outline, ident?, items, idents]
  | formal formal => simp [outline, formal.identsOf_outline, idents]
  | body pos block => simp [outline, ident?, block.identsOf_outlines, idents]
  | stmtList pos stmts => simp [outline, ident?, Stmt.identsOf_outlines, idents]
  | stmt st => simp [outline, st.identsOf_outline, idents]
  | exprList pos exprs => simp [outline, ident?, Expr.identsOf_outlines, idents]
  | expr e => simp [outline, e.identsOf_outline, idents]
  | type type => simp [outline, type.identsOf_outline, idents]

theorem Program.identifiers_eq (T : Program) : (Node.program T).identifiers = T.idents :=
  Node.identifiers_eq_idents (.program T)

end Minim
