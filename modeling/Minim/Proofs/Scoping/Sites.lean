import Minim.Proofs.Syntax.Idents
import Minim.Resolution

/-!
# Scopes in a source text

What the names of a program stand for, read off the tree and the positions in it. A use of a name
stands in scopes around each other: the bodies of branches and loops, the formal parameters of the
function with the declarations of its body, and the top level. Each scope has a list of
declarations; those count that precede the use and are no variables of type void, and the innermost
scope that has one of the name decides. What a struct, another function or another branch declares
is in none of these scopes.
-/

namespace Minim

/-! ## Declarations -/

/-- A declared name with the meaning that a symbol of it has. A variable of type void has none. -/
structure Declared where
  name : Ident
  meaning : Option Meaning

/-- What a variable of a type means. -/
def TypeExpr.meaning? : TypeExpr → Option Meaning
  | .void _ => none
  | .struct _ name => some (.structVar name.name)
  | .int _ => some (.var .int)
  | .bool _ => some (.var .bool)

/-- The name that a formal parameter declares. -/
def Formal.declared (f : Formal) : Declared := ⟨f.name, f.type.meaning?⟩

/-- The name that a declaration declares. The fields of a struct are left out of its meaning. -/
def Decl.declared : Decl → Declared
  | .var _ type name => ⟨name, type.meaning?⟩
  | .func _ returnType name formals _ _ =>
    ⟨name, some (.func returnType.dataType (formals.items.map (·.type.dataType)))⟩
  | .struct _ name _ _ => ⟨name, some (.structDef .root)⟩

namespace Declared

/-- Whether a declaration gives a name something to stand for. -/
def Gives (d : Declared) (name : String) : Prop :=
  d.meaning.isSome = true ∧ d.name.name = name

instance (d : Declared) (name : String) : Decidable (d.Gives name) :=
  inferInstanceAs (Decidable (_ ∧ _))

end Declared

/-! ## Uses -/

/-- An ordinary use of a name with the declarations of the scopes around it, from inside out. -/
structure Site where
  use : Ident
  scopes : List (List Declared)

namespace Site

/-- Whether a use can stand for a declaration: it gives the name and precedes the use. -/
def Candidate (site : Site) (d : Declared) : Prop :=
  d.Gives site.use.name ∧ d.name.pos < site.use.pos

instance (site : Site) (d : Declared) : Decidable (site.Candidate d) :=
  inferInstanceAs (Decidable (_ ∧ _))

/-- A use denotes the first candidate in the innermost scope that has one. -/
def Denotes (site : Site) (d : Declared) : Prop :=
  ∃ inner scope outer, site.scopes = inner ++ scope :: outer ∧
    (∀ closer ∈ inner, ∀ other ∈ closer, ¬ site.Candidate other) ∧
    ∃ earlier later, scope = earlier ++ d :: later ∧ site.Candidate d ∧
      ∀ other ∈ earlier, ¬ site.Candidate other

end Site

mutual

/-- The ordinary uses in an expression: variables, what is called, and the last field of a chained
access. -/
def Expr.ordinary : Expr → List Ident
  | .int _ _ | .string _ _ | .bool _ _ => []
  | .ident name => [name]
  | .dot _ base field =>
    match base with
    | .dot _ _ _ => base.ordinary ++ [field]
    | _ => []
  | .assign _ target value => target.ordinary ++ value.ordinary
  | .call _ callee _ args => callee :: Expr.ordinaryAll args
  | .unary _ _ operand => operand.ordinary
  | .binary _ left _ right => left.ordinary ++ right.ordinary

/-- The ordinary uses in expressions. -/
def Expr.ordinaryAll : List Expr → List Ident
  | [] => []
  | e :: es => e.ordinary ++ Expr.ordinaryAll es

end

/-- The ordinary uses in an expression, in scopes. -/
def Expr.sites (scopes : List (List Declared)) (e : Expr) : List Site :=
  e.ordinary.map (⟨·, scopes⟩)

mutual

/-- The ordinary uses in a declaration, in scopes. -/
def Decl.sites (scopes : List (List Declared)) : Decl → List Site
  | .var _ _ _ => []
  | .func _ _ _ formals _ body => body.sites (formals.items.map Formal.declared) scopes
  | .struct _ _ _ _ => []

/-- The ordinary uses in a statement, in scopes. -/
def Stmt.sites (scopes : List (List Declared)) : Stmt → List Site
  | .assign _ assignment => assignment.expr.sites scopes
  | .increment _ e | .decrement _ e | .read _ e | .write _ e => e.sites scopes
  | .ifThen _ cond body | .loop _ cond body => cond.sites scopes ++ body.sites [] scopes
  | .ifElse _ cond yes no => cond.sites scopes ++ (yes.sites [] scopes ++ no.sites [] scopes)
  | .call _ call => call.expr.sites scopes
  | .ret _ none => []
  | .ret _ (some value) => value.sites scopes

/-- The ordinary uses in a block, in the scopes around it. Its own scope has the formal parameters
that belong to it and its declarations. -/
def Block.sites (formals : List Declared) (scopes : List (List Declared)) : Block → List Site
  | .mk _ decls _ stmts =>
    Decl.sitesAll ((formals ++ decls.map Decl.declared) :: scopes) decls ++
      Stmt.sitesAll ((formals ++ decls.map Decl.declared) :: scopes) stmts

/-- The ordinary uses in declarations, in scopes. -/
def Decl.sitesAll (scopes : List (List Declared)) : List Decl → List Site
  | [] => []
  | d :: ds => d.sites scopes ++ Decl.sitesAll scopes ds

/-- The ordinary uses in statements, in scopes. -/
def Stmt.sitesAll (scopes : List (List Declared)) : List Stmt → List Site
  | [] => []
  | s :: ss => s.sites scopes ++ Stmt.sitesAll scopes ss

end

/-- The ordinary uses in a program from left to right. -/
def Program.sites (T : Program) : List Site :=
  Decl.sitesAll [T.decls.map Decl.declared] T.decls

/-! ## Symbols

A declaration makes a symbol if it has a meaning and no earlier one in the same scope gives the same
name. The fields of a struct are a scope of their own, and are read only if the struct makes a
symbol.
-/

/-- Whether a declaration makes a symbol after earlier ones in its scope. -/
def Declared.IsNew (earlier : List Declared) (d : Declared) : Prop :=
  d.meaning.isSome = true ∧ ∀ other ∈ earlier, ¬ other.Gives d.name.name

instance (earlier : List Declared) (d : Declared) : Decidable (d.IsNew earlier) :=
  inferInstanceAs (Decidable (_ ∧ _))

/-- The declaration, if it makes a symbol. -/
def Declared.made (earlier : List Declared) (d : Declared) : List Declared :=
  if d.IsNew earlier then [d] else []

/-- Those declarations of a scope that make symbols. -/
def Declared.madeAll (earlier : List Declared) : List Declared → List Declared
  | [] => []
  | d :: ds => d.made earlier ++ Declared.madeAll (earlier ++ [d]) ds

mutual

/-- What makes symbols in a declaration, in order. -/
def Decl.made (earlier : List Declared) : Decl → List Declared
  | .var pos type name => (Decl.var pos type name).declared.made earlier
  | .func pos returnType name formals bodyPos body =>
    (Decl.func pos returnType name formals bodyPos body).declared.made earlier ++
      (Declared.madeAll [] (formals.items.map Formal.declared) ++
        body.made (formals.items.map Formal.declared))
  | .struct pos name fieldsPos fields =>
    let d := (Decl.struct pos name fieldsPos fields).declared
    if d.IsNew earlier then d :: Declared.madeAll [] (fields.map Decl.declared) else []

/-- What makes symbols in a statement, in order. -/
def Stmt.made : Stmt → List Declared
  | .assign _ _ | .increment _ _ | .decrement _ _ | .read _ _ | .write _ _ | .call _ _
  | .ret _ _ => []
  | .ifThen _ _ body | .loop _ _ body => body.made []
  | .ifElse _ _ yes no => yes.made [] ++ no.made []

/-- What makes symbols in a block after the formal parameters that belong to it, in order. -/
def Block.made (formals : List Declared) : Block → List Declared
  | .mk _ decls _ stmts => Decl.madeAll formals decls ++ Stmt.madeAll stmts

/-- What makes symbols in declarations, in order. -/
def Decl.madeAll (earlier : List Declared) : List Decl → List Declared
  | [] => []
  | d :: ds => d.made earlier ++ Decl.madeAll (earlier ++ [d.declared]) ds

/-- What makes symbols in statements, in order. -/
def Stmt.madeAll : List Stmt → List Declared
  | [] => []
  | s :: ss => s.made ++ Stmt.madeAll ss

end

/-- What makes symbols in a program, in order. -/
def Program.made (T : Program) : List Declared := Decl.madeAll [] T.decls

/-! ## Looking up -/

/-- The first declaration that gives a name in the innermost scope that has one. -/
def Declared.lookup (scopes : List (List Declared)) (name : String) : Option Declared :=
  scopes.findSome? (·.find? (·.Gives name))

namespace Site

/-- The use with only those declarations that precede it. -/
def seen (site : Site) : Site :=
  { site with scopes := site.scopes.map (·.filter (·.name.pos < site.use.pos)) }

theorem lookup_seen (site : Site) :
    Declared.lookup site.seen.scopes site.use.name =
      site.scopes.findSome? (·.find? (site.Candidate ·)) := by
  rw [Declared.lookup, seen, List.findSome?_map]
  congr 1
  funext scope
  rw [Function.comp_apply, List.find?_filter]
  congr 1
  funext d
  simp [Candidate, and_comm]

/-- A use denotes what is found among the declarations that precede it. -/
theorem denotes_iff (site : Site) (d : Declared) :
    site.Denotes d ↔ Declared.lookup site.seen.scopes site.use.name = some d := by
  rw [lookup_seen, List.findSome?_eq_some_iff]
  unfold Denotes
  simp only [List.find?_eq_none, List.find?_eq_some_iff_append, decide_eq_true_eq]
  constructor
  · rintro ⟨inner, scope, outer, split, closer, earlier, later, same, candidate, first⟩
    exact ⟨inner, scope, outer, split, ⟨candidate, earlier, later, same, by simpa using first⟩,
      closer⟩
  · rintro ⟨inner, scope, outer, split, ⟨candidate, earlier, later, same, first⟩, closer⟩
    exact ⟨inner, scope, outer, split, closer, earlier, later, same, candidate,
      by simpa using first⟩

end Site

end Minim
