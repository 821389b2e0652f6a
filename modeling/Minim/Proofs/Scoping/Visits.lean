import Minim.Proofs.Scoping.Walk

/-!
# Visits of declared names

The analysis of a program visits the names that variables, formal parameters, functions and structs
declare, and the names of the fields of a struct that could be declared. At each visit it finds the
name in the scope where it is to be declared, or in the table of the struct, or it makes a symbol.
A visit is the state in which the analysis comes to the name; what is to be found, reported and made
there is told by that state.
-/

namespace Minim

open Resolution

/-! ## One visit -/

/-- What a name is declared as: a variable of a written type, a field and a formal parameter
included, or a function or a struct. -/
inductive DeclaredAs
  | typed (type : TypeExpr)
  | definition (meaning : Meaning)

/-- A visit of a declared name: where it is to be declared, and the state before. -/
structure Visit where
  target : Target
  name : Ident
  declaredAs : DeclaredAs
  before : State

/-- What comes of a visit. -/
inductive Verdict
  | void
  | duplicate
  | made
  deriving DecidableEq, Repr

namespace Visit

/-- The meaning that a symbol of the name has as it is written. -/
def meaning? (v : Visit) : Option Meaning :=
  match v.declaredAs with
  | .typed type => type.meaning?
  | .definition meaning => some meaning

/-- The declaration that is visited. -/
def declared (v : Visit) : Declared := ⟨v.name, v.meaning?⟩

/-- The state after the visit. -/
def after (v : Visit) : State :=
  match v.declaredAs with
  | .typed type => (type.declare v.target v.name v.before).2
  | .definition meaning => (Resolution.declare v.target v.name meaning v.before).2

/-- What the scope that the name is to be declared in binds it to, in some state. -/
def boundIn (v : Visit) (s : State) : Option SymbolId :=
  ((s.tableOf v.target).lookupLocal v.name.name).toOption.join

/-- A variable of type void makes no symbol, nor does a name that its scope binds already. -/
def verdict (v : Visit) : Verdict :=
  match v.meaning?, v.boundIn v.before with
  | none, _ => .void
  | some _, some _ => .duplicate
  | some _, none => .made

/-- The symbol that is made, if there is one. -/
def symbol? (v : Visit) : Option SymbolId :=
  match v.verdict with
  | .made => v.boundIn v.after
  | _ => none

/-- The fault that the struct in the type of a variable is unknown. -/
def typeFaults (v : Visit) : List Diagnostic :=
  match v.declaredAs with
  | .typed (.struct _ structName) =>
    match v.before.table.lookup structName.name with
    | .ok none => [Log.entry v.name.pos .invalidStructType]
    | _ => []
  | _ => []

/-- The faults that are found. -/
def faults (v : Visit) : List Diagnostic :=
  match v.verdict with
  | .void => [Log.entry v.name.pos .voidVariable]
  | .duplicate => v.typeFaults ++ [Log.entry v.name.pos .duplicateName]
  | .made => v.typeFaults

/-- The name is bound to a new symbol of a meaning, which is put at the end of the arena. -/
structure Makes (v : Visit) (meaning : Meaning) (id : SymbolId) : Prop where
  fresh : v.before.store.get? id = none
  symbol : v.after.store.get? id =
    some { name := v.name.name, meaning, index := some v.before.arena.size }
  arena : v.after.arena.ids = v.before.arena.ids ++ [id]
  bound : ∃ scope outer, v.before.tableOf v.target = ⟨scope :: outer⟩ ∧
    v.after.tableOf v.target = ⟨scope.bind v.name.name id :: outer⟩

/-- What a visit does. Where it makes no symbol, nothing but the log changes. -/
inductive Answered (v : Visit) : Prop
  | void (written : v.meaning? = none)
      (after : v.after = v.before.logged [Log.entry v.name.pos .voidVariable])
  | duplicate {meaning : Meaning} {id : SymbolId} (written : v.meaning? = some meaning)
      (bound : v.boundIn v.before = some id)
      (after : v.after =
        v.before.logged (v.typeFaults ++ [Log.entry v.name.pos .duplicateName]))
  | made {meaning : Meaning} {id : SymbolId} (written : v.meaning? = some meaning)
      (free : v.boundIn v.before = none) (makes : v.Makes meaning id)
      (log : v.after.log.entries = v.before.log.entries ++ v.typeFaults)

end Visit

/-! ## The visits of a tree

Each part of a tree is visited in the state that the parts before it lead to.
-/

/-- The visits of formal parameters. -/
def Formal.visitsAll (s : State) : List Formal → List Visit
  | [] => []
  | f :: fs => ⟨.scope, f.name, .typed f.type, s⟩ :: Formal.visitsAll (f.resolve s).2 fs

/-- The visits of the fields of a struct. -/
def Decl.fieldVisits (structName : String) (struct : SymbolId) (s : State) :
    List Decl → List Visit
  | [] => []
  | .var pos type name :: ds =>
    ⟨.fields struct, name, .typed type, s⟩ ::
      Decl.fieldVisits structName struct
        ((Decl.var pos type name).resolveField structName struct s).2 ds
  -- The analysis ends at a member that is no variable.
  | _ :: _ => []

mutual

/-- The visits of a declaration. The fields of a struct are visited if its name could be declared.
-/
def Decl.visits (s : State) : Decl → List Visit
  | .var _ type name => [⟨.scope, name, .typed type, s⟩]
  | .func _ returnType name formals _ body =>
    let visit : Visit :=
      ⟨.scope, name,
        .definition (.func returnType.dataType (formals.items.map (·.type.dataType))), s⟩
    let inside := (openScope visit.after).2
    visit :: (Formal.visitsAll inside formals.items ++ body.visits (formals.resolve inside).2)
  | .struct _ name _ fields =>
    let visit : Visit := ⟨.scope, name, .definition (.structDef .root), s⟩
    visit :: visit.symbol?.elim [] fun struct =>
      Decl.fieldVisits name.name struct visit.after fields

/-- The visits of a statement. -/
def Stmt.visits (s : State) : Stmt → List Visit
  | .assign _ _ | .increment _ _ | .decrement _ _ | .read _ _ | .write _ _ | .call _ _
  | .ret _ _ => []
  | .ifThen _ cond body | .loop _ cond body => body.visits (openScope (cond.resolve s).2).2
  | .ifElse _ cond yes no =>
    let inside := (openScope (cond.resolve s).2).2
    yes.visits inside ++ no.visits (openScope (closeScope (yes.resolveInside inside).2).2).2

/-- The visits of a block in the scope that is open. -/
def Block.visits (s : State) : Block → List Visit
  | .mk _ decls _ stmts =>
    Decl.visitsAll s decls ++ Stmt.visitsAll (Decl.resolveAll decls s).2 stmts

/-- The visits of declarations. -/
def Decl.visitsAll (s : State) : List Decl → List Visit
  | [] => []
  | d :: ds => d.visits s ++ Decl.visitsAll (d.resolve s).2 ds

/-- The visits of statements. -/
def Stmt.visitsAll (s : State) : List Stmt → List Visit
  | [] => []
  | st :: ss => st.visits s ++ Stmt.visitsAll (st.resolve s).2 ss

end

/-- The visits of a program that is analysed from a fresh state. -/
def Program.visits (T : Program) : List Visit := Decl.visitsAll {} T.decls

end Minim
