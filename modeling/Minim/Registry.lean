import Minim.Sequence
import Minim.Symbol.Json

/-!
Registries: symbols, one arena and any number of tables, handled one operation at a time. A table is
either one of its own or the field table of a struct; both answer to a number, which may also be
counted from the last table, `-1`.
-/

namespace Minim

/-- A table by where it is kept. -/
inductive TableRef
  | own (number : Nat)
  | fields (struct : SymbolId)
  deriving DecidableEq, Repr

/-- Symbols, an arena, tables, and the numbers that tables answer to. -/
structure Registry where
  store : Store := {}
  arena : Arena := {}
  tables : List Table := [.root]
  refs : List TableRef := [.own 0]
  deriving Inhabited

/-- Why a registry refuses an operation. -/
inductive RegistryError
  | scope (error : ScopeError)
  | symbol (error : SymbolError)
  | noSuchPlace
  deriving DecidableEq, Repr

/-- The wording of a refusal. -/
def RegistryError.message : RegistryError → String
  | scope error => error.message
  | symbol error => error.message
  | noSuchPlace => "list index out of range"

namespace Registry

/-- The table kept at a place. -/
def tableAt? (r : Registry) : TableRef → Option Table
  | .own number => r.tables[number]?
  | .fields struct => r.store.fields? struct

/-- The registry with another table at a place. -/
def setTableAt (r : Registry) (ref : TableRef) (table : Table) : Registry :=
  match ref with
  | .own number => { r with tables := r.tables.set number table }
  | .fields struct => { r with store := r.store.setFields struct table }

/-- The table with a number, and where it is kept. -/
def table (r : Registry) (number : Int) : Except RegistryError (TableRef × Table) :=
  match itemAt? r.refs number with
  | none => .error .noSuchPlace
  | some ref =>
    match r.tableAt? ref with
    | none => .error .noSuchPlace
    | some table => .ok (ref, table)

/-- Make a symbol. -/
def make (r : Registry) (name : String) (meaning : Meaning) :
    Except RegistryError (SymbolId × Registry) :=
  match Symbol.ofMeaning? name meaning with
  | .error error => .error (.symbol error)
  | .ok symbol =>
    let (id, store) := r.store.make symbol
    .ok (id, { r with store })

/-- Open a table of its own; the answer is its number. -/
def newTable (r : Registry) : Nat × Registry :=
  (r.refs.length,
    { r with tables := r.tables ++ [.root], refs := r.refs ++ [.own r.tables.length] })

/-- Give the field table of a struct a number, which is the answer. -/
def numberFields (r : Registry) (struct : SymbolId) : Nat × Registry :=
  (r.refs.length, { r with refs := r.refs ++ [.fields struct] })

/-- Open a scope in a table. -/
def push (r : Registry) (number : Int) : Except RegistryError Registry := do
  let (ref, table) ← r.table number
  return r.setTableAt ref table.push

/-- Close the innermost scope of a table. -/
def pop (r : Registry) (number : Int) : Except RegistryError Registry := do
  let (ref, table) ← r.table number
  let table ← table.pop.mapError .scope
  return r.setTableAt ref table

/-- Bind a name to a symbol in the innermost scope of a table. -/
def declare (r : Registry) (number : Int) (name : String) (id : SymbolId) :
    Except RegistryError Registry := do
  let (ref, table) ← r.table number
  let table ← (table.declare name id).mapError .scope
  return r.setTableAt ref table

/-- What the innermost scope of a table binds a name to. -/
def lookupLocal (r : Registry) (number : Int) (name : String) :
    Except RegistryError (Option SymbolId) := do
  let (_, table) ← r.table number
  (table.lookupLocal name).mapError .scope

/-- What a table binds a name to. -/
def lookup (r : Registry) (number : Int) (name : String) :
    Except RegistryError (Option SymbolId) := do
  let (_, table) ← r.table number
  (table.lookup name).mapError .scope

/-- The text of a table. -/
def tableText (r : Registry) (number : Int) : Except RegistryError String := do
  let (_, table) ← r.table number
  return r.store.tableText table

/-- Put a symbol into the arena; the answer is its place. -/
def add (r : Registry) (id : SymbolId) : Except RegistryError (Nat × Registry) :=
  match r.arena.add r.store id with
  | .error error => .error (.symbol error)
  | .ok (arena, store) => .ok (r.arena.size, { r with arena, store })

/-- The symbol at a place of the arena. -/
def get (r : Registry) (place : Int) : Except RegistryError SymbolId :=
  match r.arena.get? place with
  | some id => .ok id
  | none => .error .noSuchPlace

/-- The depth of each table by its number. -/
def depths (r : Registry) : List Nat :=
  r.refs.map fun ref => (r.tableAt? ref).elim 0 ScopeStack.depth

end Registry

end Minim
