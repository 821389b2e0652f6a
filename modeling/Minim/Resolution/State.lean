import Minim.Diagnostic
import Minim.Symbol
import Minim.Syntax.Node

/-!
The state of name analysis, and the steps that change it. Faults in a program go into the log and
the analysis goes on; a failure, which only a tree outside the grammar or a table without scopes can
cause, ends it. After a failure no step changes anything, so that the state stays what was reached.
-/

namespace Minim

namespace Resolution

/-- Why an analysis cannot go on. -/
inductive Failure
  | scope (error : ScopeError)
  | structMember (struct : String) (kind : NodeKind)
  | dotBase (kind : NodeKind)
  deriving DecidableEq, Repr

/-- The wording of a failure. -/
def Failure.message : Failure → String
  | scope error => error.message
  | structMember struct kind => "struct '" ++ struct ++ "' contains a " ++ kind.name ++ " node"
  | dotBase kind => "Dot access on a " ++ kind.name ++ " node"

/-- What an analysis reads and writes: the symbols, the scopes that are open, the symbols declared
so far in order, the faults found so far, and the failure that ended it. -/
structure State where
  store : Store := {}
  table : Table := .root
  arena : Arena := {}
  log : Log := {}
  failure : Option Failure := none
  deriving Inhabited

namespace State

/-- End the analysis. -/
def fail (s : State) (failure : Failure) : State := { s with failure := some failure }

/-- Report a fault at an identifier. -/
def report (s : State) (name : Ident) (kind : DiagnosticKind) : State :=
  { s with log := s.log.report (Log.entry name.pos kind) }

/-- The state with other scopes. -/
def withTable (s : State) (table : Table) : State := { s with table }

/-- Make a symbol and put it at the end of the arena. -/
def record (s : State) (name : String) (meaning : Meaning) : State :=
  let (id, store) := s.store.make { name, meaning, index := some s.arena.size }
  { s with store, arena := ⟨s.arena.ids ++ [id]⟩ }

/-- The identity of the symbol to be made next. -/
def nextId (s : State) : SymbolId := ⟨s.store.symbols.length⟩

end State

/-- A part of an analysis. -/
abbrev Resolve := StateM State

/-- Where a name is declared: in the innermost open scope, or among the fields of a struct. -/
inductive Target
  | scope
  | fields (struct : SymbolId)
  deriving DecidableEq, Repr

namespace State

/-- The table that a declaration goes into. -/
def tableOf (s : State) : Target → Table
  | .scope => s.table
  | .fields struct => (s.store.fields? struct).getD .root

/-- The state with another table in the place of a target. -/
def withTableOf (s : State) (target : Target) (table : Table) : State :=
  match target with
  | .scope => s.withTable table
  | .fields struct => { s with store := s.store.setFields struct table }

/-- Declare a name with a new symbol. A name that the table binds already is reported and left
alone. The answer is the new symbol. -/
def declare (s : State) (target : Target) (name : Ident) (meaning : Meaning) :
    Option SymbolId × State :=
  match (s.tableOf target).declare name.name s.nextId with
  | .error (.duplicate _) => (none, s.report name .duplicateName)
  | .error error => (none, s.fail (.scope error))
  | .ok table => (some s.nextId, (s.withTableOf target table).record name.name meaning)

/-- The struct that a symbol is a variable of. -/
def structOf? (s : State) (id : SymbolId) : Option String :=
  match (s.store.get? id).map Symbol.meaning with
  | some (.structVar structName) => some structName
  | _ => none

end State

end Resolution

/-- An identifier annotated with the place of its symbol. -/
def Ident.attach (name : Ident) (index : Option Nat) : Ident :=
  { name with symbol := index.map Int.ofNat }

namespace Resolution

/-! ## Steps -/

/-- A step that is taken unless the analysis has ended; then `otherwise` is the answer. -/
def unlessFailed {α : Type} (otherwise : α) (step : State → α × State) : Resolve α := fun s =>
  match s.failure with
  | some _ => (otherwise, s)
  | none => step s

/-- End the analysis. -/
def fail (failure : Failure) : Resolve Unit :=
  unlessFailed () fun s => ((), s.fail failure)

/-- Report a fault at an identifier. -/
def report (name : Ident) (kind : DiagnosticKind) : Resolve Unit :=
  unlessFailed () fun s => ((), s.report name kind)

/-- Open a scope. -/
def openScope : Resolve Unit :=
  unlessFailed () fun s => ((), s.withTable s.table.push)

/-- Close the innermost scope. -/
def closeScope : Resolve Unit :=
  unlessFailed () fun s =>
    match s.table.pop with
    | .ok table => ((), s.withTable table)
    | .error error => ((), s.fail (.scope error))

/-- Declare a name with a new symbol, which is the answer. -/
def declare (target : Target) (name : Ident) (meaning : Meaning) : Resolve (Option SymbolId) :=
  unlessFailed none fun s => s.declare target name meaning

/-- Annotate a use of a name with the symbol it is bound to in the scopes that are open. -/
def useName (name : Ident) : Resolve Ident :=
  unlessFailed name fun s =>
    match s.table.lookup name.name with
    | .error error => (name, s.fail (.scope error))
    | .ok none => (name, s.report name .undeclaredIdentifier)
    | .ok (some id) => (name.attach (s.store.index? id), s)

/-- Annotate the struct name in the type of a declared name. A name that nothing is bound to is
reported at the declared name, and one that is bound to something else is left alone. -/
def useStructName (structName declared : Ident) : Resolve Ident :=
  unlessFailed structName fun s =>
    match s.table.lookup structName.name with
    | .error error => (structName, s.fail (.scope error))
    | .ok none => (structName, s.report declared .invalidStructType)
    | .ok (some id) =>
      if (s.store.fields? id).isSome then (structName.attach (s.store.index? id), s)
      else (structName, s)

/-- Annotate a field of a struct that the open scopes bind, if they do. -/
def useField (structName : String) (field : Ident) : Resolve Ident :=
  unlessFailed field fun s =>
    match s.table.lookup structName with
    | .error error => (field, s.fail (.scope error))
    | .ok found =>
      match found.bind s.store.fields? with
      | none => (field, s)
      | some fields =>
        match fields.lookupLocal field.name with
        | .error error => (field, s.fail (.scope error))
        | .ok none => (field, s.report field .invalidFieldName)
        | .ok (some id) => (field.attach (s.store.index? id), s)

/-- Annotate the base of a dot access, which the innermost scope has to bind to a variable of a
struct. The answer has the struct's name. -/
def useBase (base : Ident) : Resolve (Ident × Option String) :=
  unlessFailed (base, none) fun s =>
    match s.table.lookupLocal base.name with
    | .error error => ((base, none), s.fail (.scope error))
    | .ok found =>
      match found.bind fun id => (s.structOf? id).map (id, ·) with
      | none => ((base, none), s.report base .dotAccessNonStruct)
      | some (id, structName) => ((base.attach (s.store.index? id), some structName), s)

end Resolution

end Minim
