import Minim.Scope
import Minim.Sequence

/-!
Symbols: what names are declared to be. A symbol is identified by when it was made; tables bind
names to identities, and the one store says what each of them is. A struct has a table of its
fields. An arena is a growing list of symbols, and a symbol knows its place in the arena it was put
into, which is at most one and for good.
-/

namespace Minim

/-- A declared type. -/
inductive DataType
  | int | bool | void
  | struct (name : String)
  deriving DecidableEq, Repr, Inhabited

/-- The text of a type; a struct type is shown by its name alone. -/
def DataType.text : DataType → String
  | int => "int"
  | bool => "bool"
  | void => "void"
  | struct name => name

/-- A symbol's identity: how many were made before it. -/
structure SymbolId where
  number : Nat
  deriving DecidableEq, Repr, Inhabited

/-- Names bound to symbols. -/
abbrev Table := ScopeStack SymbolId

/-- What a symbol stands for. -/
inductive Meaning
  | var (type : DataType)
  | func (returnType : DataType) (paramTypes : List DataType)
  | structDef (fields : Table)
  | structVar (structName : String)
  deriving Repr

instance : Inhabited Meaning := ⟨.var .int⟩

/-- The text of a meaning. -/
def Meaning.text : Meaning → String
  | var type => type.text
  | func returnType paramTypes =>
    ",".intercalate (paramTypes.map DataType.text) ++ "->" ++ returnType.text
  | structDef _ => "struct"
  | structVar structName => structName

/-- A symbol: its name, its meaning, and its place in the arena that holds it. -/
structure Symbol where
  name : String
  meaning : Meaning
  index : Option Nat := none
  deriving Repr, Inhabited

/-- Why a symbol is refused. -/
inductive SymbolError
  | voidVariable (name : String)
  | alreadyStored (name : String) (index : Nat)
  deriving DecidableEq, Repr

/-- The wording of a refusal. -/
def SymbolError.message : SymbolError → String
  | voidVariable name => "Variable '" ++ name ++ "' cannot have type void"
  | alreadyStored name index =>
    "Symbol '" ++ name ++ "' is already stored at " ++ Text.decimalNat index

namespace Symbol

/-- The text of a symbol. -/
def text (symbol : Symbol) : String := symbol.meaning.text

/-- The type that a variable has, or a struct variable by its struct; the other symbols have none.
-/
def type? (symbol : Symbol) : Option DataType :=
  match symbol.meaning with
  | .var type => some type
  | .structVar structName => some (.struct structName)
  | _ => none

/-- The fields of a struct. -/
def fields? (symbol : Symbol) : Option Table :=
  match symbol.meaning with
  | .structDef fields => some fields
  | _ => none

/-- A symbol with a meaning, not yet in an arena; nothing can be a variable of type void. -/
def ofMeaning? (name : String) (meaning : Meaning) : Except SymbolError Symbol :=
  match meaning with
  | .var .void => .error (.voidVariable name)
  | _ => .ok { name, meaning }

end Symbol

/-! ## The store -/

/-- All symbols in the order in which they were made. -/
structure Store where
  symbols : List Symbol := []
  deriving Repr, Inhabited

namespace Store

/-- The symbol with an identity. -/
def get? (store : Store) (id : SymbolId) : Option Symbol := store.symbols[id.number]?

/-- Make a symbol. -/
def make (store : Store) (symbol : Symbol) : SymbolId × Store :=
  (⟨store.symbols.length⟩, ⟨store.symbols ++ [symbol]⟩)

/-- Change the symbol with an identity. -/
def modify (store : Store) (id : SymbolId) (change : Symbol → Symbol) : Store :=
  ⟨store.symbols.modify id.number change⟩

/-- The text of the symbol with an identity. -/
def text (store : Store) (id : SymbolId) : String := (store.get? id).elim "" Symbol.text

/-- The place of the symbol with an identity in its arena. -/
def index? (store : Store) (id : SymbolId) : Option Nat := (store.get? id).bind Symbol.index

/-- The fields of the struct with an identity. -/
def fields? (store : Store) (id : SymbolId) : Option Table := (store.get? id).bind Symbol.fields?

/-- Change the fields of the struct with an identity. -/
def setFields (store : Store) (id : SymbolId) (fields : Table) : Store :=
  store.modify id fun symbol =>
    match symbol.meaning with
    | .structDef _ => { symbol with meaning := .structDef fields }
    | _ => symbol

/-- The text of a table. -/
def tableText (store : Store) (table : Table) : String := table.text store.text

/-! ## What making and changing do -/

theorem get?_make_new (store : Store) (symbol : Symbol) :
    (store.make symbol).2.get? (store.make symbol).1 = some symbol := by
  simp [make, get?]

/-- Making a symbol leaves the earlier ones alone. -/
theorem get?_make_of_lt (store : Store) (symbol : Symbol) {id : SymbolId}
    (earlier : id.number < store.symbols.length) :
    (store.make symbol).2.get? id = store.get? id := by
  simp [make, get?, List.getElem?_append_left earlier]

theorem get?_modify_self (store : Store) (id : SymbolId) (change : Symbol → Symbol) :
    (store.modify id change).get? id = (store.get? id).map change := by
  simp [modify, get?]

/-- Changing one symbol leaves the others alone. -/
theorem get?_modify_of_ne (store : Store) {id other : SymbolId} (change : Symbol → Symbol)
    (different : other ≠ id) : (store.modify id change).get? other = store.get? other := by
  have : id.number ≠ other.number := fun same => different (by cases id; cases other; simp_all)
  simp [modify, get?, List.getElem?_modify_ne change store.symbols this]

end Store

/-! ## Arenas -/

/-- A growing list of symbols. -/
structure Arena where
  ids : List SymbolId := []
  deriving DecidableEq, Repr, Inhabited

namespace Arena

/-- The number of symbols. -/
def size (arena : Arena) : Nat := arena.ids.length

/-- Put a symbol at the end of an arena, unless some arena holds it already. -/
def add (arena : Arena) (store : Store) (id : SymbolId) : Except SymbolError (Arena × Store) :=
  match store.index? id with
  | some index => .error (.alreadyStored ((store.get? id).elim "" Symbol.name) index)
  | none =>
    .ok (⟨arena.ids ++ [id]⟩, store.modify id ({ · with index := some arena.size }))

/-- The symbol at a place, which counts from the end if negative. -/
def get? (arena : Arena) (index : Int) : Option SymbolId := itemAt? arena.ids index

/-- The text of the symbol at a place. -/
def textAt (arena : Arena) (store : Store) (index : Int) : String :=
  (arena.get? index).elim "" store.text

/-- Whether an arena has the place of each annotation among the given ones. -/
def covers (arena : Arena) (annotations : List (Option Int)) : Bool :=
  annotations.all fun annotation => annotation.all fun index => (arena.get? index).isSome

/-- The texts of all symbols in order. -/
def texts (arena : Arena) (store : Store) : List String := arena.ids.map store.text

end Arena

end Minim
