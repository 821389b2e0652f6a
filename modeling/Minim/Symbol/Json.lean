import Minim.Json.Value
import Minim.Symbol

/-!
Symbols as JSON: an object with the kind, the name and what belongs to the kind. A struct shows each
scope of its field table, the outermost one first, with the arena indices of the fields.
-/

namespace Minim

open Json (Value)

/-- The index of a symbol, or nothing. -/
def indexJson (index : Option Nat) : Value := .ofOption (index.map Int.ofNat)

/-- The scopes of a table, each as an object from names to arena indices. -/
def Store.tableJson (store : Store) (table : Table) : Value :=
  .array <| table.scopes.reverse.map fun scope =>
    .object (scope.map fun (name, id) => (name, indexJson (store.index? id)))

/-- What belongs to the kind of a symbol. -/
def Store.symbolMembers (store : Store) (symbol : Symbol) : List (String × Value) :=
  match symbol.meaning with
  | .var type =>
    [("kind", .string "variable"), ("name", .string symbol.name), ("type", .string type.text)]
  | .func returnType paramTypes =>
    [("kind", .string "function"), ("name", .string symbol.name),
      ("return_type", .string returnType.text),
      ("param_types", .array (paramTypes.map fun type => .string type.text))]
  | .structDef fields =>
    [("kind", .string "struct"), ("name", .string symbol.name), ("fields", store.tableJson fields)]
  | .structVar structName =>
    [("kind", .string "struct_instance"), ("name", .string symbol.name),
      ("struct", .string structName)]

/-- A symbol by itself. -/
def Store.symbolJson (store : Store) (symbol : Symbol) : Value :=
  .object (store.symbolMembers symbol)

/-- The symbols of an arena in order, each with its index. -/
def Arena.toJson (arena : Arena) (store : Store) : Value :=
  .array <| (arena.ids.filterMap store.get?).map fun symbol =>
    .object (store.symbolMembers symbol ++ [("index", indexJson symbol.index)])

end Minim
