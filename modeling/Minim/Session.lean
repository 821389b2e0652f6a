import Minim.Resolution
import Minim.Sequence
import Minim.Symbol.Json
import Minim.Syntax.Dump
import Minim.Syntax.Parser

/-!
Sessions: several trees and several resolvers that may share tables, arenas and logs. A session goes
on step by step; a step that is refused answers why, and what it did before stays done. Trees and
resolvers are named by number in the order in which they were made, or counted from the last one,
which is `-1`.
-/

namespace Minim

/-- A resolver by the numbers of the table, the arena and the log that it works on. -/
structure Resolver where
  table : Nat
  arena : Nat
  log : Nat
  deriving DecidableEq, Repr

/-- All symbols, tables, arenas and logs of a session, with its resolvers and trees. -/
structure Session where
  store : Store := {}
  tables : List Table := []
  arenas : List Arena := []
  logs : List Log := []
  resolvers : List Resolver := []
  trees : List Node := []
  deriving Inhabited

namespace Session

/-- A step of a session. All but the first three are taken by a resolver. -/
inductive Step
  | read (phrase : Phrase) (text : String)
  | build (tree : Node)
  | makeResolver (tableOf arenaOf logOf : Option Int)
  | push (resolver : Int)
  | pop (resolver : Int)
  | declare (resolver : Int) (name : String) (meaning : Meaning)
  | resolve (resolver tree : Int)
  | source (resolver tree : Int)
  | dump (resolver tree : Int)
  | identifiers (resolver tree : Int)
  | symbols (resolver : Int)

/-- What a step answers. -/
inductive Answer
  | done
  | tree (number : Nat)
  | resolver (number : Nat)
  | clean (isClean : Bool)
  | text (text : String)
  | identifiers (names : List Ident)
  | symbols (json : Json.Value)

/-- Why a step is refused. -/
inductive Refusal
  | text (error : TextError)
  | scope (error : ScopeError)
  | symbol (error : SymbolError)
  | resolution (failure : Resolution.Failure)
  | noSuchPlace

/-! ## Parts -/

/-- The resolver with a number. -/
def resolver (s : Session) (number : Int) : Except Refusal Resolver :=
  match itemAt? s.resolvers number with
  | some resolver => .ok resolver
  | none => .error .noSuchPlace

/-- The place of the tree with a number, and the tree. -/
def treeAt (s : Session) (number : Int) : Except Refusal (Nat × Node) :=
  match placeIn? s.trees.length number with
  | none => .error .noSuchPlace
  | some place =>
    match s.trees[place]? with
    | some tree => .ok (place, tree)
    | none => .error .noSuchPlace

/-- The number of the part that a new resolver shares with another one, or of a new part. -/
def share (s : Session) (part : Resolver → Nat) (fresh : Nat) :
    Option Int → Except Refusal Nat
  | none => .ok fresh
  | some number => (s.resolver number).map part

/-- The parts that a resolver works on, as the state of an analysis. -/
def load (s : Session) (resolver : Resolver) : Resolution.State where
  store := s.store
  table := s.tables.getD resolver.table .root
  arena := s.arenas.getD resolver.arena {}
  log := s.logs.getD resolver.log {}

/-- The session after a resolver has brought its parts to a state. -/
def save (s : Session) (resolver : Resolver) (state : Resolution.State) : Session :=
  { s with
    store := state.store
    tables := s.tables.set resolver.table state.table
    arenas := s.arenas.set resolver.arena state.arena
    logs := s.logs.set resolver.log state.log }

/-! ## Steps -/

/-- Add a tree. -/
def addTree (s : Session) (tree : Node) : Answer × Session :=
  (.tree s.trees.length, { s with trees := s.trees ++ [tree] })

/-- Add a resolver. Parts that it shares with no other one are new. -/
def addResolver (s : Session) (tableOf arenaOf logOf : Option Int) :
    Except Refusal (Answer × Session) := do
  let table ← s.share (·.table) s.tables.length tableOf
  let arena ← s.share (·.arena) s.arenas.length arenaOf
  let log ← s.share (·.log) s.logs.length logOf
  let tables := if table = s.tables.length then s.tables ++ [.root] else s.tables
  let arenas := if arena = s.arenas.length then s.arenas ++ [⟨[]⟩] else s.arenas
  let logs := if log = s.logs.length then s.logs ++ [⟨[]⟩] else s.logs
  return (.resolver s.resolvers.length,
    { s with tables, arenas, logs, resolvers := s.resolvers ++ [{ table, arena, log }] })

/-- Change the table of a resolver. -/
def changeTable (s : Session) (number : Int)
    (change : Table → Except ScopeError Table) : Except Refusal Session := do
  let resolver ← s.resolver number
  let state := s.load resolver
  let table ← (change state.table).mapError .scope
  return s.save resolver (state.withTable table)

/-- Put a new symbol into the arena of a resolver and then bind its name in the resolver's table.
The arena keeps the symbol if the table refuses it. -/
def declare (s : Session) (number : Int) (name : String) (meaning : Meaning) :
    Except Refusal Unit × Session :=
  match s.resolver number, Symbol.ofMeaning? name meaning with
  | .error refusal, _ => (.error refusal, s)
  | .ok _, .error error => (.error (.symbol error), s)
  | .ok resolver, .ok symbol =>
    let state := (s.load resolver).record symbol.name symbol.meaning
    let id := (s.load resolver).nextId
    match state.table.declare name id with
    | .error error => (.error (.scope error), s.save resolver state)
    | .ok table => (.ok (), s.save resolver (state.withTable table))

/-- What a resolver answers to a tree: for a whole program whether its log is clean. -/
def resolveAnswer (state : Resolution.State) : Node → Answer
  | .program _ => .clean state.log.isClean
  | _ => .done

/-- Resolve a tree. The tree and the parts of the resolver are left as far as the analysis came. -/
def resolve (s : Session) (number tree : Int) : Except Refusal Answer × Session :=
  match s.resolver number, s.treeAt tree with
  | .error refusal, _ => (.error refusal, s)
  | .ok _, .error refusal => (.error refusal, s)
  | .ok resolver, .ok (place, node) =>
    let (node, state) := node.resolve (s.load resolver)
    let after := { s.save resolver state with trees := s.trees.set place node }
    match state.failure with
    | some failure => (.error (.resolution failure), after)
    | none => (.ok (resolveAnswer state node), after)

/-- Show a tree with the symbols of a resolver's arena, which has to have them all. -/
def display (s : Session) (number tree : Int) (shown : Node → List Ident)
    (print : Legend → Node → String) : Except Refusal Answer := do
  let resolver ← s.resolver number
  let (_, node) ← s.treeAt tree
  let state := s.load resolver
  if state.arena.covers ((shown node).map Ident.symbol) then
    return .text (print state.legend node)
  else .error .noSuchPlace

/-- The identifiers of a tree. A resolver takes the step, as any that shows a tree. -/
def identifiers (s : Session) (number tree : Int) : Except Refusal Answer := do
  let _ ← s.resolver number
  let (_, node) ← s.treeAt tree
  return .identifiers node.identifiers

/-- An operation that changes nothing if it is refused. -/
def attempt {α : Type} (s : Session) (outcome : Except Refusal (α × Session)) :
    Except Refusal α × Session :=
  match outcome with
  | .ok (answer, after) => (.ok answer, after)
  | .error refusal => (.error refusal, s)

/-- Take a step. -/
def step (s : Session) : Step → Except Refusal Answer × Session
  | .read phrase text =>
    s.attempt ((parsePhrase phrase text).mapError .text |>.map s.addTree)
  | .build tree => s.attempt (.ok (s.addTree tree))
  | .makeResolver tableOf arenaOf logOf => s.attempt (s.addResolver tableOf arenaOf logOf)
  | .push resolver =>
    s.attempt ((s.changeTable resolver fun table => .ok table.push).map (.done, ·))
  | .pop resolver => s.attempt ((s.changeTable resolver ScopeStack.pop).map (.done, ·))
  | .declare resolver name meaning =>
    let (outcome, after) := s.declare resolver name meaning
    (outcome.map fun _ => .done, after)
  | .resolve resolver tree => s.resolve resolver tree
  | .source resolver tree => (s.display resolver tree Node.identifiers Node.source, s)
  | .dump resolver tree =>
    (s.display resolver tree Node.uses fun legend node => node.dumpText legend 0 "", s)
  | .identifiers resolver tree => (s.identifiers resolver tree, s)
  | .symbols number =>
    ((s.resolver number).map fun resolver =>
      .symbols ((s.load resolver).arena.toJson s.store), s)

end Session

end Minim
