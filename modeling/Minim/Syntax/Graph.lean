import Minim.Syntax.Legend
import Minim.Token.Numeral

/-!
Graphs: a tree as the statements of a directed graph in the DOT language. Nodes are numbered in
preorder; what lies below a node is stated after the node and before the edge that leads to it.
-/

namespace Minim.Graph

/-- How an identifier is filled where symbols are shown. -/
inductive Fill
  | resolved
  | unresolved
  deriving DecidableEq, Repr

/-- A statement of a graph. -/
inductive Statement
  | node (id : Nat) (label : String) (fill : Option Fill)
  | edge (source target : Nat) (role : Role)
  deriving DecidableEq, Repr

/-! ## Labels -/

/-- The text of a detail, if there is one. -/
def detailText : Detail → Option String
  | .none | .token .none => none
  | .bool value => some (if value then "True" else "False")
  | .token value => some value.word

/-- The detail a label shows: an identifier is shown with its symbol if there is a legend. -/
def shownDetail (legend : Legend) (node : Node) : Option String :=
  match node.ident?.bind fun name => (legend.note? name).map (name, ·) with
  | some (name, _, text) => some (name.name ++ " : " ++ text)
  | none => detailText node.detail

/-- A label: kind, detail and position on lines of their own. A line break inside a label is a
backslash and the letter n. -/
def labelText (kind : NodeKind) (detail : Option String) (line column : String) : String :=
  let break_ := "\\n"
  let head :=
    match detail with
    | some text => kind.name ++ break_ ++ text
    | none => kind.name
  head ++ break_ ++ line ++ ":" ++ column

/-- The label of a node. -/
def label (legend : Legend) (node : Node) : String :=
  labelText node.kind (shownDetail legend node) (Text.decimal node.pos.line)
    (Text.decimal node.pos.column)

/-- The detail a label shows, unless it is a number that cannot be written. -/
def writeDetail (legend : Legend) (node : Node) : Except WritingError (Option String) :=
  match node.detail with
  | .token (.number n) => do
    let _ ← Numeral.write n
    return shownDetail legend node
  | _ => return shownDetail legend node

/-- The label of a node, unless a number that it shows cannot be written. -/
def writeLabel (legend : Legend) (node : Node) : Except WritingError String := do
  let detail ← writeDetail legend node
  let line ← Numeral.write node.pos.line
  let column ← Numeral.write node.pos.column
  return labelText node.kind detail line column

/-- How a node is filled: only identifiers are, and only with a legend. -/
def fill? (legend : Legend) (node : Node) : Option Fill :=
  match legend, node.ident? with
  | some _, some name => some (if name.symbol.isSome then .resolved else .unresolved)
  | _, _ => none

/-! ## Statements -/

section

variable {m : Type → Type} [Monad m] (legend : Legend) (write : Node → m String)

mutual

/-- The statements for an outline whose top is numbered `next`, and the next free number. The labels
are written one by one, that of a node before those of its children. -/
def walk (next : Nat) : Outline → m (List Statement × Nat)
  | .mk _ self children => do
    let text ← write self
    let (below, free) ← walkChildren next (next + 1) children
    return (.node next text (fill? legend self) :: below, free)

/-- The statements for the children of the node numbered `parent`, numbered from `next` on, and
the next free number. -/
def walkChildren (parent next : Nat) : List Outline → m (List Statement × Nat)
  | [] => return ([], next)
  | child :: rest => do
    let (here, free) ← walk next child
    let (others, last) ← walkChildren parent free rest
    return (here ++ .edge parent next child.role :: others, last)

end

end

/-- The statements for an outline whose labels are all written. -/
def statements (legend : Legend) (next : Nat) (o : Outline) : List Statement × Nat :=
  Id.run (walk legend (fun node => pure (label legend node)) next o)

/-- The statements for the children of a node whose labels are all written. -/
def childStatements (legend : Legend) (parent next : Nat) (os : List Outline) :
    List Statement × Nat :=
  Id.run (walkChildren legend (fun node => pure (label legend node)) parent next os)

theorem statements_mk (legend : Legend) (next : Nat) (role : Role) (self : Node)
    (children : List Outline) :
    statements legend next (.mk role self children) =
      (.node next (label legend self) (fill? legend self) ::
          (childStatements legend next (next + 1) children).1,
        (childStatements legend next (next + 1) children).2) := rfl

theorem childStatements_nil (legend : Legend) (parent next : Nat) :
    childStatements legend parent next [] = ([], next) := rfl

theorem childStatements_cons (legend : Legend) (parent next : Nat) (o : Outline)
    (os : List Outline) :
    childStatements legend parent next (o :: os) =
      ((statements legend next o).1 ++ .edge parent next o.role ::
          (childStatements legend parent (statements legend next o).2 os).1,
        (childStatements legend parent (statements legend next o).2 os).2) := rfl

/-- The statements for a tree, numbered from zero on. -/
def ofNode (legend : Legend) (node : Node) : List Statement :=
  (statements legend 0 node.outline).1

/-- The statements for a tree, unless a label cannot be written. -/
def draw (legend : Legend) (node : Node) : Except WritingError (List Statement) := do
  let (stated, _) ← walk legend (writeLabel legend) 0 node.outline
  return stated

/-! ## DOT text -/

/-- The words with a meaning of their own in DOT. -/
def keywords : List String := ["node", "edge", "graph", "digraph", "subgraph", "strict"]

/-- Whether a character may stand in a bare word. -/
def isWordChar (c : Char) : Bool := c.isAlphanum || c = '_'

/-- Whether a text may be written without quotes. -/
def isBare (text : String) : Bool :=
  match text.toList with
  | [] => false
  | c :: rest =>
    isWordChar c && !c.isDigit && rest.all isWordChar &&
      !keywords.contains (text.map Char.toLower)

/-- The characters of a quoted text: a quote gets a backslash in front of it unless it has one, that
is, unless an odd number of backslashes precedes it. -/
def escapeQuotes : (escaped : Bool) → List Char → List Char
  | _, [] => []
  | escaped, c :: rest =>
    if c = '\\' then c :: escapeQuotes (!escaped) rest
    else if c = '"' && !escaped then '\\' :: c :: escapeQuotes false rest
    else c :: escapeQuotes false rest

/-- A text in double quotes. -/
def inQuotes (text : String) : String :=
  "\"" ++ String.ofList (escapeQuotes false text.toList) ++ "\""

/-- A text as a value in DOT. -/
def value (text : String) : String :=
  if isBare text then text else inQuotes text

/-- The colour of a fill. -/
def Fill.color : Fill → String
  | resolved => "#efffef"
  | unresolved => "#ffefef"

/-- The text of a role. -/
def roleText : Role → String
  | .root => ""
  | .field name => name
  | .item list index => list ++ "[" ++ Text.decimalNat index ++ "]"

/-- The name of a numbered node. -/
def nodeName (id : Nat) : String := "n" ++ Text.decimalNat id

/-- A statement on a line of its own. -/
def Statement.dot : Statement → String
  | node id label none => "\t" ++ nodeName id ++ " [label=" ++ value label ++ "]\n"
  | node id label (some fill) =>
    "\t" ++ nodeName id ++ " [label=" ++ value label ++ " fillcolor=" ++ value fill.color ++
      " style=filled]\n"
  | edge source target role =>
    "\t" ++ nodeName source ++ " -> " ++ nodeName target ++ " [label=" ++ value (roleText role) ++
      "]\n"

/-- The lines that say how the whole graph is drawn: from top to bottom, with boxes. -/
def heading : String := "digraph \x7b\n\tgraph [rankdir=TB]\n\tnode [fontsize=10 shape=box]\n"

/-- The DOT text of statements. -/
def text (stated : List Statement) : String :=
  heading ++ String.join (stated.map Statement.dot) ++ "\x7d\n"

/-- The DOT text of a tree whose labels are all written. -/
def dot (legend : Legend) (node : Node) : String := text (ofNode legend node)

/-- The DOT text of a tree, unless a label cannot be written. -/
def render (legend : Legend) (node : Node) : Except WritingError String :=
  (draw legend node).map text

end Minim.Graph
