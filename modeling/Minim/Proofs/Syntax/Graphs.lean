import Mathlib.Data.List.Nodup
import Mathlib.Data.List.Range
import Mathlib.Data.List.Perm.Basic
import Minim.Proofs.Syntax.Roles

/-!
# The graph of a tree

A path says of each step from the top of a tree which child is next. In the graph of a tree the
nodes are numbered in the order of their paths, every node but the first has one edge that leads to
it, and this edge comes from its parent and is labelled with its role. So the roles and kinds of all
nodes can be read off the statements again, one after the other, as they were made.
-/

namespace Minim

/-! ## Paths -/

namespace Outline

mutual

/-- The paths to all nodes, a node before its children. -/
def paths : Outline → List (List Nat)
  | mk _ _ children => [] :: pathsOf 0 children

/-- The paths to all nodes of several outlines, which are counted from `index` on. -/
def pathsOf (index : Nat) : List Outline → List (List Nat)
  | [] => []
  | o :: os => o.paths.map (index :: ·) ++ pathsOf (index + 1) os

end

/-- What a path leads to. -/
def at? : Outline → List Nat → Option Outline
  | o, [] => some o
  | o, index :: path => o.children[index]?.bind (·.at? path)

/-- The nodes with the numbers `i` and `j` are a parent and its child in a role. -/
def Links (o : Outline) (i j : Nat) (role : Role) : Prop :=
  ∃ path index child, o.paths[i]? = some path ∧ o.paths[j]? = some (path ++ [index]) ∧
    o.at? (path ++ [index]) = some child ∧ child.role = role

theorem at?_append (o : Outline) (path path' : List Nat) :
    o.at? (path ++ path') = (o.at? path).bind (·.at? path') := by
  induction path generalizing o with
  | nil => rfl
  | cons index path ih =>
    rw [List.cons_append, at?, at?, Option.bind_assoc]
    exact congrArg (Option.bind _) (funext ih)

theorem pathsOf_append (index : Nat) (os os' : List Outline) :
    pathsOf index (os ++ os') = pathsOf index os ++ pathsOf (index + os.length) os' := by
  induction os generalizing index with
  | nil => rfl
  | cons o os ih =>
    rw [List.cons_append, pathsOf, pathsOf, ih, List.append_assoc, List.length_cons, Nat.add_assoc,
      Nat.add_comm 1]

theorem exists_cons_of_mem_pathsOf {index : Nat} {os : List Outline} {path : List Nat}
    (mem : path ∈ pathsOf index os) : ∃ first rest, path = first :: rest ∧ index ≤ first := by
  induction os generalizing index with
  | nil => cases mem
  | cons o os ih =>
    rw [pathsOf, List.mem_append, List.mem_map] at mem
    rcases mem with ⟨rest, -, rfl⟩ | later
    · exact ⟨index, rest, rfl, Nat.le_refl _⟩
    · obtain ⟨first, rest, rfl, larger⟩ := ih later
      exact ⟨first, rest, rfl, Nat.le_of_succ_le larger⟩

mutual

theorem nodup_paths (o : Outline) : o.paths.Nodup := by
  obtain ⟨role, self, children⟩ := o
  refine List.nodup_cons.mpr ⟨fun mem => ?_, nodup_pathsOf 0 children⟩
  obtain ⟨first, rest, same, -⟩ := exists_cons_of_mem_pathsOf mem
  cases same

theorem nodup_pathsOf (index : Nat) (os : List Outline) : (pathsOf index os).Nodup := by
  cases os with
  | nil => exact List.nodup_nil
  | cons o os =>
    refine List.Nodup.append ((nodup_paths o).map fun _ _ => List.tail_eq_of_cons_eq)
      (nodup_pathsOf (index + 1) os) ?_
    -- the paths into different children begin differently
    intro path here later
    obtain ⟨path, -, rfl⟩ := List.mem_map.mp here
    obtain ⟨first, rest, same, larger⟩ := exists_cons_of_mem_pathsOf later
    cases same
    exact absurd larger (Nat.not_succ_le_self _)

end

mutual

theorem length_paths (o : Outline) : o.paths.length = o.nodes.length := by
  obtain ⟨role, self, children⟩ := o
  exact congrArg Nat.succ (length_pathsOf 0 children)

theorem length_pathsOf (index : Nat) (os : List Outline) :
    (pathsOf index os).length = (nodesOf os).length := by
  cases os with
  | nil => rfl
  | cons o os =>
    rw [pathsOf, nodesOf, List.length_append, List.length_append, List.length_map, length_paths o,
      length_pathsOf _ os]

end

/-! ## Parts of a tree -/

/-- The part that a path leads to has its nodes one after the other in the tree, from the number
`next` on. -/
structure Stands (o : Outline) (next : Nat) (path : List Nat) (part : Outline) : Prop where
  leads : o.at? path = some part
  block : ∃ before after, o.paths = before ++ part.paths.map (path ++ ·) ++ after ∧
    before.length = next

namespace Stands

variable {o part : Outline} {next : Nat} {path : List Nat}

theorem whole (o : Outline) : Stands o 0 [] o where
  leads := rfl
  block := ⟨[], [], by simp, rfl⟩

theorem number (h : Stands o next path part) : o.paths[next]? = some path := by
  obtain ⟨before, after, paths, rfl⟩ := h.block
  obtain ⟨role, self, children⟩ := part
  rw [paths, List.append_assoc, List.getElem?_append_right (Nat.le_refl _), Nat.sub_self,
    Outline.paths]
  simp

/-- A child stands behind its parent and the nodes of the children before it. -/
theorem child {role : Role} {self : Node} {earlier later : List Outline} {child : Outline}
    (h : Stands o next path (.mk role self (earlier ++ child :: later))) :
    Stands o (next + 1 + (nodesOf earlier).length) (path ++ [earlier.length]) child where
  leads := by
    rw [at?_append, h.leads, Option.bind_some, at?, children,
      List.getElem?_append_right (Nat.le_refl _), Nat.sub_self]
    rfl
  block := by
    obtain ⟨before, after, paths, rfl⟩ := h.block
    refine ⟨before ++ path :: (pathsOf 0 earlier).map (path ++ ·),
      (pathsOf (earlier.length + 1) later).map (path ++ ·) ++ after, ?_, ?_⟩
    · rw [paths, Outline.paths, pathsOf_append, pathsOf]
      simp [Function.comp_def]
    · rw [List.length_append, List.length_cons, List.length_map, length_pathsOf]
      omega

theorem links {role : Role} {self : Node} {earlier later : List Outline} {child : Outline}
    (h : Stands o next path (.mk role self (earlier ++ child :: later))) :
    o.Links next (next + 1 + (nodesOf earlier).length) child.role :=
  ⟨path, earlier.length, child, h.number, h.child.number, h.child.leads, rfl⟩

end Stands

mutual

/-- A path leads to the node with its number. -/
theorem map_at?_paths (o : Outline) :
    o.paths.map (fun path => (o.at? path).map Outline.self) = o.nodes.map some := by
  obtain ⟨role, self, children⟩ := o
  exact congrArg (some self :: ·) (map_at?_pathsOf role self [] children)

theorem map_at?_pathsOf (role : Role) (self : Node) (earlier os : List Outline) :
    (pathsOf earlier.length os).map
        (fun path => ((mk role self (earlier ++ os)).at? path).map Outline.self) =
      (nodesOf os).map some := by
  cases os with
  | nil => rfl
  | cons o os =>
    have rest := map_at?_pathsOf role self (earlier ++ [o]) os
    rw [List.length_append, List.append_assoc] at rest
    rw [pathsOf, nodesOf, List.map_append, List.map_append, List.map_map, ← map_at?_paths o]
    refine congrArg₂ (· ++ ·) (List.map_congr_left fun path _ => ?_) rest
    simp [at?, children]

end

end Outline

/-! ## Statements -/

namespace Graph

/-- The number, the label and the fill that a statement gives a node. -/
def Statement.node? : Statement → Option (Nat × String × Option Fill)
  | node id label fill => some (id, label, fill)
  | edge _ _ _ => none

/-- The number of the node that an edge leads to. -/
def Statement.target? : Statement → Option Nat
  | node _ _ _ => none
  | edge _ target _ => some target

variable (legend : Legend)

mutual

theorem snd_statements (next : Nat) (o : Outline) :
    (statements legend next o).2 = next + o.nodes.length := by
  obtain ⟨role, self, children⟩ := o
  rw [statements_mk, snd_childStatements next (next + 1) children, Outline.nodes, List.length_cons,
    Nat.add_assoc, Nat.add_comm 1]

theorem snd_childStatements (parent next : Nat) (os : List Outline) :
    (childStatements legend parent next os).2 = next + (Outline.nodesOf os).length := by
  cases os with
  | nil => rfl
  | cons o os =>
    rw [childStatements_cons, snd_childStatements parent _ os, snd_statements next o,
      Outline.nodesOf, List.length_append, Nat.add_assoc]

end

mutual

/-- The nodes are stated in their order, with their numbers. -/
theorem nodes_statements (next : Nat) (o : Outline) :
    (statements legend next o).1.filterMap Statement.node? =
      (o.nodes.zipIdx next).map fun (node, id) => (id, label legend node, fill? legend node) := by
  obtain ⟨role, self, children⟩ := o
  rw [statements_mk, List.filterMap_cons, nodes_childStatements next (next + 1) children]
  rfl

theorem nodes_childStatements (parent next : Nat) (os : List Outline) :
    (childStatements legend parent next os).1.filterMap Statement.node? =
      ((Outline.nodesOf os).zipIdx next).map fun (node, id) =>
        (id, label legend node, fill? legend node) := by
  cases os with
  | nil => rfl
  | cons o os =>
    rw [childStatements_cons, List.filterMap_append, List.filterMap_cons, nodes_statements next o,
      nodes_childStatements parent _ os, snd_statements, Outline.nodesOf, List.zipIdx_append,
      List.map_append]
    rfl

end

mutual

/-- One edge leads to each node below the first. -/
theorem targets_statements (next : Nat) (o : Outline) :
    ((statements legend next o).1.filterMap Statement.target?).Perm
      (List.range' (next + 1) (Outline.nodesOf o.children).length) := by
  obtain ⟨role, self, children⟩ := o
  exact targets_childStatements next (next + 1) children

theorem targets_childStatements (parent next : Nat) (os : List Outline) :
    ((childStatements legend parent next os).1.filterMap Statement.target?).Perm
      (List.range' next (Outline.nodesOf os).length) := by
  cases os with
  | nil => exact .nil
  | cons o os =>
    have here := targets_statements next o
    have others := targets_childStatements parent (next + o.nodes.length) os
    obtain ⟨role, self, children⟩ := o
    -- the edge to the child stands behind those within the child
    have split : List.range' next (Outline.nodesOf (.mk role self children :: os)).length =
        next :: (List.range' (next + 1) (Outline.nodesOf children).length ++
          List.range' (next + (Outline.mk role self children).nodes.length)
            (Outline.nodesOf os).length) := by
      rw [Outline.nodesOf, Outline.nodes, List.cons_append, List.length_cons, List.range'_succ,
        List.length_append, ← List.range'_append_1, List.length_cons, Nat.add_assoc,
        Nat.add_comm 1]
    rw [split, childStatements_cons, List.filterMap_append, List.filterMap_cons, snd_statements]
    exact List.perm_middle.trans ((here.append others).cons next)

end

mutual

/-- An edge leads from a node of a tree to its child, which has a larger number. -/
theorem links_of_mem_statements {whole : Outline} {path : List Nat} {next : Nat} (o : Outline)
    (stands : whole.Stands next path o) {i j : Nat} {role : Role}
    (mem : .edge i j role ∈ (statements legend next o).1) : i < j ∧ whole.Links i j role := by
  obtain ⟨role', self, children⟩ := o
  rw [statements_mk] at mem
  rcases List.mem_cons.mp mem with same | mem
  · cases same
  · exact links_of_mem_childStatements [] children stands rfl mem

theorem links_of_mem_childStatements {whole : Outline} {path : List Nat} {parent next : Nat}
    {role' : Role} {self : Node} (earlier os : List Outline)
    (stands : whole.Stands parent path (.mk role' self (earlier ++ os)))
    (place : next = parent + 1 + (Outline.nodesOf earlier).length) {i j : Nat} {role : Role}
    (mem : .edge i j role ∈ (childStatements legend parent next os).1) :
    i < j ∧ whole.Links i j role := by
  cases os with
  | nil => cases mem
  | cons o os =>
    subst place
    rw [childStatements_cons, List.mem_append, List.mem_cons] at mem
    rcases mem with here | same | others
    · exact links_of_mem_statements o stands.child here
    · cases same
      exact ⟨by omega, stands.links⟩
    · have stands' : whole.Stands parent path (.mk role' self (earlier ++ [o] ++ os)) := by
        rwa [List.append_assoc]
      refine links_of_mem_childStatements (earlier ++ [o]) os stands' ?_ others
      rw [snd_statements, Outline.nodesOf_append, Outline.nodesOf, Outline.nodesOf,
        List.length_append, List.append_nil, Nat.add_assoc _ (List.length _)]

end

/-! ## What is recorded -/

/-- A statement as it is recorded, with the names of the nodes and the text of the role. -/
inductive Record
  | node (name label : String) (fill : Option Fill)
  | edge (tail head label : String)
  deriving DecidableEq, Repr

/-- What is recorded for a statement. -/
def Statement.record : Statement → Record
  | node id label fill => .node (nodeName id) label fill
  | edge source target role => .edge (nodeName source) (nodeName target) (roleText role)

namespace Record

/-- A record on a line of its own. -/
def line : Record → String
  | node name label none => "\t" ++ name ++ " [label=" ++ value label ++ "]\n"
  | node name label (some fill) =>
    "\t" ++ name ++ " [label=" ++ value label ++ " fillcolor=" ++ value fill.color ++
      " style=filled]\n"
  | edge tail head label => "\t" ++ tail ++ " -> " ++ head ++ " [label=" ++ value label ++ "]\n"

/-- The name, the label and the fill of a node. -/
def node? : Record → Option (String × String × Option Fill)
  | node name label fill => some (name, label, fill)
  | edge _ _ _ => none

/-- The name of the node that an edge leads to. -/
def head? : Record → Option String
  | node _ _ _ => none
  | edge _ head _ => some head

end Record

/-- A tree as the roles and kinds of its nodes. -/
inductive Sketch
  | mk (role : Role) (kind : NodeKind) (children : List Sketch)

end Graph

mutual

/-- The roles and kinds of an outline. -/
def Outline.sketch : Outline → Graph.Sketch
  | .mk role self children => .mk role self.kind (Outline.sketches children)

/-- The roles and kinds of several outlines. -/
def Outline.sketches : List Outline → List Graph.Sketch
  | [] => []
  | o :: os => o.sketch :: Outline.sketches os

end

namespace Graph

variable {legend : Legend}

/-- The kind that a label begins with. -/
def kindOf? (label : String) : Option NodeKind :=
  NodeKind.ofName? (String.ofList (label.toList.takeWhile (· ≠ '\\')))

/-- A node by its name with its kind and the children that have been read. -/
structure Unfinished where
  name : String
  kind : NodeKind
  children : List Sketch

/-- One record read, with the nodes that are still without their edge, the innermost one first: a
node is begun, and an edge ends the innermost node, which it gives to the one around it. -/
def readRecord : List Unfinished → Record → Option (List Unfinished)
  | open_, .node name label _ => (kindOf? label).map fun kind => ⟨name, kind, []⟩ :: open_
  | child :: parent :: outer, .edge tail head label =>
    if parent.name = tail ∧ child.name = head then
      some ({ parent with
        children := parent.children ++ [.mk (roleOf label) child.kind child.children] } :: outer)
    else none
  | _, .edge _ _ _ => none

/-- The tree that records tell of. -/
def readBack (records : List Record) : Option Sketch :=
  match records.foldlM readRecord [] with
  | some [top] => some (.mk .root top.kind top.children)
  | _ => none

/-- A label begins with the kind of its node, and a backslash ends it. -/
theorem kindOf?_label (node : Node) : kindOf? (label legend node) = some node.kind := by
  obtain ⟨rest, shown⟩ :
      ∃ rest, (label legend node).toList = node.kind.name.toList ++ '\\' :: rest := by
    simp only [label, labelText]
    cases shownDetail legend node <;> simp
  have plain : (node.kind.name.toList.all fun c => decide (c ≠ '\\')) = true := by
    cases node.kind <;> decide
  rw [kindOf?, shown, List.takeWhile_append_of_pos (List.all_eq_true.mp plain),
    List.takeWhile_cons_of_neg (by decide), List.append_nil, String.ofList_toList,
    NodeKind.ofName?_name]

mutual

/-- The records of an outline leave its top unfinished, with all its children. -/
theorem read_statements (next : Nat) (o : Outline) (plain : Outline.ArePlain o.children)
    (around : List Unfinished) :
    ((statements legend next o).1.map Statement.record).foldlM readRecord around =
      some (⟨nodeName next, o.self.kind, Outline.sketches o.children⟩ :: around) := by
  obtain ⟨role, self, children⟩ := o
  rw [statements_mk, List.map_cons, List.foldlM_cons, Statement.record, readRecord, kindOf?_label]
  exact read_childStatements next (next + 1) children plain _ [] around

theorem read_childStatements (parent next : Nat) (os : List Outline) (plain : Outline.ArePlain os)
    (kind : NodeKind) (before : List Sketch) (around : List Unfinished) :
    ((childStatements legend parent next os).1.map Statement.record).foldlM readRecord
        (⟨nodeName parent, kind, before⟩ :: around) =
      some (⟨nodeName parent, kind, before ++ Outline.sketches os⟩ :: around) := by
  cases os with
  | nil => simp [childStatements_nil, Outline.sketches]
  | cons o os =>
    obtain ⟨role, self, children⟩ := o
    obtain ⟨⟨plainRole, plainChildren⟩, plainOthers⟩ := plain
    rw [childStatements_cons, List.map_append, List.foldlM_append,
      read_statements next (.mk role self children) plainChildren, Option.bind_eq_bind,
      Option.bind_some, List.map_cons, List.foldlM_cons, Statement.record, readRecord,
      if_pos ⟨rfl, rfl⟩, Outline.role, roleOf_roleText plainRole, Option.bind_eq_bind,
      Option.bind_some, read_childStatements parent _ os plainOthers, List.append_assoc]
    rfl

end

/-- The number that a detail is, if it is one. -/
def detailNumbers : Detail → List Int
  | .token (.number n) => [n]
  | _ => []

/-- The numbers that a label shows: that of the detail, the line and the column. -/
def shownNumbers (node : Node) : List Int :=
  detailNumbers node.detail ++ [node.pos.line, node.pos.column]

/-- All numbers that a label shows are short enough to be written. -/
def IsWritable (node : Node) : Prop :=
  ∀ n ∈ shownNumbers node, n.natAbs < Nat.pow 10 Numeral.digitLimit

theorem isWritable_iff {node : Node} :
    IsWritable node ↔ ∀ n ∈ shownNumbers node, Numeral.IsShort n := Iff.rfl

instance : DecidablePred IsWritable := fun _ => decidable_of_iff _ isWritable_iff.symm

theorem ite_bind {ε α β : Type} {c : Prop} [Decidable c] {a : α} {e : ε} (f : α → Except ε β) :
    ((if c then .ok a else .error e) >>= f) = if c then f a else .error e := by
  split <;> rfl

theorem writeDetail_eq (node : Node) :
    writeDetail legend node =
      if ∀ n ∈ detailNumbers node.detail, Numeral.IsShort n then .ok (shownDetail legend node)
      else .error .tooLong := by
  rw [writeDetail]
  cases node.detail with
  | token value =>
    cases value with
    | number n =>
      simp only [detailNumbers, Numeral.write, ite_bind, List.forall_mem_singleton]
      rfl
    | _ => rfl
  | _ => rfl

/-- A label is written if its numbers are short enough. -/
theorem writeLabel_eq (node : Node) :
    writeLabel legend node =
      if IsWritable node then .ok (label legend node) else .error .tooLong := by
  simp only [writeLabel, writeDetail_eq, Numeral.write, isWritable_iff, shownNumbers, ite_bind,
    List.forall_mem_append, List.forall_mem_cons, ite_and]
  rfl

mutual

/-- A graph is drawn if all labels are written. -/
theorem walk_eq (next : Nat) (o : Outline) :
    walk legend (writeLabel legend) next o =
      if ∀ part ∈ o.nodes, IsWritable part then .ok (statements legend next o)
      else .error .tooLong := by
  obtain ⟨role, self, children⟩ := o
  simp only [walk, writeLabel_eq, walkChildren_eq, Outline.nodes, List.forall_mem_cons, ite_and,
    ite_bind]
  rfl

theorem walkChildren_eq (parent next : Nat) (os : List Outline) :
    walkChildren legend (writeLabel legend) parent next os =
      if ∀ part ∈ Outline.nodesOf os, IsWritable part then
        .ok (childStatements legend parent next os)
      else .error .tooLong := by
  cases os with
  | nil => rfl
  | cons o os =>
    simp only [walkChildren, walk_eq next o, walkChildren_eq parent _ os, Outline.nodesOf_cons,
      List.forall_mem_append, ite_and, ite_bind]
    rfl

end

/-- A literal of one digit more than a numeral may have is not drawn. -/
example : (render none (.expr (.int ⟨1, 1⟩ (.number (.ofNat (.pow 10 4300)))))).isOk = false := by
  decide +kernel

end Graph

end Minim
