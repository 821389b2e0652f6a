import Minim.Proofs.Syntax.Headlines
import Minim.Proofs.Syntax.RoundTrip
import Minim.Syntax.Equality

/-!
# What a dump shows

A dump lists an entry for each node that has a line of its own. Although it is indented by two
columns in some places and by four in others, it is read as these entries, and from the headline of
an entry and what is listed below it the node can be told. So the dump of a program is as good as
its structure.
-/

namespace Minim

open Lexeme
open Listing (IsTitle Lists readText)

/-! ## Entries -/

/-- What the headline of an expression says in parentheses. -/
def Expr.detail : Expr → Option String
  | .int _ value | .string _ value => some value.word
  | .bool _ value => some (if value then "True" else "False")
  | .ident name => some name.name
  | .unary _ op _ | .binary _ _ op _ => some op.word
  | .dot _ _ _ | .assign _ _ _ | .call _ _ _ _ => none

/-- The headline of an expression. -/
def Expr.headline (e : Expr) : String := Minim.headline e.kind e.detail

mutual

/-- What a dump lists below an expression. -/
def Expr.beneath : Expr → List Listing.Entry
  | .int _ _ | .string _ _ | .bool _ _ | .ident _ => []
  | .dot _ base field =>
    [.mk ("loc: " ++ base.headline) base.beneath,
      .mk ("field: " ++ (Expr.ident field).headline) []]
  | .assign _ target value =>
    [.mk ("left: " ++ target.headline) target.beneath,
      .mk ("right: " ++ value.headline) value.beneath]
  | .call _ callee _ args =>
    [.mk ("function: " ++ (Expr.ident callee).headline) (Expr.entries 0 args)]
  | .unary _ _ operand => [.mk ("" ++ operand.headline) operand.beneath]
  | .binary _ left _ right =>
    [.mk ("left: " ++ left.headline) left.beneath,
      .mk ("right: " ++ right.headline) right.beneath]

/-- What a dump lists for arguments, counted from `index` on. -/
def Expr.entries (index : Nat) : List Expr → List Listing.Entry
  | [] => []
  | e :: es => .mk (itemLabel "arg" index ++ e.headline) e.beneath :: Expr.entries (index + 1) es

end

/-- What a dump lists for an expression. -/
def Expr.entry (label : String) (e : Expr) : Listing.Entry := .mk (label ++ e.headline) e.beneath

/-- What the headline of a declaration says in parentheses. -/
def Decl.detail : Decl → String
  | .var _ type name => typedName name type
  | .func _ returnType name formals _ _ =>
    name.name ++ " -> " ++ returnType.source none ++ ", params=[" ++ formals.summary ++ "]"
  | .struct _ name _ _ => name.name

/-- The headline of a declaration. -/
def Decl.headline (d : Decl) : String := Minim.headline d.kind (some d.detail)

theorem Decl.headline_func (pos : Position) (returnType : TypeExpr) (name : Ident)
    (formals : Formals) (bodyPos : Position) (body : Block) :
    (Decl.func pos returnType name formals bodyPos body).headline =
      "FunctionDecl(" ++ name.name ++ " -> " ++ returnType.source none ++ ", params=[" ++
        formals.summary ++ "])" := by
  rw [← String.toList_inj]
  simp [headline, Minim.headline, kind, NodeKind.heading, detail]

mutual

/-- What a dump lists below a declaration. -/
def Decl.beneath : Decl → List Listing.Entry
  | .var _ _ _ => []
  | .func _ _ _ _ _ body => [.mk ("body: " ++ "FunctionBody") (body.entries "decls: " "stmts: ")]
  | .struct _ _ _ fields => [.mk ("fields: " ++ "DeclList") (Decl.entries 0 fields)]

/-- What a dump lists below a statement. -/
def Stmt.beneath : Stmt → List Listing.Entry
  | .assign _ assignment => [assignment.expr.entry ""]
  | .increment _ e | .decrement _ e | .read _ e | .write _ e => [e.entry ""]
  | .ifThen _ cond body => cond.entry "condition: " :: body.entries "decls: " "then: "
  | .ifElse _ cond yes no =>
    cond.entry "condition: " ::
      (yes.entries "then decls: " "then: " ++ no.entries "else decls: " "else: ")
  | .loop _ cond body => cond.entry "condition: " :: body.entries "decls: " "body: "
  | .call _ call => [call.expr.entry ""]
  | .ret _ none => []
  | .ret _ (some value) => [value.entry "expr: "]

/-- What a dump lists for a block: its declarations and its statements. -/
def Block.entries (declsLabel stmtsLabel : String) : Block → List Listing.Entry
  | .mk _ decls _ stmts =>
    [.mk (declsLabel ++ "DeclList") (Decl.entries 0 decls),
      .mk (stmtsLabel ++ "StmtList") (Stmt.entries 0 stmts)]

/-- What a dump lists for declarations, counted from `index` on. -/
def Decl.entries (index : Nat) : List Decl → List Listing.Entry
  | [] => []
  | d :: ds => .mk (itemLabel "decl" index ++ d.headline) d.beneath :: Decl.entries (index + 1) ds

/-- What a dump lists for statements, counted from `index` on. -/
def Stmt.entries (index : Nat) : List Stmt → List Listing.Entry
  | [] => []
  | st :: sts =>
    .mk (itemLabel "stmt" index ++ st.kind.heading) st.beneath :: Stmt.entries (index + 1) sts

end

/-- What a dump lists for a declaration. -/
def Decl.entry (label : String) (d : Decl) : Listing.Entry := .mk (label ++ d.headline) d.beneath

/-- What a dump lists for a statement. -/
def Stmt.entry (label : String) (st : Stmt) : Listing.Entry :=
  .mk (label ++ st.kind.heading) st.beneath

/-- What a dump lists for a program. -/
def Program.entry (T : Program) : Listing.Entry := .mk ("" ++ "Program") (Decl.entries 0 T.decls)

/-! ## Lines -/

section

variable {d deeper : Nat} {label text : String} {below : List Listing.Entry} {lines : List String}

/-- A line and the lines below it. -/
theorem lists_line (isLabel : IsTitle label) (isText : IsTitle text) (step : d < deeper)
    (inner : Lists deeper below lines) :
    Lists d [.mk (label ++ text) below] (dumpLine d label text :: lines) := by
  have line := Lists.cons (isLabel.append isText) step inner .nil
  rwa [← String.append_assoc, List.append_nil] at line

theorem lists_leaf (isLabel : IsTitle label) (isText : IsTitle text) :
    Lists d [.mk (label ++ text) []] [dumpLine d label text] :=
  lists_line isLabel isText d.lt_succ_self .nil

end

instance (text : String) : Decidable (IsTitle text) :=
  decidable_of_iff (text.toList.head? ≠ some ' ' ∧ '\n' ∉ text.toList)
    ⟨fun h => ⟨h.1, h.2⟩, fun h => ⟨h.1, h.2⟩⟩

theorem isTitle_decimalNat (n : Nat) : IsTitle (Text.decimalNat n) := by
  have digits : ∀ c ∈ (Text.decimalNat n).toList, c.isDigit = true := by
    rw [Text.decimalNat, String.toList_ofList]
    exact fun c => Nat.isDigit_of_mem_toDigits (by decide) (by decide)
  exact ⟨fun first => absurd (digits ' ' (List.mem_of_head? first)) (by decide),
    fun mem => absurd (digits '\n' mem) (by decide)⟩

theorem isTitle_itemLabel {list : String} (h : IsTitle list) (index : Nat) :
    IsTitle (itemLabel list index) :=
  ((h.append (by decide)).append (isTitle_decimalNat index)).append (by decide)

namespace Expr

/-- The words of an expression do not go over the end of the line. -/
theorem isTitle_headline {e : Expr} (h : e.WellFormed) : IsTitle e.headline := by
  refine Minim.isTitle_headline fun text mem => ?_
  cases e with
  | int | string =>
    cases mem
    exact Legal.newline_notMem h
  | ident name =>
    cases mem
    have legal : Legal (.identifier, name.value) := h
    exact legal.newline_notMem
  | bool pos value =>
    cases mem
    cases value <;> decide
  | unary pos op operand =>
    cases mem
    obtain ⟨rfl | rfl, -⟩ := h <;> decide
  | binary pos left op right =>
    cases mem
    obtain ⟨⟨n, kind, -, rfl⟩, -⟩ := h
    exact fun inside => absurd (isBlank_of_mem_spelling inside) (by decide)
  | dot | assign | call => cases mem

mutual

/-- The lines of an expression list its entry. -/
theorem lists_dump {e : Expr} (h : e.WellFormed) (d : Nat) {label : String}
    (isLabel : IsTitle label) : Lists d [e.entry label] (e.dump none d label) := by
  have isTitle := isTitle_headline h
  cases e with
  | int | string | ident => exact lists_leaf isLabel isTitle
  | bool pos value => cases value <;> exact lists_leaf isLabel isTitle
  | dot pos base field =>
    obtain ⟨-, base_h, field_h⟩ := h
    refine lists_line isLabel isTitle (by omega : d < d + 2) ?_
    exact (lists_dump base_h (d + 2) (by decide)).append
      (lists_leaf (by decide) (isTitle_headline (e := .ident field) field_h))
  | assign pos target value =>
    obtain ⟨-, target_h, value_h⟩ := h
    refine lists_line isLabel isTitle (by omega : d < d + 2) ?_
    exact (lists_dump target_h (d + 2) (by decide)).append
      (lists_dump value_h (d + 2) (by decide))
  | call pos callee argsPos args =>
    obtain ⟨callee_h, args_h⟩ := h
    refine lists_line isLabel isTitle (by omega : d < d + 2) ?_
    exact lists_line (by decide) (isTitle_headline (e := .ident callee) callee_h)
      (by omega : d + 2 < d + 4) (lists_dumpItems args_h (d + 4) 0)
  | unary pos op operand =>
    obtain ⟨-, operand_h⟩ := h
    refine lists_line isLabel isTitle (by omega : d < d + 2) ?_
    exact lists_dump operand_h (d + 2) (by decide)
  | binary pos left op right =>
    obtain ⟨-, left_h, right_h⟩ := h
    refine lists_line isLabel isTitle (by omega : d < d + 2) ?_
    exact (lists_dump left_h (d + 2) (by decide)).append (lists_dump right_h (d + 2) (by decide))

/-- The lines of arguments list their entries. -/
theorem lists_dumpItems {es : List Expr} (h : AllWellFormed es) (d index : Nat) :
    Lists d (entries index es) (dumpItems none d "arg" index es) := by
  cases es with
  | nil => exact .nil
  | cons e es =>
    exact (lists_dump h.1 d (isTitle_itemLabel (by decide) index)).append
      (lists_dumpItems h.2 d (index + 1))

end

end Expr

namespace Decl

/-- The names and types of a declaration do not go over the end of the line. -/
theorem isTitle_headline {v : Decl} (h : v.WellFormed) : IsTitle v.headline := by
  refine Minim.isTitle_headline fun text mem => ?_
  cases mem
  cases v with
  | var pos type name => exact notMem_typedName h.2 h.1 '\n' (by decide)
  | func pos returnType name formals bodyPos body =>
    obtain ⟨type_h, name_h, formals_h, -⟩ := h
    have inName := name_h.notMem '\n' (by decide)
    have inType := type_h.notMem '\n' (by decide)
    have inSummary := Formals.newline_notMem_summary formals_h
    simp [detail, inName, inType, inSummary]
  | struct pos name fieldsPos fields => exact h.1.notMem '\n' (by decide)

theorem wellFormed_of_isVariable {v : Decl} (h : v.IsVariable) : v.WellFormed := by
  cases v with
  | var => exact h
  | func | struct => exact h.elim

theorem lists_dump_of_isVariable {v : Decl} (h : v.IsVariable) (d : Nat) {label : String}
    (isLabel : IsTitle label) : Lists d [v.entry label] (v.dump none d label) := by
  have isTitle := isTitle_headline (wellFormed_of_isVariable h)
  cases v with
  | var => exact lists_leaf isLabel isTitle
  | func | struct => exact h.elim

/-- The lines of declarations list their entries, if those of each of them list its entry. -/
theorem lists_dumpItems {ds : List Decl} (each : ∀ v ∈ ds, ∀ (d : Nat) {label : String},
      IsTitle label → Lists d [v.entry label] (v.dump none d label)) (d index : Nat) :
    Lists d (entries index ds) (dumpItems none d index ds) := by
  induction ds generalizing index with
  | nil => exact .nil
  | cons v ds ih =>
    obtain ⟨first, others⟩ := List.forall_mem_cons.mp each
    exact (first d (isTitle_itemLabel (by decide) index)).append (ih others (index + 1))

end Decl

mutual

/-- The lines of a statement list its entry. -/
theorem Stmt.lists_dump {st : Stmt} (h : st.WellFormed) (d : Nat) {label : String}
    (isLabel : IsTitle label) : Lists d [st.entry label] (st.dump none d label) := by
  have isTitle := st.kind.isTitle_heading
  cases st with
  | assign pos assignment =>
    exact lists_line isLabel isTitle (by omega : d < d + 2)
      (Expr.lists_dump h (d + 2) (by decide))
  | increment pos e | decrement pos e | read pos e =>
    exact lists_line isLabel isTitle (by omega : d < d + 2)
      (Expr.lists_dump h.2 (d + 2) (by decide))
  | write pos e =>
    exact lists_line isLabel isTitle (by omega : d < d + 2)
      (Expr.lists_dump h (d + 2) (by decide))
  | ifThen pos cond body | loop pos cond body =>
    refine lists_line isLabel isTitle (by omega : d < d + 4) ?_
    exact (Expr.lists_dump h.1 (d + 4) (by decide)).append
      (Block.lists_dump h.2 (d + 4) (by decide) (by decide))
  | ifElse pos cond yes no =>
    refine lists_line isLabel isTitle (by omega : d < d + 4) ?_
    exact ((Expr.lists_dump h.1 (d + 4) (by decide)).append
      (Block.lists_dump h.2.1 (d + 4) (by decide) (by decide))).append
        (Block.lists_dump h.2.2 (d + 4) (by decide) (by decide))
  | call pos call =>
    exact lists_line isLabel isTitle (by omega : d < d + 2)
      (Expr.lists_dump h (d + 2) (by decide))
  | ret pos value =>
    cases value with
    | none => exact lists_leaf isLabel isTitle
    | some value =>
      exact lists_line isLabel isTitle (by omega : d < d + 2)
        (Expr.lists_dump (h value rfl) (d + 2) (by decide))

/-- The lines of a block list its entries. -/
theorem Block.lists_dump {b : Block} (h : b.WellFormed) (d : Nat) {declsLabel stmtsLabel : String}
    (isDeclsLabel : IsTitle declsLabel) (isStmtsLabel : IsTitle stmtsLabel) :
    Lists d (b.entries declsLabel stmtsLabel) (b.dump none d declsLabel stmtsLabel) := by
  obtain ⟨declsPos, decls, stmtsPos, stmts⟩ := b
  have declItems := Decl.lists_dumpItems
    (fun v mem => Decl.lists_dump_of_isVariable (h.1 v mem)) (d + 4) 0
  have stmtItems := Stmt.lists_dumpItems h.2 (d + 4) 0
  exact (lists_line isDeclsLabel (by decide) (by omega : d < d + 4) declItems).append
    (lists_line isStmtsLabel (by decide) (by omega : d < d + 4) stmtItems)

/-- The lines of statements list their entries. -/
theorem Stmt.lists_dumpItems {sts : List Stmt} (h : Stmt.AllWellFormed sts) (d index : Nat) :
    Lists d (Stmt.entries index sts) (Stmt.dumpItems none d index sts) := by
  cases sts with
  | nil => exact .nil
  | cons st sts =>
    exact (Stmt.lists_dump h.1 d (isTitle_itemLabel (by decide) index)).append
      (Stmt.lists_dumpItems h.2 d (index + 1))

end

/-- The lines of a declaration list its entry. -/
theorem Decl.lists_dump {v : Decl} (h : v.WellFormed) (d : Nat) {label : String}
    (isLabel : IsTitle label) : Lists d [v.entry label] (v.dump none d label) := by
  have isTitle := Decl.isTitle_headline h
  cases v with
  | var => exact lists_leaf isLabel isTitle
  | func pos returnType name formals bodyPos body =>
    rw [Decl.entry, Decl.headline_func] at *
    refine lists_line isLabel isTitle (by omega : d < d + 4) ?_
    exact lists_line (by decide) (by decide) (by omega : d + 4 < d + 8)
      (Block.lists_dump h.2.2.2 (d + 8) (by decide) (by decide))
  | struct pos name fieldsPos fields =>
    refine lists_line isLabel isTitle (by omega : d < d + 4) ?_
    exact lists_line (by decide) (by decide) (by omega : d + 4 < d + 8)
      (Decl.lists_dumpItems (fun v mem => Decl.lists_dump_of_isVariable (h.2 v mem)) (d + 8) 0)

/-- The dump of a well-formed program is read as its entry. -/
theorem Program.readText_dumpText {T : Program} (h : T.WellFormed) :
    readText ((Node.program T).dumpText none 0 "") = [T.entry] := by
  have items := Decl.lists_dumpItems (fun v mem => Decl.lists_dump (h v mem)) 4 0
  have lists : Lists 0 [T.entry] (T.dump none 0 "") :=
    lists_line (by decide) (by decide) (by decide : 0 < 4) items
  exact lists.readText_eq (List.cons_ne_nil _ _)

/-! ## Trees from entries -/

theorem labelled_inj {label text text' : String} {below below' : List Listing.Entry} :
    Listing.Entry.mk (label ++ text) below = .mk (label ++ text') below' ↔
      text = text' ∧ below = below' := by
  rw [Listing.Entry.mk.injEq, String.append_right_inj]

namespace Expr

theorem heading_ne_type (e : Expr) : e.kind.heading ≠ "Type" := by
  cases e <;> simp [kind, NodeKind.heading]

theorem unary_text {pos : Position} {op : TokenValue} {operand : Expr}
    (h : (unary pos op operand).WellFormed) : ∃ w, op = .text w := by
  obtain ⟨rfl | rfl, -⟩ := h <;> exact ⟨_, rfl⟩

theorem binary_text {pos : Position} {left : Expr} {op : TokenValue} {right : Expr}
    (h : (binary pos left op right).WellFormed) : ∃ w, op = .text w := by
  obtain ⟨⟨n, kind, -, rfl⟩, -⟩ := h
  exact ⟨_, rfl⟩

end Expr

theorem Ident.erase_eq_of_headline {name name' : Ident} (h : name.WellFormed)
    (h' : name'.WellFormed) (same : (Expr.ident name).headline = (Expr.ident name').headline) :
    name.erase = name'.erase :=
  have details := (headline_inj (Expr.ident name).heading_ne_type same).2
  Ident.erase_eq_of_name h h' (Option.some.inj details)

namespace Expr

mutual

/-- An expression can be told from its entry. -/
theorem erase_eq_of_entry {e e' : Expr} {label : String} (h : e.WellFormed) (h' : e'.WellFormed)
    (same : e.entry label = e'.entry label) : e.erase = e'.erase := by
  obtain ⟨headlines, beneaths⟩ := labelled_inj.mp same
  obtain ⟨kinds, details⟩ := headline_inj e.heading_ne_type headlines
  -- the headlines leave the pairs of one kind, and of these the details and the parts are compared
  cases e <;> cases e' <;> try cases kinds
  case int.int pos value pos' value' | string.string pos value pos' value' =>
    rw [erase, erase, Legal.word_inj h h' (Option.some.inj details)]
  case bool.bool pos value pos' value' =>
    cases value <;> cases value' <;> simp_all [detail, erase]
  case ident.ident name name' =>
    rw [erase, erase, Ident.erase_eq_of_name h h' (Option.some.inj details)]
  case dot.dot pos base field pos' base' field' =>
    obtain ⟨bases, rest⟩ := List.cons.inj beneaths
    obtain ⟨fields, -⟩ := labelled_inj.mp (List.cons.inj rest).1
    rw [erase, erase, erase_eq_of_entry h.2.1 h'.2.1 bases,
      Ident.erase_eq_of_headline h.2.2 h'.2.2 fields]
  case assign.assign pos target value pos' target' value' =>
    obtain ⟨targets, values⟩ := List.cons.inj beneaths
    rw [erase, erase, erase_eq_of_entry h.2.1 h'.2.1 targets,
      erase_eq_of_entry h.2.2 h'.2.2 (List.cons.inj values).1]
  case call.call pos callee argsPos args pos' callee' argsPos' args' =>
    obtain ⟨callees, lists⟩ := labelled_inj.mp (List.cons.inj beneaths).1
    rw [erase, erase, Ident.erase_eq_of_headline h.1 h'.1 callees,
      eraseAll_eq_of_entries h.2 h'.2 lists]
  case unary.unary pos op operand pos' op' operand' =>
    obtain ⟨w, rfl⟩ := unary_text h
    obtain ⟨w', rfl⟩ := unary_text h'
    obtain rfl : w = w' := Option.some.inj details
    rw [erase, erase, erase_eq_of_entry h.2 h'.2 (List.cons.inj beneaths).1]
  case binary.binary pos left op right pos' left' op' right' =>
    obtain ⟨w, rfl⟩ := binary_text h
    obtain ⟨w', rfl⟩ := binary_text h'
    obtain rfl : w = w' := Option.some.inj details
    obtain ⟨lefts, rights⟩ := List.cons.inj beneaths
    rw [erase, erase, erase_eq_of_entry h.2.1 h'.2.1 lefts,
      erase_eq_of_entry h.2.2 h'.2.2 (List.cons.inj rights).1]

/-- Arguments can be told from their entries. -/
theorem eraseAll_eq_of_entries {es es' : List Expr} {index : Nat} (h : AllWellFormed es)
    (h' : AllWellFormed es') (same : entries index es = entries index es') :
    eraseAll es = eraseAll es' := by
  cases es <;> cases es' <;> try cases same
  case nil.nil => rfl
  case cons.cons e es e' es' =>
    obtain ⟨firsts, rest⟩ := List.cons.inj same
    rw [eraseAll, eraseAll, erase_eq_of_entry h.1 h'.1 firsts, eraseAll_eq_of_entries h.2 h'.2 rest]

end

end Expr

theorem Assignment.erase_eq_of_expr {a a' : Assignment} (same : a.expr.erase = a'.expr.erase) :
    a.erase = a'.erase := by
  simp only [Assignment.expr, Expr.erase, Expr.assign.injEq] at same
  rw [Assignment.erase, Assignment.erase, same.2.1, same.2.2]

theorem Call.erase_eq_of_expr {c c' : Call} (same : c.expr.erase = c'.expr.erase) :
    c.erase = c'.erase := by
  simp only [Call.expr, Expr.erase, Expr.call.injEq] at same
  rw [Call.erase, Call.erase, same.2.1, same.2.2.2]

namespace Decl

theorem heading_ne_type (v : Decl) : v.kind.heading ≠ "Type" := by
  cases v <;> simp [kind, NodeKind.heading]

theorem erase_eq_of_isVariable {v v' : Decl} {label : String} (h : v.IsVariable)
    (h' : v'.IsVariable) (same : v.entry label = v'.entry label) : v.erase = v'.erase := by
  have details := (headline_inj v.heading_ne_type (labelled_inj.mp same).1).2
  cases v <;> cases v'
  case var.var pos type name pos' type' name' =>
    obtain ⟨names, types⟩ := erase_eq_of_typedName h.2 h'.2 h.1 h'.1 (Option.some.inj details)
    rw [erase, erase, names, types]
  all_goals simp_all [IsVariable]

/-- Declarations can be told from their entries, if each of them can be told from its entry. -/
theorem eraseAll_eq_of_entries {ds ds' : List Decl} {index : Nat}
    (each : ∀ v ∈ ds, ∀ v' ∈ ds', ∀ {label : String}, v.entry label = v'.entry label →
      v.erase = v'.erase) (same : entries index ds = entries index ds') :
    eraseAll ds = eraseAll ds' := by
  induction ds generalizing ds' index with
  | nil =>
    cases ds' with
    | nil => rfl
    | cons v' ds' => cases same
  | cons v ds ih =>
    cases ds' with
    | nil => cases same
    | cons v' ds' =>
      obtain ⟨firsts, rest⟩ := List.cons.inj same
      have first := each v (List.mem_cons_self ..) v' (List.mem_cons_self ..) firsts
      have others := ih (fun w mem w' mem' =>
        each w (List.mem_cons_of_mem v mem) w' (List.mem_cons_of_mem v' mem')) rest
      rw [eraseAll, eraseAll, first, others]

end Decl

theorem Block.length_entries (b : Block) {declsLabel stmtsLabel : String} :
    (b.entries declsLabel stmtsLabel).length = 2 := by
  cases b
  rfl

theorem Stmt.heading_ne_type (st : Stmt) : st.kind.heading ≠ "Type" := by
  cases st <;> simp [Stmt.kind, NodeKind.heading]

mutual

/-- A statement can be told from its entry. -/
theorem Stmt.erase_eq_of_entry {st st' : Stmt} {label : String} (h : st.WellFormed)
    (h' : st'.WellFormed) (same : st.entry label = st'.entry label) : st.erase = st'.erase := by
  obtain ⟨headings, beneaths⟩ := labelled_inj.mp same
  have kinds := NodeKind.heading_inj st.heading_ne_type headings
  cases st <;> cases st' <;> try cases kinds
  case assign.assign pos a pos' a' =>
    have exprs := Expr.erase_eq_of_entry h h' (List.cons.inj beneaths).1
    rw [Stmt.erase, Stmt.erase, Assignment.erase_eq_of_expr exprs]
  case increment.increment pos e pos' e' | decrement.decrement pos e pos' e' |
      read.read pos e pos' e' =>
    rw [Stmt.erase, Stmt.erase, Expr.erase_eq_of_entry h.2 h'.2 (List.cons.inj beneaths).1]
  case write.write pos e pos' e' =>
    rw [Stmt.erase, Stmt.erase, Expr.erase_eq_of_entry h h' (List.cons.inj beneaths).1]
  case ifThen.ifThen pos cond body pos' cond' body' | loop.loop pos cond body pos' cond' body' =>
    obtain ⟨conds, bodies⟩ := List.cons.inj beneaths
    rw [Stmt.erase, Stmt.erase, Expr.erase_eq_of_entry h.1 h'.1 conds,
      Block.erase_eq_of_entries h.2 h'.2 bodies]
  case ifElse.ifElse pos cond yes no pos' cond' yes' no' =>
    obtain ⟨conds, blocks⟩ := List.cons.inj beneaths
    obtain ⟨yeses, noes⟩ :=
      List.append_inj blocks (yes.length_entries.trans yes'.length_entries.symm)
    rw [Stmt.erase, Stmt.erase, Expr.erase_eq_of_entry h.1 h'.1 conds,
      Block.erase_eq_of_entries h.2.1 h'.2.1 yeses, Block.erase_eq_of_entries h.2.2 h'.2.2 noes]
  case call.call pos c pos' c' =>
    have exprs := Expr.erase_eq_of_entry h h' (List.cons.inj beneaths).1
    rw [Stmt.erase, Stmt.erase, Call.erase_eq_of_expr exprs]
  case ret.ret pos value pos' value' =>
    cases value <;> cases value' <;> try cases beneaths
    case none.none => rfl
    case some.some e e' =>
      rw [Stmt.erase, Stmt.erase, Option.map_some, Option.map_some,
        Expr.erase_eq_of_entry (h e rfl) (h' e' rfl) (List.cons.inj beneaths).1]

/-- A block can be told from its entries. -/
theorem Block.erase_eq_of_entries {b b' : Block} {declsLabel stmtsLabel : String}
    (h : b.WellFormed) (h' : b'.WellFormed)
    (same : b.entries declsLabel stmtsLabel = b'.entries declsLabel stmtsLabel) :
    b.erase = b'.erase := by
  obtain ⟨declsPos, decls, stmtsPos, stmts⟩ := b
  obtain ⟨declsPos', decls', stmtsPos', stmts'⟩ := b'
  simp only [Block.entries, List.cons.injEq, Listing.Entry.mk.injEq, true_and, and_true] at same
  have declsErased := Decl.eraseAll_eq_of_entries
    (fun v mem v' mem' => Decl.erase_eq_of_isVariable (h.1 v mem) (h'.1 v' mem')) same.1
  rw [Block.erase, Block.erase, declsErased, Stmt.eraseAll_eq_of_entries h.2 h'.2 same.2]

/-- Statements can be told from their entries. -/
theorem Stmt.eraseAll_eq_of_entries {sts sts' : List Stmt} {index : Nat}
    (h : Stmt.AllWellFormed sts) (h' : Stmt.AllWellFormed sts')
    (same : Stmt.entries index sts = Stmt.entries index sts') :
    Stmt.eraseAll sts = Stmt.eraseAll sts' := by
  cases sts <;> cases sts' <;> try cases same
  case nil.nil => rfl
  case cons.cons st sts st' sts' =>
    obtain ⟨firsts, rest⟩ := List.cons.inj same
    rw [Stmt.eraseAll, Stmt.eraseAll, Stmt.erase_eq_of_entry h.1 h'.1 firsts,
      Stmt.eraseAll_eq_of_entries h.2 h'.2 rest]

end

/-- A declaration can be told from its entry. -/
theorem Decl.erase_eq_of_entry {v v' : Decl} {label : String} (h : v.WellFormed)
    (h' : v'.WellFormed) (same : v.entry label = v'.entry label) : v.erase = v'.erase := by
  obtain ⟨headlines, beneaths⟩ := labelled_inj.mp same
  obtain ⟨kinds, details⟩ := headline_inj v.heading_ne_type headlines
  cases v <;> cases v' <;> try cases kinds
  case var.var => exact Decl.erase_eq_of_isVariable h h' same
  case func.func pos type name formals bodyPos body pos' type' name' formals' bodyPos' body' =>
    obtain ⟨type_h, name_h, formals_h, body_h⟩ := h
    obtain ⟨type_h', name_h', formals_h', body_h'⟩ := h'
    -- the name ends at the first blank of the headline, and the type after it at the first comma
    have text := Option.some.inj details
    simp only [Decl.detail, String.append_assoc] at text
    obtain ⟨names, text⟩ := append_inj_of_stop (name_h.notMem ' ' (by decide))
      (name_h'.notMem ' ' (by decide)) (by simp) (by simp) text
    rw [String.append_right_inj] at text
    obtain ⟨types, text⟩ := append_inj_of_stop (type_h.notMem ',' (by decide))
      (type_h'.notMem ',' (by decide)) (by simp) (by simp) text
    rw [String.append_right_inj, String.append_left_inj] at text
    have bodies := (labelled_inj.mp (List.cons.inj beneaths).1).2
    rw [Decl.erase, Decl.erase, Ident.erase_eq_of_name name_h name_h' names,
      TypeExpr.erase_eq_of_source type_h type_h' types,
      Formals.erase_eq_of_summary formals_h formals_h' text,
      Block.erase_eq_of_entries body_h body_h' bodies]
  case struct.struct pos name fieldsPos fields pos' name' fieldsPos' fields' =>
    have names := Ident.erase_eq_of_name h.1 h'.1 (Option.some.inj details)
    have fieldsErased := Decl.eraseAll_eq_of_entries
      (fun f mem f' mem' => Decl.erase_eq_of_isVariable (h.2 f mem) (h'.2 f' mem'))
      (labelled_inj.mp (List.cons.inj beneaths).1).2
    rw [Decl.erase, Decl.erase, names, fieldsErased]

/-- A program can be told from its entry. -/
theorem Program.erase_eq_of_entry {T T' : Program} (h : T.WellFormed) (h' : T'.WellFormed)
    (same : T.entry = T'.entry) : T.erase = T'.erase := by
  have declsErased := Decl.eraseAll_eq_of_entries
    (fun v mem v' mem' => Decl.erase_eq_of_entry (h v mem) (h' v' mem')) (labelled_inj.mp same).2
  rw [Program.erase, Program.erase, declsErased]

/-! ## Dumps show structure only -/

theorem typedName_erase (name : Ident) (type : TypeExpr) :
    typedName name.erase type.erase = typedName name type := by
  rw [typedName, typedName, type.source_erase]
  rfl

theorem Formals.summary_erase (fs : Formals) : fs.erase.summary = fs.summary := by
  rw [summary, summary, erase, List.map_map]
  exact congrArg _ (List.map_congr_left fun f _ => typedName_erase f.name f.type)

mutual

theorem Expr.dump_erase (e : Expr) (indent : Int) (label : String) :
    e.erase.dump none indent label = e.dump none indent label := by
  cases e with
  | int | string | bool | ident => rfl
  | dot pos base field =>
    rw [Expr.erase, Expr.dump, Expr.dump, base.dump_erase]
    rfl
  | assign pos target value =>
    rw [Expr.erase, Expr.dump, Expr.dump, target.dump_erase, value.dump_erase]
  | call pos callee argsPos args =>
    rw [Expr.erase, Expr.dump, Expr.dump, Expr.dumpItems_erase args]
    rfl
  | unary pos op operand => rw [Expr.erase, Expr.dump, Expr.dump, operand.dump_erase]
  | binary pos left op right =>
    rw [Expr.erase, Expr.dump, Expr.dump, left.dump_erase, right.dump_erase]

theorem Expr.dumpItems_erase (es : List Expr) (indent : Int) (list : String) (index : Nat) :
    Expr.dumpItems none indent list index (Expr.eraseAll es) =
      Expr.dumpItems none indent list index es := by
  cases es with
  | nil => rfl
  | cons e es =>
    rw [Expr.eraseAll, Expr.dumpItems, Expr.dumpItems, e.dump_erase, Expr.dumpItems_erase es]

end

mutual

theorem Decl.dump_erase (v : Decl) (indent : Int) (label : String) :
    v.erase.dump none indent label = v.dump none indent label := by
  cases v with
  | var pos type name => rw [Decl.erase, Decl.dump, Decl.dump, typedName_erase]
  | func pos returnType name formals bodyPos body =>
    rw [Decl.erase, Decl.dump, Decl.dump, returnType.source_erase, formals.summary_erase,
      body.dump_erase]
    rfl
  | struct pos name fieldsPos fields =>
    rw [Decl.erase, Decl.dump, Decl.dump, Decl.dumpItems_erase fields]
    rfl

theorem Stmt.dump_erase (st : Stmt) (indent : Int) (label : String) :
    st.erase.dump none indent label = st.dump none indent label := by
  cases st with
  | assign pos assignment =>
    rw [Stmt.erase, Stmt.dump, Stmt.dump, ← assignment.expr.dump_erase]
    rfl
  | increment pos e | decrement pos e | read pos e | write pos e =>
    rw [Stmt.erase, Stmt.dump, Stmt.dump, e.dump_erase]
  | ifThen pos cond body | loop pos cond body =>
    rw [Stmt.erase, Stmt.dump, Stmt.dump, cond.dump_erase, body.dump_erase]
  | ifElse pos cond yes no =>
    rw [Stmt.erase, Stmt.dump, Stmt.dump, cond.dump_erase, yes.dump_erase, no.dump_erase]
  | call pos call =>
    rw [Stmt.erase, Stmt.dump, Stmt.dump, ← call.expr.dump_erase]
    rfl
  | ret pos value =>
    cases value with
    | none => rfl
    | some e => rw [Stmt.erase, Option.map_some, Stmt.dump, Stmt.dump, e.dump_erase]

theorem Block.dump_erase (b : Block) (indent : Int) (declsLabel stmtsLabel : String) :
    b.erase.dump none indent declsLabel stmtsLabel = b.dump none indent declsLabel stmtsLabel := by
  obtain ⟨declsPos, decls, stmtsPos, stmts⟩ := b
  rw [Block.erase, Block.dump, Block.dump, Decl.dumpItems_erase decls, Stmt.dumpItems_erase stmts]

theorem Decl.dumpItems_erase (ds : List Decl) (indent : Int) (index : Nat) :
    Decl.dumpItems none indent index (Decl.eraseAll ds) = Decl.dumpItems none indent index ds := by
  cases ds with
  | nil => rfl
  | cons v ds =>
    rw [Decl.eraseAll, Decl.dumpItems, Decl.dumpItems, v.dump_erase, Decl.dumpItems_erase ds]

theorem Stmt.dumpItems_erase (sts : List Stmt) (indent : Int) (index : Nat) :
    Stmt.dumpItems none indent index (Stmt.eraseAll sts) =
      Stmt.dumpItems none indent index sts := by
  cases sts with
  | nil => rfl
  | cons st sts =>
    rw [Stmt.eraseAll, Stmt.dumpItems, Stmt.dumpItems, st.dump_erase, Stmt.dumpItems_erase sts]

end

theorem Program.dumpText_erase (T : Program) (indent : Int) (label : String) :
    (Node.program T.erase).dumpText none indent label =
      (Node.program T).dumpText none indent label := by
  rw [Node.dumpText, Node.dumpText, Node.dump, Node.dump, Program.dump, Program.dump,
    Program.erase, Decl.dumpItems_erase]

/-- **A dump determines the program.** Two programs that are read from texts have the same dump if
and only if they have the same structure. -/
theorem dump_determines_program {text text' : String} {T T' : Program}
    (run : parseText text = .ok T) (run' : parseText text' = .ok T') :
    (Node.program T).dumpText none 0 "" = (Node.program T').dumpText none 0 "" ↔
      T.erase = T'.erase := by
  have formed := wellFormed_of_parseText run
  have formed' := wellFormed_of_parseText run'
  constructor
  · intro sameDump
    have entries := (Program.readText_dumpText formed).symm.trans
      ((congrArg readText sameDump).trans (Program.readText_dumpText formed'))
    exact Program.erase_eq_of_entry formed formed' (List.cons.inj entries).1
  · intro sameStructure
    rw [← T.dumpText_erase, sameStructure, T'.dumpText_erase]

/-- Two variables, the second of them declared at a given position. -/
def twoVariables (line column : Int) : Program where
  pos := ⟨1, 1⟩
  declsPos := ⟨1, 1⟩
  decls :=
    [.var ⟨1, 1⟩ (.int ⟨1, 1⟩) { pos := ⟨1, 5⟩, value := .text "n" },
      .var ⟨line, column⟩ (.bool ⟨line, column⟩) { pos := ⟨line, column + 5⟩, value := .text "b" }]

/-- The two variables in one line. -/
def oneLineText : String := "int n; bool b;"

/-- The two variables in two lines. -/
def twoLineText : String := "int n;\nbool b;"

theorem parseText_oneLineText : parseText oneLineText = .ok (twoVariables 1 8) := by
  decide +kernel

theorem parseText_twoLineText : parseText twoLineText = .ok (twoVariables 2 1) := by
  decide +kernel

/-- The dump does not show how the declarations are laid out. -/
theorem dump_determines_program_of_twoVariables :
    parseText oneLineText = .ok (twoVariables 1 8) ∧
      parseText twoLineText = .ok (twoVariables 2 1) ∧
      (Node.program (twoVariables 1 8)).dumpText none 0 "" =
        (Node.program (twoVariables 2 1)).dumpText none 0 "" := by
  have same : (twoVariables 1 8).erase = (twoVariables 2 1).erase := by
    simp [twoVariables, Program.erase, Decl.eraseAll, Decl.erase, TypeExpr.erase, Ident.erase]
  exact ⟨parseText_oneLineText, parseText_twoLineText,
    (dump_determines_program parseText_oneLineText parseText_twoLineText).mpr same⟩

end Minim
