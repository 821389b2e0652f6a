import Minim.Proofs.Syntax.Listings
import Minim.Proofs.Syntax.Source
import Minim.Proofs.Token.Respelling
import Minim.Syntax.Dump
import Minim.Syntax.Node

/-!
# Headlines

The first line that a dump has for a node says of which kind the node is and, in parentheses, which
words it is made of. Kinds and words can be told from the line: no word for a kind has a parenthesis
in it, and the marks between names and types are in no name and no type.
-/

namespace Minim

open Lexeme
open Listing (IsTitle span_of_stop)

/-! ## Texts in parts -/

/-- Where a part of a text ends at a character that is not in it, the text determines the part. -/
theorem append_inj_of_stop {c : Char} {a a' b b' : String} (notMem : c ∉ a.toList)
    (notMem' : c ∉ a'.toList) (stop : ∀ d, b.toList.head? = some d → d = c)
    (stop' : ∀ d, b'.toList.head? = some d → d = c) (same : a ++ b = a' ++ b') :
    a = a' ∧ b = b' := by
  have before {a b : String} (notMem : c ∉ a.toList)
      (stop : ∀ d, b.toList.head? = some d → d = c) :
      (a ++ b).toList.takeWhile (· != c) = a.toList := by
    rw [String.toList_append]
    refine (span_of_stop (fun d mem => ?_) fun d first => ?_).1
    · exact bne_iff_ne.mpr (ne_of_mem_of_not_mem mem notMem)
    · rw [stop d first, bne_self_eq_false]
  have firsts : a = a' := by
    rw [← String.toList_inj, ← before notMem stop, same, before notMem' stop']
  rw [firsts, String.append_right_inj] at same
  exact ⟨firsts, same⟩

/-- What stands behind the first of several texts with commas between them. -/
def afterFirst : List String → String
  | [] => ""
  | x :: xs => ", " ++ ", ".intercalate (x :: xs)

theorem intercalate_cons (x : String) (xs : List String) :
    ", ".intercalate (x :: xs) = x ++ afterFirst xs := by
  cases xs with
  | nil => rw [String.intercalate_singleton, afterFirst, String.append_empty]
  | cons y ys => rw [String.intercalate_cons_cons, afterFirst, String.append_assoc]

theorem newline_notMem_intercalate {xs : List String} (oneLine : ∀ x ∈ xs, '\n' ∉ x.toList) :
    '\n' ∉ (", ".intercalate xs).toList := by
  induction xs with
  | nil => decide
  | cons x xs ih =>
    obtain ⟨first, others⟩ := List.forall_mem_cons.mp oneLine
    rw [intercalate_cons, String.toList_append, List.mem_append, not_or]
    refine ⟨first, ?_⟩
    cases xs with
    | nil => decide
    | cons y ys => simpa [afterFirst] using ih others

theorem head?_afterFirst (xs : List String) :
    ∀ c, (afterFirst xs).toList.head? = some c → c = ',' := by
  cases xs with
  | nil => simp [afterFirst]
  | cons y ys => simp [afterFirst]

theorem intercalate_eq_of_afterFirst {xs ys : List String} (same : afterFirst xs = afterFirst ys) :
    ", ".intercalate xs = ", ".intercalate ys := by
  cases xs <;> cases ys <;> simp_all [afterFirst]

/-- Texts with commas between them can be told apart, if no text is empty or has a comma. -/
theorem intercalate_inj {xs ys : List String}
    (plain : ∀ x ∈ xs, x ≠ "" ∧ ',' ∉ x.toList) (plain' : ∀ y ∈ ys, y ≠ "" ∧ ',' ∉ y.toList)
    (same : ", ".intercalate xs = ", ".intercalate ys) : xs = ys := by
  induction xs generalizing ys with
  | nil =>
    cases ys with
    | nil => rfl
    | cons y ys =>
      rw [String.intercalate_nil, intercalate_cons, eq_comm, String.append_eq_empty_iff] at same
      exact absurd same.1 (List.forall_mem_cons.mp plain').1.1
  | cons x xs ih =>
    obtain ⟨⟨notEmpty, noComma⟩, others⟩ := List.forall_mem_cons.mp plain
    cases ys with
    | nil =>
      rw [String.intercalate_nil, intercalate_cons, String.append_eq_empty_iff] at same
      exact absurd same.1 notEmpty
    | cons y ys =>
      obtain ⟨⟨-, noComma'⟩, others'⟩ := List.forall_mem_cons.mp plain'
      rw [intercalate_cons, intercalate_cons] at same
      obtain ⟨rfl, rest⟩ :=
        append_inj_of_stop noComma noComma' (head?_afterFirst xs) (head?_afterFirst ys) same
      rw [ih others others' (intercalate_eq_of_afterFirst rest)]

/-! ## Kinds -/

/-- The word for a kind of node. Types have one in common. -/
def NodeKind.heading : NodeKind → String
  | program => "Program"
  | declList => "DeclList"
  | varDecl => "VarDecl"
  | funcDecl => "FunctionDecl"
  | formalDecl => "FormalDecl"
  | structDecl => "StructDecl"
  | formalsList => "Formals"
  | funcBody => "FunctionBody"
  | stmtList => "StmtList"
  | expList => "ExpList"
  | intType | boolType | voidType | structType => "Type"
  | assignStmt => "AssignStatement"
  | postIncStmt => "PostIncrement"
  | postDecStmt => "PostDecrement"
  | readStmt => "Read"
  | writeStmt => "Write"
  | ifStmt => "IfStatement"
  | ifElseStmt => "IfElseStatement"
  | whileStmt => "WhileStatement"
  | callStmt => "CallStatement"
  | returnStmt => "Return"
  | intLiteral => "IntLiteral"
  | stringLiteral => "StringLiteral"
  | boolLiteral => "BoolLiteral"
  | identifier => "Identifier"
  | dotAccess => "DotAccess"
  | assignment => "Assignment"
  | funcCall => "FunctionCall"
  | unaryOp => "UnaryOp"
  | binaryOp => "BinaryOp"

/-- The kind that a word is for; of types none. -/
def NodeKind.ofHeading? (heading : String) : Option NodeKind :=
  (all.filter (·.heading ≠ "Type")).find? (·.heading == heading)

theorem NodeKind.ofHeading?_heading {kind : NodeKind} (untyped : kind.heading ≠ "Type") :
    ofHeading? kind.heading = some kind := by
  revert untyped
  cases kind <;> decide

theorem NodeKind.heading_inj {kind kind' : NodeKind} (untyped : kind.heading ≠ "Type")
    (same : kind.heading = kind'.heading) : kind = kind' := by
  have read := ofHeading?_heading (same ▸ untyped : kind'.heading ≠ "Type")
  rw [← same, ofHeading?_heading untyped] at read
  exact Option.some.inj read

theorem NodeKind.isTitle_heading (kind : NodeKind) : IsTitle kind.heading := by
  constructor <;> cases kind <;> decide

theorem NodeKind.notMem_heading (kind : NodeKind) : '(' ∉ kind.heading.toList := by
  cases kind <;> decide

/-- Words in parentheses, where there are any. -/
def parenthesised : Option String → String
  | none => ""
  | some detail => "(" ++ detail ++ ")"

theorem head?_parenthesised (detail : Option String) :
    ∀ c, (parenthesised detail).toList.head? = some c → c = '(' := by
  cases detail <;> simp [parenthesised]

theorem parenthesised_inj {detail detail' : Option String}
    (same : parenthesised detail = parenthesised detail') : detail = detail' := by
  cases detail <;> cases detail' <;> simp_all [parenthesised]

/-- The first line for a node: its kind and, if there is anything to say, its words. -/
def headline (kind : NodeKind) : Option String → String
  | none => kind.heading
  | some detail => kind.heading ++ "(" ++ detail ++ ")"

theorem headline_eq (kind : NodeKind) (detail : Option String) :
    headline kind detail = kind.heading ++ parenthesised detail := by
  cases detail with
  | none => exact String.append_empty.symm
  | some detail => simp only [headline, parenthesised, String.append_assoc]

/-- A headline tells the kind and the words. -/
theorem headline_inj {kind kind' : NodeKind} {detail detail' : Option String}
    (untyped : kind.heading ≠ "Type") (same : headline kind detail = headline kind' detail') :
    kind = kind' ∧ detail = detail' := by
  rw [headline_eq, headline_eq] at same
  obtain ⟨kinds, details⟩ := append_inj_of_stop kind.notMem_heading kind'.notMem_heading
    (head?_parenthesised detail) (head?_parenthesised detail') same
  exact ⟨NodeKind.heading_inj untyped kinds, parenthesised_inj details⟩

theorem isTitle_headline {kind : NodeKind} {detail : Option String}
    (oneLine : ∀ text ∈ detail, '\n' ∉ text.toList) : IsTitle (headline kind detail) := by
  have isTitle : IsTitle (parenthesised detail) := by
    constructor
    · exact fun first => absurd (head?_parenthesised detail ' ' first) (by decide)
    · cases detail with
      | none => simp [parenthesised]
      | some text => simpa [parenthesised] using oneLine
  rw [headline_eq]
  exact kind.isTitle_heading.append isTitle

/-! ## Words -/

namespace Lexeme

variable {kind : TokenKind} {value value' : TokenValue}

theorem Legal.newline_notMem (h : Legal (kind, value)) : '\n' ∉ value.word.toList := by
  by_cases integer : kind = .integer
  · subst integer
    obtain ⟨n, rfl, hasNumeral⟩ := h
    exact (writtenAs_lexeme (t := ⟨.integer, .number n, {}⟩) ⟨n, rfl, hasNumeral⟩).newline_notMem
  · obtain ⟨w, rfl⟩ := exists_text_of_legal integer h
    exact (writtenAs_lexeme (t := ⟨kind, .text w, {}⟩) h).newline_notMem

/-- Two words of one kind are the same if they are spelled in the same way. -/
theorem Legal.word_inj (h : Legal (kind, value)) (h' : Legal (kind, value'))
    (same : value.word = value'.word) : value = value' := by
  by_cases integer : kind = .integer
  · subst integer
    obtain ⟨n, rfl, -⟩ := h
    obtain ⟨n', rfl, -⟩ := h'
    rw [TokenValue.word, TokenValue.word, Text.decimal_natCast, Text.decimal_natCast,
      Text.decimalNat_inj] at same
    rw [same]
  · obtain ⟨w, rfl⟩ := exists_text_of_legal integer h
    obtain ⟨w', rfl⟩ := exists_text_of_legal integer h'
    exact congrArg TokenValue.text same

end Lexeme

/-! ## Names and types -/

/-- What ends a name in a dump. -/
def nameEnds : List Char := [':', ' ', ',', '\n']

/-- What ends a type in a dump. -/
def typeEnds : List Char := [',', '\n']

theorem Ident.WellFormed.notMem {name : Ident} (h : name.WellFormed) :
    ∀ c ∈ nameEnds, c ∉ name.name.toList := by
  obtain ⟨w, text, isName, -⟩ := h
  have apart : (nameEnds.all fun c => !startsName c && !continuesName c) = true := by
    decide +kernel
  intro c mem
  obtain ⟨starts, continues⟩ : startsName c = false ∧ continuesName c = false := by
    simpa using List.all_eq_true.mp apart c mem
  rw [Ident.name, text]
  exact isName.notMem starts continues

theorem Ident.erase_eq_of_name {name name' : Ident} (h : name.WellFormed) (h' : name'.WellFormed)
    (same : name.name = name'.name) : name.erase = name'.erase := by
  rw [Ident.erase, Ident.erase, Legal.word_inj h h' same]

theorem TypeExpr.WellFormed.notMem {type : TypeExpr} (h : type.WellFormed) :
    ∀ c ∈ typeEnds, c ∉ (type.source none).toList := by
  cases type with
  | struct pos name =>
    intro c mem
    have inWord : ∀ c ∈ typeEnds, c ∈ nameEnds ∧ c ∉ "struct ".toList := by
      simp [typeEnds, nameEnds]
    rw [TypeExpr.source, Ident.source_none, String.toList_append, List.mem_append, not_or]
    exact ⟨(inWord c mem).2, Ident.WellFormed.notMem h c (inWord c mem).1⟩
  | int | bool | void =>
    simp [TypeExpr.source, typeEnds]

/-- A type can be told from its source text. -/
theorem TypeExpr.erase_eq_of_source {type type' : TypeExpr} (h : type.WellFormed)
    (h' : type'.WellFormed) (same : type.source none = type'.source none) :
    type.erase = type'.erase := by
  have first := congrArg (fun text => text.toList.head?) same
  cases type <;> cases type'
  case struct.struct pos name pos' name' =>
    rw [TypeExpr.source, TypeExpr.source, String.append_right_inj, Ident.source_none,
      Ident.source_none] at same
    exact congrArg (TypeExpr.struct {}) (Ident.erase_eq_of_name h h' same)
  case int.int | bool.bool | void.void => rfl
  all_goals simp [TypeExpr.source] at first

section

variable {name name' : Ident} {type type' : TypeExpr}

/-- A name and its type can be told from the text that dumps have for them. -/
theorem erase_eq_of_typedName (name_h : name.WellFormed) (name_h' : name'.WellFormed)
    (type_h : type.WellFormed) (type_h' : type'.WellFormed)
    (same : typedName name type = typedName name' type') :
    name.erase = name'.erase ∧ type.erase = type'.erase := by
  rw [typedName, typedName, String.append_assoc, String.append_assoc] at same
  obtain ⟨names, types⟩ := append_inj_of_stop (name_h.notMem ':' (by decide))
    (name_h'.notMem ':' (by decide)) (by simp) (by simp) same
  rw [String.append_right_inj] at types
  exact ⟨Ident.erase_eq_of_name name_h name_h' names,
    TypeExpr.erase_eq_of_source type_h type_h' types⟩

theorem notMem_typedName (name_h : name.WellFormed) (type_h : type.WellFormed) :
    ∀ c ∈ typeEnds, c ∉ (typedName name type).toList := by
  intro c mem
  have apart : ∀ c ∈ typeEnds, c ∈ nameEnds ∧ c ∉ ": ".toList := by
    simp [typeEnds, nameEnds]
  simp only [typedName, String.toList_append, List.mem_append, not_or]
  exact ⟨⟨name_h.notMem c (apart c mem).1, (apart c mem).2⟩, type_h.notMem c mem⟩

theorem typedName_ne_empty : typedName name type ≠ "" := by
  simp [typedName]

end

/-- The text that dumps have for a formal parameter inside the line of a function. -/
def Formal.summary (f : Formal) : String := typedName f.name f.type

theorem Formal.erase_eq_of_summary {f f' : Formal} (h : f.WellFormed) (h' : f'.WellFormed)
    (same : f.summary = f'.summary) : f.erase = f'.erase := by
  obtain ⟨names, types⟩ := erase_eq_of_typedName h.2 h'.2 h.1 h'.1 same
  rw [Formal.erase, Formal.erase, names, types]

theorem Formal.map_erase_eq_of_summary {fs fs' : List Formal} (h : ∀ f ∈ fs, f.WellFormed)
    (h' : ∀ f ∈ fs', f.WellFormed) (same : fs.map Formal.summary = fs'.map Formal.summary) :
    fs.map Formal.erase = fs'.map Formal.erase := by
  induction fs generalizing fs' with
  | nil => rw [List.map_eq_nil_iff.mp same.symm]
  | cons f fs ih =>
    cases fs' with
    | nil => cases same
    | cons f' fs' =>
      obtain ⟨first, others⟩ := List.forall_mem_cons.mp h
      obtain ⟨first', others'⟩ := List.forall_mem_cons.mp h'
      obtain ⟨firsts, rest⟩ := List.cons.inj same
      rw [List.map_cons, List.map_cons, ih others others' rest,
        Formal.erase_eq_of_summary first first' firsts]

/-- A parameter list can be told from the text that dumps have for it. -/
theorem Formals.erase_eq_of_summary {fs fs' : Formals} (h : ∀ f ∈ fs.items, f.WellFormed)
    (h' : ∀ f ∈ fs'.items, f.WellFormed) (same : fs.summary = fs'.summary) :
    fs.erase = fs'.erase := by
  have plain {fs : Formals} (h : ∀ f ∈ fs.items, f.WellFormed) :
      ∀ text ∈ fs.items.map Formal.summary, text ≠ "" ∧ ',' ∉ text.toList :=
    List.forall_mem_map.mpr fun f mem =>
      ⟨typedName_ne_empty, notMem_typedName (h f mem).2 (h f mem).1 ',' (by decide)⟩
  rw [Formals.erase, Formals.erase,
    Formal.map_erase_eq_of_summary h h' (intercalate_inj (plain h) (plain h') same)]

/-- The text that dumps have for a parameter list does not go over the end of a line. -/
theorem Formals.newline_notMem_summary {fs : Formals} (h : ∀ f ∈ fs.items, f.WellFormed) :
    '\n' ∉ fs.summary.toList := by
  refine newline_notMem_intercalate (List.forall_mem_map.mpr fun f mem => ?_)
  exact notMem_typedName (h f mem).2 (h f mem).1 '\n' (by decide)

end Minim
