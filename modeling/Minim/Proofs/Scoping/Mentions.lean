import Minim.Proofs.Scoping.Sites
import Minim.Proofs.Syntax.Legends

/-!
# What a text refers to

The names in a program that refer to something declared elsewhere: ordinary uses, innermost dot
accesses, and the struct names in the types of variables, formal parameters and fields. Each of them
is met with the declarations that come before it in the scopes around it. A name that stands for a
variable of a struct there was declared where the name of the struct stood for something; so that
name still stands for something where the variable is met.
-/

namespace Minim

open Resolution

/-- What refers to a symbol: an ordinary use of a name, the base and the field of an innermost dot
access, or the struct name in the type of a declared name. -/
inductive Reference
  | use (name : Ident)
  | access (base field : Ident)
  | ofType (structName declared : Ident)

namespace Reference

/-- Look up what is referred to. -/
def resolve : Reference → Resolve Reference
  | use name => do
    let name ← useName name
    return use name
  | access base field => do
    let (base, field) ← base.resolveMember field
    return access base field
  | ofType structName declared => do
    let structName ← useStructName structName declared
    return ofType structName declared

/-- The identifiers that stand in an expression. -/
def used : Reference → List Ident
  | use name => [name]
  | access base field => [base, field]
  | ofType _ _ => []

end Reference

/-- A reference with the declarations before it in the scopes around it, from inside out. -/
structure Mention where
  reference : Reference
  scopes : List (List Declared)

/-- References in the same scopes. -/
def Mention.all (scopes : List (List Declared)) (references : List Reference) : List Mention :=
  references.map (⟨·, scopes⟩)

/-! ## The mentions in a tree -/

/-- The struct name in the type of a declared name. -/
def TypeExpr.references (declared : Ident) : TypeExpr → List Reference
  | .struct _ structName => [.ofType structName declared]
  | _ => []

mutual

/-- The references in an expression. -/
def Expr.references : Expr → List Reference
  | .int _ _ | .string _ _ | .bool _ _ => []
  | .ident name => [.use name]
  | .dot _ base field =>
    match base with
    | .ident name => [.access name field]
    | _ => base.references ++ [.use field]
  | .assign _ target value => target.references ++ value.references
  | .call _ callee _ args => .use callee :: Expr.referencesAll args
  | .unary _ _ operand => operand.references
  | .binary _ left _ right => left.references ++ right.references

/-- The references in expressions. -/
def Expr.referencesAll : List Expr → List Reference
  | [] => []
  | e :: es => e.references ++ Expr.referencesAll es

end

/-- The references in an expression, in scopes. -/
def Expr.mentions (scopes : List (List Declared)) (e : Expr) : List Mention :=
  Mention.all scopes e.references

/-- The struct names in the types of formal parameters, after the ones before in the same scope. -/
def Formal.mentionsAll (earlier : List Declared) (outer : List (List Declared)) :
    List Formal → List Mention
  | [] => []
  | f :: fs =>
    Mention.all (earlier :: outer) (f.type.references f.name) ++
      Formal.mentionsAll (earlier ++ [f.declared]) outer fs

mutual

/-- The mentions in a declaration, after the ones before in the same scope. -/
def Decl.mentions (earlier : List Declared) (outer : List (List Declared)) : Decl → List Mention
  | .var _ type name => Mention.all (earlier :: outer) (type.references name)
  | .func pos returnType name formals bodyPos body =>
    let d := Decl.func pos returnType name formals bodyPos body
    let around := (earlier ++ [d.declared]) :: outer
    Formal.mentionsAll [] around formals.items ++
      body.mentions (formals.items.map Formal.declared) around
  | .struct pos name fieldsPos fields =>
    Decl.fieldMentions (earlier ++ [(Decl.struct pos name fieldsPos fields).declared]) outer fields

/-- The mentions in the fields of a struct. What is declared there is in no scope around them. -/
def Decl.fieldMentions (earlier : List Declared) (outer : List (List Declared)) :
    List Decl → List Mention
  | [] => []
  | d :: ds => d.mentions earlier outer ++ Decl.fieldMentions earlier outer ds

/-- The mentions in a statement. -/
def Stmt.mentions (scopes : List (List Declared)) : Stmt → List Mention
  | .assign _ assignment => assignment.expr.mentions scopes
  | .increment _ e | .decrement _ e | .read _ e | .write _ e => e.mentions scopes
  | .ifThen _ cond body | .loop _ cond body => cond.mentions scopes ++ body.mentions [] scopes
  | .ifElse _ cond yes no =>
    cond.mentions scopes ++ (yes.mentions [] scopes ++ no.mentions [] scopes)
  | .call _ call => call.expr.mentions scopes
  | .ret _ none => []
  | .ret _ (some value) => value.mentions scopes

/-- The mentions in a block, after the formal parameters that belong to it. -/
def Block.mentions (earlier : List Declared) (outer : List (List Declared)) : Block → List Mention
  | .mk _ decls _ stmts =>
    Decl.mentionsAll earlier outer decls ++
      Stmt.mentionsAll ((earlier ++ decls.map Decl.declared) :: outer) stmts

/-- The mentions in declarations, after the ones before in the same scope. -/
def Decl.mentionsAll (earlier : List Declared) (outer : List (List Declared)) :
    List Decl → List Mention
  | [] => []
  | d :: ds => d.mentions earlier outer ++ Decl.mentionsAll (earlier ++ [d.declared]) outer ds

/-- The mentions in statements. -/
def Stmt.mentionsAll (scopes : List (List Declared)) : List Stmt → List Mention
  | [] => []
  | s :: ss => s.mentions scopes ++ Stmt.mentionsAll scopes ss

end

/-- The mentions in a program from left to right. -/
def Program.mentions (T : Program) : List Mention := Decl.mentionsAll [] [] T.decls

/-! ## The identifiers of expressions -/

/-- The identifiers of expressions among some mentions. -/
def Mention.usedAll (mentions : List Mention) : List Ident :=
  mentions.flatMap (·.reference.used)

namespace Mention

theorem usedAll_append (left right : List Mention) :
    usedAll (left ++ right) = usedAll left ++ usedAll right :=
  List.flatMap_append

theorem usedAll_all (scopes : List (List Declared)) (references : List Reference) :
    usedAll (all scopes references) = references.flatMap Reference.used :=
  List.flatMap_map ..

end Mention

section

variable {scopes outer : List (List Declared)} {earlier : List Declared}

/-- Written types are no expressions. -/
theorem TypeExpr.used_references (type : TypeExpr) (declared : Ident) :
    (type.references declared).flatMap Reference.used = [] := by
  cases type <;> rfl

mutual

theorem Expr.used_references (e : Expr) : e.references.flatMap Reference.used = e.idents := by
  cases e with
  | int | string | bool => rfl
  | ident name => rfl
  | dot pos base field =>
    cases base with
    | ident name => rfl
    | _ =>
      show List.flatMap Reference.used (Expr.references _ ++ [.use field]) = _
      rw [List.flatMap_append, Expr.used_references, idents]
      rfl
  | assign pos target value =>
    rw [references, List.flatMap_append, Expr.used_references target, Expr.used_references value,
      idents]
  | call pos callee argsPos args =>
    rw [references, List.flatMap_cons, Expr.used_referencesAll args, idents]
    rfl
  | unary pos op operand => exact Expr.used_references operand
  | binary pos left op right =>
    rw [references, List.flatMap_append, Expr.used_references left, Expr.used_references right,
      idents]

theorem Expr.used_referencesAll (es : List Expr) :
    (Expr.referencesAll es).flatMap Reference.used = Expr.identsAll es := by
  cases es with
  | nil => rfl
  | cons e es =>
    rw [referencesAll, List.flatMap_append, Expr.used_references e, Expr.used_referencesAll es,
      identsAll]

end

theorem Expr.used_mentions (e : Expr) : Mention.usedAll (e.mentions scopes) = e.uses := by
  rw [mentions, Mention.usedAll_all, e.used_references, e.uses_eq]

theorem Formal.used_mentionsAll (fs : List Formal) :
    Mention.usedAll (Formal.mentionsAll earlier outer fs) = [] := by
  induction fs generalizing earlier with
  | nil => rfl
  | cons f fs ih =>
    rw [mentionsAll, Mention.usedAll_append, Mention.usedAll_all, f.type.used_references, ih,
      List.nil_append]

end

mutual

theorem Decl.used_mentions {earlier : List Declared} {outer : List (List Declared)} (d : Decl) :
    Mention.usedAll (d.mentions earlier outer) = d.uses := by
  cases d with
  | var pos type name =>
    rw [Decl.mentions, Mention.usedAll_all, type.used_references, Decl.uses]
  | func pos returnType name formals bodyPos body =>
    rw [Decl.mentions, Mention.usedAll_append, Formal.used_mentionsAll, List.nil_append,
      Block.used_mentions body, Decl.uses]
  | struct pos name fieldsPos fields =>
    rw [Decl.mentions, Decl.used_fieldMentions fields, Decl.uses]

theorem Decl.used_fieldMentions {earlier : List Declared} {outer : List (List Declared)}
    (ds : List Decl) : Mention.usedAll (Decl.fieldMentions earlier outer ds) = Decl.usesAll ds := by
  cases ds with
  | nil => rfl
  | cons d ds =>
    rw [Decl.fieldMentions, Mention.usedAll_append, Decl.used_mentions d,
      Decl.used_fieldMentions ds, Decl.usesAll]

theorem Stmt.used_mentions {scopes : List (List Declared)} (st : Stmt) :
    Mention.usedAll (st.mentions scopes) = st.uses := by
  cases st with
  | assign pos a => exact a.expr.used_mentions
  | call pos c => exact c.expr.used_mentions
  | increment pos e | decrement pos e | read pos e | write pos e => exact e.used_mentions
  | ret pos value =>
    cases value with
    | none => rfl
    | some e => exact e.used_mentions
  | ifThen pos cond body | loop pos cond body =>
    rw [Stmt.mentions, Mention.usedAll_append, cond.used_mentions, Block.used_mentions body,
      Stmt.uses]
  | ifElse pos cond yes no =>
    rw [Stmt.mentions, Mention.usedAll_append, Mention.usedAll_append, cond.used_mentions,
      Block.used_mentions yes, Block.used_mentions no, Stmt.uses, List.append_assoc]

theorem Block.used_mentions {earlier : List Declared} {outer : List (List Declared)} (b : Block) :
    Mention.usedAll (b.mentions earlier outer) = b.uses := by
  cases b with
  | mk declsPos decls stmtsPos stmts =>
    rw [Block.mentions, Mention.usedAll_append, Decl.used_mentionsAll decls,
      Stmt.used_mentionsAll stmts, Block.uses]

theorem Decl.used_mentionsAll {earlier : List Declared} {outer : List (List Declared)}
    (ds : List Decl) : Mention.usedAll (Decl.mentionsAll earlier outer ds) = Decl.usesAll ds := by
  cases ds with
  | nil => rfl
  | cons d ds =>
    rw [Decl.mentionsAll, Mention.usedAll_append, Decl.used_mentions d, Decl.used_mentionsAll ds,
      Decl.usesAll]

theorem Stmt.used_mentionsAll {scopes : List (List Declared)} (ss : List Stmt) :
    Mention.usedAll (Stmt.mentionsAll scopes ss) = Stmt.usesAll ss := by
  cases ss with
  | nil => rfl
  | cons st ss =>
    rw [Stmt.mentionsAll, Mention.usedAll_append, Stmt.used_mentions st, Stmt.used_mentionsAll ss,
      Stmt.usesAll]

end

/-- Every identifier in an expression of a program is mentioned once, in the order of the text. -/
theorem Program.used_mentions (T : Program) :
    Mention.usedAll T.mentions = (Node.program T).uses :=
  Decl.used_mentionsAll T.decls

/-! ## Structs of variables -/

/-- Of each variable of a struct in a scope, the name of the struct stands for something there. -/
def Declared.Backed (scope : List Declared) (outer : List (List Declared)) : Prop :=
  ∀ d ∈ scope, ∀ structName, d.meaning = some (.structVar structName) →
    (Declared.lookup (scope :: outer) structName).isSome = true

namespace Mention

/-- The struct name in the type of a declared name stands for something. -/
def Known (m : Mention) : Prop :=
  ∀ structName declared, m.reference = .ofType structName declared →
    (Declared.lookup m.scopes structName.name).isSome = true

/-- The structs of the variables in the innermost scope stand for something. -/
def Backed (m : Mention) : Prop :=
  ∃ scope outer, m.scopes = scope :: outer ∧ Declared.Backed scope outer

theorem backed_all {scope : List Declared} {outer : List (List Declared)}
    (h : Declared.Backed scope outer) (references : List Reference) :
    ∀ m ∈ all (scope :: outer) references, m.Backed := by
  intro m mem
  obtain ⟨_, -, rfl⟩ := List.mem_map.mp mem
  exact ⟨scope, outer, rfl, h⟩

end Mention

/-- What is declared later does not hide everything of a name. -/
theorem Declared.lookup_isSome_append {scope : List Declared} {outer : List (List Declared)}
    {name : String} (h : (Declared.lookup (scope :: outer) name).isSome = true)
    (more : List Declared) : (Declared.lookup ((scope ++ more) :: outer) name).isSome = true := by
  rw [Declared.lookup, List.findSome?_cons] at h ⊢
  rw [List.find?_append]
  cases found : scope.find? (·.Gives name) with
  | some d => rfl
  | none =>
    rw [found] at h
    rw [Option.none_or]
    cases more.find? (·.Gives name) with
    | some d => rfl
    | none => exact h

namespace Declared.Backed

variable {scope : List Declared} {outer : List (List Declared)} {d : Declared}

theorem nil (outer : List (List Declared)) : Declared.Backed [] outer :=
  List.forall_mem_nil _

/-- One more declaration, of a variable of a struct only if its name stands for something. -/
theorem concat (h : Declared.Backed scope outer)
    (known : ∀ structName, d.meaning = some (.structVar structName) →
      (Declared.lookup (scope :: outer) structName).isSome = true) :
    Declared.Backed (scope ++ [d]) outer := by
  intro other mem structName isVar
  refine Declared.lookup_isSome_append ?_ [d]
  rcases List.mem_append.mp mem with mem | mem
  · exact h other mem structName isVar
  · obtain rfl := List.mem_singleton.mp mem
    exact known structName isVar

/-- A variable, a formal parameter or a field whose type is known. -/
theorem known_of_type {type : TypeExpr} {name : Ident} {scopes : List (List Declared)}
    (known : ∀ m ∈ Mention.all scopes (type.references name), m.Known) :
    ∀ structName, type.meaning? = some (.structVar structName) →
      (Declared.lookup scopes structName).isSome = true := by
  rintro structName isVar
  cases type with
  | struct pos written =>
    cases isVar
    exact known ⟨.ofType written name, scopes⟩ (List.mem_singleton_self _) written name rfl
  | int | bool | void => cases isVar

theorem formals (h : Declared.Backed scope outer) (fs : List Formal)
    (known : ∀ m ∈ Formal.mentionsAll scope outer fs, m.Known) :
    (∀ m ∈ Formal.mentionsAll scope outer fs, m.Backed) ∧
      Declared.Backed (scope ++ fs.map Formal.declared) outer := by
  induction fs generalizing scope with
  | nil =>
    rw [List.map_nil, List.append_nil]
    exact ⟨List.forall_mem_nil _, h⟩
  | cons f fs ih =>
    obtain ⟨first, others⟩ := List.forall_mem_append.mp known
    obtain ⟨backed, after⟩ := ih (h.concat (d := f.declared) (known_of_type first)) others
    rw [List.map_cons, List.append_cons]
    exact ⟨List.forall_mem_append.mpr ⟨Mention.backed_all h _, backed⟩, after⟩

end Declared.Backed

mutual

theorem Decl.backed_mentions {scope : List Declared} {outer : List (List Declared)} (d : Decl)
    (h : Declared.Backed scope outer) (known : ∀ m ∈ d.mentions scope outer, m.Known) :
    (∀ m ∈ d.mentions scope outer, m.Backed) ∧ Declared.Backed (scope ++ [d.declared]) outer := by
  cases d with
  | var pos type name =>
    exact ⟨Mention.backed_all h _, h.concat (Declared.Backed.known_of_type known)⟩
  | func pos returnType name formals bodyPos body =>
    obtain ⟨inFormals, inBody⟩ := List.forall_mem_append.mp known
    obtain ⟨backed, opened⟩ := (Declared.Backed.nil _).formals formals.items inFormals
    exact ⟨List.forall_mem_append.mpr ⟨backed, body.backed_mentions opened inBody⟩,
      h.concat (by rintro _ ⟨⟩)⟩
  | struct pos name fieldsPos fields =>
    have after : Declared.Backed (scope ++ [(Decl.struct pos name fieldsPos fields).declared])
      outer := h.concat (by rintro _ ⟨⟩)
    exact ⟨Decl.backed_fieldMentions fields after known, after⟩

theorem Decl.backed_fieldMentions {scope : List Declared} {outer : List (List Declared)}
    (ds : List Decl) (h : Declared.Backed scope outer)
    (known : ∀ m ∈ Decl.fieldMentions scope outer ds, m.Known) :
    ∀ m ∈ Decl.fieldMentions scope outer ds, m.Backed := by
  cases ds with
  | nil => exact List.forall_mem_nil _
  | cons d ds =>
    obtain ⟨first, others⟩ := List.forall_mem_append.mp known
    exact List.forall_mem_append.mpr
      ⟨(Decl.backed_mentions d h first).1, Decl.backed_fieldMentions ds h others⟩

theorem Stmt.backed_mentions {scope : List Declared} {outer : List (List Declared)} (st : Stmt)
    (h : Declared.Backed scope outer)
    (known : ∀ m ∈ st.mentions (scope :: outer), m.Known) :
    ∀ m ∈ st.mentions (scope :: outer), m.Backed := by
  cases st with
  | assign | call | increment | decrement | read | write => exact Mention.backed_all h _
  | ret pos value =>
    cases value with
    | none => exact List.forall_mem_nil _
    | some e => exact Mention.backed_all h _
  | ifThen pos cond body | loop pos cond body =>
    obtain ⟨-, inBody⟩ := List.forall_mem_append.mp known
    exact List.forall_mem_append.mpr
      ⟨Mention.backed_all h _, body.backed_mentions (.nil _) inBody⟩
  | ifElse pos cond yes no =>
    obtain ⟨-, inBlocks⟩ := List.forall_mem_append.mp known
    obtain ⟨inYes, inNo⟩ := List.forall_mem_append.mp inBlocks
    exact List.forall_mem_append.mpr ⟨Mention.backed_all h _, List.forall_mem_append.mpr
      ⟨yes.backed_mentions (.nil _) inYes, no.backed_mentions (.nil _) inNo⟩⟩

theorem Block.backed_mentions {scope : List Declared} {outer : List (List Declared)} (b : Block)
    (h : Declared.Backed scope outer) (known : ∀ m ∈ b.mentions scope outer, m.Known) :
    ∀ m ∈ b.mentions scope outer, m.Backed := by
  cases b with
  | mk declsPos decls stmtsPos stmts =>
    obtain ⟨inDecls, inStmts⟩ := List.forall_mem_append.mp known
    obtain ⟨backed, after⟩ := Decl.backed_mentionsAll decls h inDecls
    exact List.forall_mem_append.mpr ⟨backed, Stmt.backed_mentionsAll stmts after inStmts⟩

theorem Decl.backed_mentionsAll {scope : List Declared} {outer : List (List Declared)}
    (ds : List Decl) (h : Declared.Backed scope outer)
    (known : ∀ m ∈ Decl.mentionsAll scope outer ds, m.Known) :
    (∀ m ∈ Decl.mentionsAll scope outer ds, m.Backed) ∧
      Declared.Backed (scope ++ ds.map Decl.declared) outer := by
  cases ds with
  | nil =>
    rw [List.map_nil, List.append_nil]
    exact ⟨List.forall_mem_nil _, h⟩
  | cons d ds =>
    obtain ⟨first, others⟩ := List.forall_mem_append.mp known
    obtain ⟨backed, after⟩ := Decl.backed_mentions d h first
    obtain ⟨backed', after'⟩ := Decl.backed_mentionsAll ds after others
    rw [List.map_cons, List.append_cons]
    exact ⟨List.forall_mem_append.mpr ⟨backed, backed'⟩, after'⟩

theorem Stmt.backed_mentionsAll {scope : List Declared} {outer : List (List Declared)}
    (ss : List Stmt) (h : Declared.Backed scope outer)
    (known : ∀ m ∈ Stmt.mentionsAll (scope :: outer) ss, m.Known) :
    ∀ m ∈ Stmt.mentionsAll (scope :: outer) ss, m.Backed := by
  cases ss with
  | nil => exact List.forall_mem_nil _
  | cons st ss =>
    obtain ⟨first, others⟩ := List.forall_mem_append.mp known
    exact List.forall_mem_append.mpr
      ⟨Stmt.backed_mentions st h first, Stmt.backed_mentionsAll ss h others⟩

end

/-- Where every struct that is named in a type stands for something, the structs of variables do so
wherever the variables are met. -/
theorem Program.backed_mentions {T : Program} (known : ∀ m ∈ T.mentions, m.Known) :
    ∀ m ∈ T.mentions, m.Backed :=
  (Decl.backed_mentionsAll T.decls (.nil []) known).1

end Minim
