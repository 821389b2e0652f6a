import Mathlib.Data.List.Forall2
import Minim.Proofs.Syntax.Erasure
import Minim.Syntax.Json

/-!
# What the JSON forms of a tree show

Objects are equal if they have equal members under the same names, in whatever order. The full form
of a tree tells it from all other trees, by any line, column or symbol; the structural form tells it
from those that differ in more than these, and is the full form without their members.
-/

namespace Minim

/-! ## Equality of values -/

namespace Json

mutual

/-- Whether two values are equal. A truth value is equal to the number that it counts as, and
members are compared by their names and not by their order. -/
def Value.same : Value → Value → Bool
  | .null, .null => true
  | .bool a, .bool b => a == b
  | .int a, .int b => a == b
  | .bool a, .int b => a.toInt == b
  | .int a, .bool b => a == b.toInt
  | .string a, .string b => a == b
  | .array as, .array bs => Value.sameItems as bs
  | .object as, .object bs => as.length == bs.length && Value.sameMembers as bs
  | _, _ => false

/-- Whether two lists have equal items. -/
def Value.sameItems : List Value → List Value → Bool
  | [], [] => true
  | a :: as, b :: bs => a.same b && Value.sameItems as bs
  | _, _ => false

/-- Whether every member is equal to that of the same name among other members. -/
def Value.sameMembers : List (String × Value) → List (String × Value) → Bool
  | [], _ => true
  | (name, a) :: as, bs => (bs.lookup name).any a.same && Value.sameMembers as bs

end

mutual

/-- A value without the members of some names, at every level. -/
def Value.without (names : List String) : Value → Value
  | .array items => .array (Value.itemsWithout names items)
  | .object members => .object (Value.membersWithout names members)
  | value => value

/-- Items without the members of some names. -/
def Value.itemsWithout (names : List String) : List Value → List Value
  | [] => []
  | v :: vs => v.without names :: Value.itemsWithout names vs

/-- The members that have none of some names. -/
def Value.membersWithout (names : List String) : List (String × Value) → List (String × Value)
  | [] => []
  | (name, v) :: members =>
    if name ∈ names then Value.membersWithout names members
    else (name, v.without names) :: Value.membersWithout names members

end

end Json

open Json (Value)

/-- Members under the same names, no name twice, are compared one by one. -/
theorem Json.Value.sameMembers_append {names : List String} (before as bs : List (String × Value))
    (named : as.map Prod.fst = names) (named' : bs.map Prod.fst = names)
    (distinct : (before.map Prod.fst ++ names).Nodup) :
    Value.sameMembers as (before ++ bs) = true ↔
      List.Forall₂ (fun a b => a.2.same b.2 = true) as bs := by
  induction as generalizing before bs names with
  | nil =>
    subst named
    obtain rfl := List.map_eq_nil_iff.mp named'
    simp [sameMembers]
  | cons a as ih =>
    obtain ⟨name, a⟩ := a
    subst named
    obtain ⟨⟨name', b⟩, bs, rfl, rfl, rest⟩ := List.map_eq_cons_iff.mp named'
    have absent : before.lookup name' = none := by
      refine List.lookup_eq_none_iff.mpr fun member mem => bne_iff_ne.mpr ?_
      rintro rfl
      exact (List.nodup_append.mp distinct).2.2 _ (List.mem_map_of_mem mem) _
        (List.mem_cons_self ..) rfl
    have others := ih (before ++ [(name', b)]) bs rfl rest (by simpa using distinct)
    rw [List.append_assoc] at others
    rw [sameMembers, List.lookup_append, absent, Option.none_or, List.lookup_cons_self,
      Option.any_some, Bool.and_eq_true, List.forall₂_cons]
    exact and_congr_right fun _ => others

/-! ## Nodes -/

/-- What a form shows of something that can be erased: all of it, or what erasure leaves. -/
def JsonForm.seen {α : Type} (form : JsonForm) (erase : α → α) (a : α) : α :=
  match form with
  | .full => a
  | .structural => erase a

variable {form : JsonForm}

/-- Objects of nodes whose parts have the same names are equal if the kinds, the positions that are
shown, and the parts are. -/
theorem same_nodeObject {kind kind' : NodeKind} {pos pos' : Position} (names : List String)
    {parts parts' : List (String × Value)} (named : parts.map Prod.fst = names)
    (named' : parts'.map Prod.fst = names)
    (distinct : ("node_type" :: "line" :: "column" :: names).Nodup) :
    (nodeObject form kind pos parts).same (nodeObject form kind' pos' parts') = true ↔
      kind = kind' ∧ form.seen (fun _ => {}) pos = form.seen (fun _ => {}) pos' ∧
        List.Forall₂ (fun a b => a.2.same b.2 = true) parts parts' := by
  have long : parts.length = parts'.length := by
    rw [← List.length_map (f := Prod.fst), named, ← named', List.length_map]
  cases form with
  | full =>
    have members := Value.sameMembers_append []
      (("node_type", .string kind.name) :: ("line", .int pos.line) ::
        ("column", .int pos.column) :: parts)
      (("node_type", .string kind'.name) :: ("line", .int pos'.line) ::
        ("column", .int pos'.column) :: parts')
      rfl (by simp [named, named']) (by simpa [named] using distinct)
    obtain ⟨line, column⟩ := pos
    obtain ⟨line', column'⟩ := pos'
    rw [List.nil_append] at members
    simp only [nodeObject, Value.same, List.length_cons, long, beq_self_eq_true, Bool.true_and,
      members, List.forall₂_cons, beq_iff_eq, NodeKind.name_inj, JsonForm.seen, Position.mk.injEq,
      and_assoc]
  | structural =>
    have fewer : ("node_type" :: names).Sublist ("node_type" :: "line" :: "column" :: names) :=
      ((List.sublist_cons_self ..).cons _).cons_cons _
    have members := Value.sameMembers_append []
      (("node_type", .string kind.name) :: parts) (("node_type", .string kind'.name) :: parts')
      rfl (by simp [named, named']) (by simpa [named] using distinct.sublist fewer)
    rw [List.nil_append] at members
    simp only [nodeObject, Value.same, List.length_cons, long, beq_self_eq_true, Bool.true_and,
      members, List.forall₂_cons, beq_iff_eq, NodeKind.name_inj, JsonForm.seen, true_and]

/-- Objects of lists are equal if the kinds, the positions that are shown, and the items are. -/
theorem same_listObject {kind kind' : NodeKind} {pos pos' : Position} (name : String)
    (part : name ∉ ["node_type", "line", "column"]) (items items' : List Value) :
    (nodeObject form kind pos [(name, .array items)]).same
        (nodeObject form kind' pos' [(name, .array items')]) = true ↔
      kind = kind' ∧ form.seen (fun _ => {}) pos = form.seen (fun _ => {}) pos' ∧
        Value.sameItems items items' = true := by
  have distinct : ("node_type" :: "line" :: "column" :: [name]).Nodup := by
    simp only [List.mem_cons, not_or] at part
    simp [eq_comm, part]
  rw [same_nodeObject [name] rfl rfl distinct]
  simp [Value.same]

/-- Objects of nodes are different if their kinds are. -/
theorem kind_of_same {kind kind' : NodeKind} {pos pos' : Position}
    {parts parts' : List (String × Value)}
    (same : (nodeObject form kind pos parts).same (nodeObject form kind' pos' parts') = true) :
    kind = kind' := by
  cases form <;>
    simp only [nodeObject, Value.same, Value.sameMembers, List.lookup_cons_self, Option.any_some,
      Bool.and_eq_true, beq_iff_eq, NodeKind.name_inj] at same <;>
    exact same.2.1

/-- The object of a node without the members that only the full form has. -/
theorem without_nodeObject (kind : NodeKind) (pos : Position) (parts : List (String × Value)) :
    (nodeObject .full kind pos parts).without ["line", "column", "symbol"] =
      nodeObject .structural kind pos
        (Value.membersWithout ["line", "column", "symbol"] parts) := by
  simp [nodeObject, Value.without, Value.membersWithout]

/-! ## Parts -/

theorem TokenValue.same_toJson (v v' : TokenValue) :
    v.toJson.same v'.toJson = true ↔ v = v' := by
  cases v <;> cases v' <;> simp [toJson, Value.same]

theorem TokenValue.without_toJson (v : TokenValue) (names : List String) :
    v.toJson.without names = v.toJson := by
  cases v <;> rfl

theorem Ident.same_toJson (name name' : Ident) :
    (name.toJson form).same (name'.toJson form) = true ↔
      form.seen Ident.erase name = form.seen Ident.erase name' := by
  obtain ⟨pos, value, symbol⟩ := name
  obtain ⟨pos', value', symbol'⟩ := name'
  cases form with
  | full =>
    have symbols : (Value.ofOption symbol).same (Value.ofOption symbol') = true ↔
        symbol = symbol' := by
      cases symbol <;> cases symbol' <;> simp [Value.ofOption, Value.same]
    rw [toJson, toJson, same_nodeObject ["name", "symbol"] rfl rfl (by decide)]
    simp [TokenValue.same_toJson, symbols, JsonForm.seen]
  | structural =>
    rw [toJson, toJson, same_nodeObject ["name"] rfl rfl (by decide)]
    simp [TokenValue.same_toJson, JsonForm.seen, erase]

theorem Ident.without_toJson (name : Ident) :
    (name.toJson .full).without ["line", "column", "symbol"] = name.toJson .structural := by
  rw [toJson, without_nodeObject]
  simp [Value.membersWithout, TokenValue.without_toJson, toJson]

theorem TypeExpr.kind_erase (type : TypeExpr) : type.erase.kind = type.kind := by
  cases type <;> rfl

theorem Stmt.kind_erase (s : Stmt) : s.erase.kind = s.kind := by
  cases s <;> rfl

/-- Trees that a form shows alike are of one kind, if erasure keeps it. -/
theorem JsonForm.kind_of_seen {α : Type} {erase : α → α} {kind : α → NodeKind}
    (keeps : ∀ a, kind (erase a) = kind a) {a b : α}
    (same : form.seen erase a = form.seen erase b) : kind a = kind b := by
  cases form with
  | full => exact congrArg kind same
  | structural => rw [← keeps a, ← keeps b]; exact congrArg kind same

theorem TypeExpr.same_toJson (type type' : TypeExpr) :
    (type.toJson form).same (type'.toJson form) = true ↔
      form.seen TypeExpr.erase type = form.seen TypeExpr.erase type' := by
  by_cases kinds : type.kind = type'.kind
  · cases type with
    | int | bool | void =>
      cases type' <;> cases kinds
      refine (same_nodeObject [] rfl rfl (by decide)).trans ?_
      cases form <;> simp [kind, pos, JsonForm.seen, erase]
    | struct pos name =>
      cases type' <;> cases kinds
      refine (same_nodeObject ["name"] rfl rfl (by decide)).trans ?_
      simp only [List.forall₂_cons, List.forall₂_nil_left_iff, Ident.same_toJson]
      cases form <;> simp [kind, TypeExpr.pos, JsonForm.seen, erase]
  · exact iff_of_false (mt kind_of_same kinds) (mt (JsonForm.kind_of_seen kind_erase) kinds)

theorem TypeExpr.without_toJson (type : TypeExpr) :
    (type.toJson .full).without ["line", "column", "symbol"] = type.toJson .structural := by
  refine (without_nodeObject ..).trans ?_
  cases type with
  | int | bool | void => rfl
  | struct pos name =>
    simp only [Value.membersWithout, Ident.without_toJson]
    rfl

/-! ## Expressions -/

theorem Expr.toJson_eq (form : JsonForm) (e : Expr) :
    ∃ parts, e.toJson form = nodeObject form e.kind e.pos parts := by
  cases e <;> exact ⟨_, rfl⟩

theorem Expr.kind_of_same {a b : Expr} (same : (a.toJson form).same (b.toJson form) = true) :
    a.kind = b.kind := by
  obtain ⟨parts, eq⟩ := a.toJson_eq form
  obtain ⟨parts', eq'⟩ := b.toJson_eq form
  rw [eq, eq'] at same
  exact Minim.kind_of_same same

/-- An absent expression is equal to no expression. -/
theorem Expr.null_same (e : Expr) : Value.same .null (e.toJson form) = false := by
  obtain ⟨parts, eq⟩ := e.toJson_eq form
  rw [eq]
  cases form <;> rfl

theorem Expr.same_null (e : Expr) : (e.toJson form).same .null = false := by
  obtain ⟨parts, eq⟩ := e.toJson_eq form
  rw [eq]
  cases form <;> rfl

mutual

theorem Expr.same_toJson (a b : Expr) :
    (a.toJson form).same (b.toJson form) = true ↔
      form.seen Expr.erase a = form.seen Expr.erase b := by
  by_cases kinds : a.kind = b.kind
  · cases a with
    | int pos value | string pos value =>
      cases b <;> cases kinds
      rw [toJson, toJson, same_nodeObject ["value"] rfl rfl (by decide)]
      cases form <;> simp [TokenValue.same_toJson, JsonForm.seen, erase]
    | bool pos value =>
      cases b <;> cases kinds
      rw [toJson, toJson, same_nodeObject ["value"] rfl rfl (by decide)]
      cases form <;> simp [Value.same, JsonForm.seen, erase]
    | ident name =>
      cases b <;> cases kinds
      rw [toJson, toJson, Ident.same_toJson]
      cases form <;> simp [JsonForm.seen, erase]
    | dot pos base field =>
      cases b <;> cases kinds
      rw [toJson, toJson, same_nodeObject ["loc", "field"] rfl rfl (by decide)]
      simp only [List.forall₂_cons, Expr.same_toJson base, Ident.same_toJson]
      cases form <;> simp [JsonForm.seen, erase]
    | assign pos target value =>
      cases b <;> cases kinds
      rw [toJson, toJson, same_nodeObject ["left", "right"] rfl rfl (by decide)]
      simp only [List.forall₂_cons, Expr.same_toJson target, Expr.same_toJson value]
      cases form <;> simp [JsonForm.seen, erase]
    | call pos callee argsPos args =>
      cases b <;> cases kinds
      rw [toJson, toJson, same_nodeObject ["function", "arguments"] rfl rfl (by decide)]
      simp only [List.forall₂_cons, Ident.same_toJson, same_listObject "expressions" (by decide),
        Expr.sameItems_toJsonAll args]
      cases form <;> simp [JsonForm.seen, erase]
    | unary pos op operand =>
      cases b <;> cases kinds
      rw [toJson, toJson, same_nodeObject ["operator", "operand"] rfl rfl (by decide)]
      simp only [List.forall₂_cons, TokenValue.same_toJson, Expr.same_toJson operand]
      cases form <;> simp [JsonForm.seen, erase]
    | binary pos left op right =>
      cases b <;> cases kinds
      rw [toJson, toJson, same_nodeObject ["operator", "left", "right"] rfl rfl (by decide)]
      simp only [List.forall₂_cons, TokenValue.same_toJson, Expr.same_toJson left,
        Expr.same_toJson right]
      cases form <;> simp [JsonForm.seen, erase, and_left_comm]
  · exact iff_of_false (mt Expr.kind_of_same kinds) (mt (JsonForm.kind_of_seen kind_erase) kinds)

theorem Expr.sameItems_toJsonAll (as bs : List Expr) :
    Value.sameItems (Expr.toJsonAll form as) (Expr.toJsonAll form bs) = true ↔
      form.seen Expr.eraseAll as = form.seen Expr.eraseAll bs := by
  cases as with
  | nil => cases bs <;> cases form <;> simp [toJsonAll, Value.sameItems, JsonForm.seen, eraseAll]
  | cons a as =>
    cases bs with
    | nil => cases form <;> simp [toJsonAll, Value.sameItems, JsonForm.seen, eraseAll]
    | cons b bs =>
      rw [toJsonAll, toJsonAll, Value.sameItems, Bool.and_eq_true, Expr.same_toJson a,
        Expr.sameItems_toJsonAll as]
      cases form <;> simp [JsonForm.seen, eraseAll]

end

mutual

theorem Expr.without_toJson (e : Expr) :
    (e.toJson .full).without ["line", "column", "symbol"] = e.toJson .structural := by
  cases e with
  | ident name => exact name.without_toJson
  | int pos value | string pos value | bool pos value =>
    rw [toJson, without_nodeObject, toJson]
    simp [Value.membersWithout, Value.without, TokenValue.without_toJson]
  | dot pos base field =>
    rw [toJson, without_nodeObject, toJson]
    simp [Value.membersWithout, Expr.without_toJson base, Ident.without_toJson]
  | assign pos target value =>
    rw [toJson, without_nodeObject, toJson]
    simp [Value.membersWithout, Expr.without_toJson target, Expr.without_toJson value]
  | call pos callee argsPos args =>
    rw [toJson, without_nodeObject, toJson]
    simp [Value.membersWithout, Ident.without_toJson, without_nodeObject, Value.without,
      Expr.itemsWithout_toJsonAll args]
  | unary pos op operand =>
    rw [toJson, without_nodeObject, toJson]
    simp [Value.membersWithout, TokenValue.without_toJson, Expr.without_toJson operand]
  | binary pos left op right =>
    rw [toJson, without_nodeObject, toJson]
    simp [Value.membersWithout, TokenValue.without_toJson, Expr.without_toJson left,
      Expr.without_toJson right]

theorem Expr.itemsWithout_toJsonAll (es : List Expr) :
    Value.itemsWithout ["line", "column", "symbol"] (Expr.toJsonAll .full es) =
      Expr.toJsonAll .structural es := by
  cases es with
  | nil => rfl
  | cons e es =>
    rw [toJsonAll, Value.itemsWithout, Expr.without_toJson e, Expr.itemsWithout_toJsonAll es,
      toJsonAll]

end

/-! ## Declarations and statements -/

theorem Assignment.same_toJson (a b : Assignment) :
    (a.expr.toJson form).same (b.expr.toJson form) = true ↔
      form.seen Assignment.erase a = form.seen Assignment.erase b := by
  obtain ⟨pos, target, value⟩ := a
  obtain ⟨pos', target', value'⟩ := b
  rw [Expr.same_toJson]
  cases form <;> simp [JsonForm.seen, expr, erase, Expr.erase]

theorem Call.same_toJson (a b : Call) :
    (a.expr.toJson form).same (b.expr.toJson form) = true ↔
      form.seen Call.erase a = form.seen Call.erase b := by
  obtain ⟨pos, callee, argsPos, args⟩ := a
  obtain ⟨pos', callee', argsPos', args'⟩ := b
  rw [Expr.same_toJson]
  cases form <;> simp [JsonForm.seen, expr, erase, Expr.erase]

theorem Formal.same_toJson (a b : Formal) :
    (a.toJson form).same (b.toJson form) = true ↔
      form.seen Formal.erase a = form.seen Formal.erase b := by
  obtain ⟨pos, type, name⟩ := a
  obtain ⟨pos', type', name'⟩ := b
  rw [toJson, toJson, same_nodeObject ["var_type", "name"] rfl rfl (by decide)]
  simp only [List.forall₂_cons, TypeExpr.same_toJson, Ident.same_toJson]
  cases form <;> simp [JsonForm.seen, erase]

theorem Formal.without_toJson (f : Formal) :
    (f.toJson .full).without ["line", "column", "symbol"] = f.toJson .structural := by
  rw [toJson, without_nodeObject, toJson]
  simp [Value.membersWithout, TypeExpr.without_toJson, Ident.without_toJson]

theorem Formal.sameItems_toJson (as bs : List Formal) :
    Value.sameItems (as.map (Formal.toJson form)) (bs.map (Formal.toJson form)) = true ↔
      form.seen (List.map Formal.erase) as = form.seen (List.map Formal.erase) bs := by
  induction as generalizing bs with
  | nil => cases bs <;> cases form <;> simp [Value.sameItems, JsonForm.seen]
  | cons a as ih =>
    cases bs with
    | nil => cases form <;> simp [Value.sameItems, JsonForm.seen]
    | cons b bs =>
      rw [List.map_cons, List.map_cons, Value.sameItems, Bool.and_eq_true, a.same_toJson, ih]
      cases form <;> simp [JsonForm.seen]

theorem Formals.same_toJson (a b : Formals) :
    (a.toJson form).same (b.toJson form) = true ↔
      form.seen Formals.erase a = form.seen Formals.erase b := by
  obtain ⟨pos, items⟩ := a
  obtain ⟨pos', items'⟩ := b
  rw [toJson, toJson, same_listObject "formals" (by decide), Formal.sameItems_toJson]
  cases form <;> simp [JsonForm.seen, erase]

theorem Decl.kind_of_same {a b : Decl} (same : (a.toJson form).same (b.toJson form) = true) :
    a.kind = b.kind := by
  cases a <;> cases b <;> exact Minim.kind_of_same same

theorem Stmt.toJson_eq (form : JsonForm) (s : Stmt) :
    ∃ parts, s.toJson form = nodeObject form s.kind s.pos parts := by
  cases s with
  | ret pos value => cases value <;> exact ⟨_, rfl⟩
  | _ => exact ⟨_, rfl⟩

theorem Stmt.kind_of_same {a b : Stmt} (same : (a.toJson form).same (b.toJson form) = true) :
    a.kind = b.kind := by
  obtain ⟨parts, eq⟩ := a.toJson_eq form
  obtain ⟨parts', eq'⟩ := b.toJson_eq form
  rw [eq, eq'] at same
  exact Minim.kind_of_same same

theorem forall₂_append_iff {α : Type} {R : α → α → Prop} {as as' bs bs' : List α}
    (long : as.length = bs.length) :
    List.Forall₂ R (as ++ as') (bs ++ bs') ↔ List.Forall₂ R as bs ∧ List.Forall₂ R as' bs' := by
  induction as generalizing bs with
  | nil => simp [List.eq_nil_of_length_eq_zero long.symm]
  | cons a as ih =>
    cases bs with
    | nil => cases long
    | cons b bs => simp [ih (Nat.succ.inj long), and_assoc]

theorem Block.names_toJson (b : Block) (declsName stmtsName : String) :
    (b.toJson form declsName stmtsName).map Prod.fst = [declsName, stmtsName] := by
  cases b
  rfl

mutual

theorem Decl.same_toJson (a b : Decl) :
    (a.toJson form).same (b.toJson form) = true ↔
      form.seen Decl.erase a = form.seen Decl.erase b := by
  by_cases kinds : a.kind = b.kind
  · cases a with
    | var pos type name =>
      cases b <;> cases kinds
      rw [Decl.toJson, Decl.toJson, same_nodeObject ["var_type", "name"] rfl rfl (by decide)]
      simp only [List.forall₂_cons, TypeExpr.same_toJson, Ident.same_toJson]
      cases form <;> simp [JsonForm.seen, Decl.erase]
    | func pos returnType name formals bodyPos body =>
      cases b <;> cases kinds
      rw [Decl.toJson, Decl.toJson,
        same_nodeObject ["return_type", "name", "formals", "body"] rfl rfl (by decide)]
      simp only [List.forall₂_cons, TypeExpr.same_toJson, Ident.same_toJson, Formals.same_toJson,
        same_nodeObject ["decls", "stmts"] (Block.names_toJson ..) (Block.names_toJson ..)
          (by decide), Block.same_toJson body]
      cases form <;> simp [JsonForm.seen, Decl.erase]
    | struct pos name fieldsPos fields =>
      cases b <;> cases kinds
      rw [Decl.toJson, Decl.toJson, same_nodeObject ["name", "fields"] rfl rfl (by decide)]
      simp only [List.forall₂_cons, Ident.same_toJson, same_listObject "decls" (by decide),
        Decl.sameItems_toJsonAll fields]
      cases form <;> simp [JsonForm.seen, Decl.erase]
  · exact iff_of_false (mt Decl.kind_of_same kinds)
      (mt (JsonForm.kind_of_seen Decl.kind_erase) kinds)

theorem Stmt.same_toJson (a b : Stmt) :
    (a.toJson form).same (b.toJson form) = true ↔
      form.seen Stmt.erase a = form.seen Stmt.erase b := by
  by_cases kinds : a.kind = b.kind
  · cases a with
    | assign pos assignment =>
      cases b <;> cases kinds
      rw [Stmt.toJson, Stmt.toJson, same_nodeObject ["assignment"] rfl rfl (by decide)]
      simp only [List.forall₂_cons, Assignment.same_toJson]
      cases form <;> simp [JsonForm.seen, Stmt.erase]
    | call pos call =>
      cases b <;> cases kinds
      rw [Stmt.toJson, Stmt.toJson, same_nodeObject ["call"] rfl rfl (by decide)]
      simp only [List.forall₂_cons, Call.same_toJson]
      cases form <;> simp [JsonForm.seen, Stmt.erase]
    | increment pos e | decrement pos e | read pos e | write pos e =>
      cases b <;> cases kinds
      rw [Stmt.toJson, Stmt.toJson, same_nodeObject ["expression"] rfl rfl (by decide)]
      simp only [List.forall₂_cons, Expr.same_toJson]
      cases form <;> simp [JsonForm.seen, Stmt.erase]
    | ifThen pos cond body | loop pos cond body =>
      cases b <;> cases kinds
      rw [Stmt.toJson, Stmt.toJson, same_nodeObject ["condition", "decls", "stmts"]
        (by simp only [List.map_cons, Block.names_toJson])
        (by simp only [List.map_cons, Block.names_toJson]) (by decide)]
      simp only [List.forall₂_cons, Expr.same_toJson, Block.same_toJson body]
      cases form <;> simp [JsonForm.seen, Stmt.erase]
    | ifElse pos cond yes no =>
      cases b <;> cases kinds
      have long (b b' : Block) : (b.toJson form "then_decls" "then_stmts").length =
          (b'.toJson form "then_decls" "then_stmts").length := by
        cases b
        cases b'
        rfl
      rw [Stmt.toJson, Stmt.toJson, same_nodeObject
        ["condition", "then_decls", "then_stmts", "else_decls", "else_stmts"]
        (by simp only [List.map_cons, List.map_append, Block.names_toJson, List.cons_append,
          List.nil_append])
        (by simp only [List.map_cons, List.map_append, Block.names_toJson, List.cons_append,
          List.nil_append]) (by decide)]
      simp only [List.forall₂_cons, Expr.same_toJson, forall₂_append_iff (long _ _),
        Block.same_toJson yes, Block.same_toJson no]
      cases form <;> simp [JsonForm.seen, Stmt.erase]
    | ret pos value =>
      cases b with
      | ret pos' value' =>
        cases value <;> cases value' <;>
          rw [Stmt.toJson, Stmt.toJson, same_nodeObject ["expression"] rfl rfl (by decide)] <;>
          simp only [List.forall₂_cons, Expr.same_toJson, Expr.same_null, Expr.null_same] <;>
          cases form <;> simp [JsonForm.seen, Stmt.erase, Value.same]
      | _ => cases kinds
  · exact iff_of_false (mt Stmt.kind_of_same kinds)
      (mt (JsonForm.kind_of_seen Stmt.kind_erase) kinds)

theorem Block.same_toJson (a b : Block) (declsName stmtsName : String) :
    List.Forall₂ (fun a b => a.2.same b.2 = true) (a.toJson form declsName stmtsName)
        (b.toJson form declsName stmtsName) ↔
      form.seen Block.erase a = form.seen Block.erase b := by
  obtain ⟨declsPos, decls, stmtsPos, stmts⟩ := a
  obtain ⟨declsPos', decls', stmtsPos', stmts'⟩ := b
  rw [Block.toJson, Block.toJson]
  simp only [List.forall₂_cons, same_listObject "decls" (by decide),
    same_listObject "statements" (by decide), Decl.sameItems_toJsonAll decls,
    Stmt.sameItems_toJsonAll stmts]
  cases form <;> simp [JsonForm.seen, Block.erase, and_assoc]

theorem Decl.sameItems_toJsonAll (as bs : List Decl) :
    Value.sameItems (Decl.toJsonAll form as) (Decl.toJsonAll form bs) = true ↔
      form.seen Decl.eraseAll as = form.seen Decl.eraseAll bs := by
  cases as with
  | nil =>
    cases bs <;> cases form <;> simp [Decl.toJsonAll, Value.sameItems, JsonForm.seen, Decl.eraseAll]
  | cons a as =>
    cases bs with
    | nil => cases form <;> simp [Decl.toJsonAll, Value.sameItems, JsonForm.seen, Decl.eraseAll]
    | cons b bs =>
      rw [Decl.toJsonAll, Decl.toJsonAll, Value.sameItems, Bool.and_eq_true, Decl.same_toJson a,
        Decl.sameItems_toJsonAll as]
      cases form <;> simp [JsonForm.seen, Decl.eraseAll]

theorem Stmt.sameItems_toJsonAll (as bs : List Stmt) :
    Value.sameItems (Stmt.toJsonAll form as) (Stmt.toJsonAll form bs) = true ↔
      form.seen Stmt.eraseAll as = form.seen Stmt.eraseAll bs := by
  cases as with
  | nil =>
    cases bs <;> cases form <;> simp [Stmt.toJsonAll, Value.sameItems, JsonForm.seen, Stmt.eraseAll]
  | cons a as =>
    cases bs with
    | nil => cases form <;> simp [Stmt.toJsonAll, Value.sameItems, JsonForm.seen, Stmt.eraseAll]
    | cons b bs =>
      rw [Stmt.toJsonAll, Stmt.toJsonAll, Value.sameItems, Bool.and_eq_true, Stmt.same_toJson a,
        Stmt.sameItems_toJsonAll as]
      cases form <;> simp [JsonForm.seen, Stmt.eraseAll]

end

theorem Formals.without_toJson (fs : Formals) :
    (fs.toJson .full).without ["line", "column", "symbol"] = fs.toJson .structural := by
  obtain ⟨pos, items⟩ := fs
  have all : Value.itemsWithout ["line", "column", "symbol"]
      (items.map (Formal.toJson .full)) = items.map (Formal.toJson .structural) := by
    induction items with
    | nil => rfl
    | cons f items ih => rw [List.map_cons, Value.itemsWithout, f.without_toJson, ih, List.map_cons]
  rw [toJson, without_nodeObject, toJson]
  simp [Value.membersWithout, Value.without, all]

theorem Json.Value.membersWithout_append (names : List String) (as bs : List (String × Value)) :
    membersWithout names (as ++ bs) = membersWithout names as ++ membersWithout names bs := by
  induction as with
  | nil => rfl
  | cons a as ih =>
    obtain ⟨name, a⟩ := a
    rw [List.cons_append, membersWithout, membersWithout, ih]
    split <;> rfl

mutual

theorem Decl.without_toJson (d : Decl) :
    (d.toJson .full).without ["line", "column", "symbol"] = d.toJson .structural := by
  cases d with
  | var pos type name =>
    rw [Decl.toJson, without_nodeObject, Decl.toJson]
    simp [Value.membersWithout, TypeExpr.without_toJson, Ident.without_toJson]
  | func pos returnType name formals bodyPos body =>
    have parts := Block.membersWithout_toJson body "decls" "stmts" (by decide) (by decide)
    rw [Decl.toJson, without_nodeObject, Decl.toJson]
    simp [Value.membersWithout, TypeExpr.without_toJson, Ident.without_toJson,
      Formals.without_toJson, without_nodeObject, parts]
  | struct pos name fieldsPos fields =>
    rw [Decl.toJson, without_nodeObject, Decl.toJson]
    simp [Value.membersWithout, Ident.without_toJson, without_nodeObject, Value.without,
      Decl.itemsWithout_toJsonAll fields]

theorem Stmt.without_toJson (s : Stmt) :
    (s.toJson .full).without ["line", "column", "symbol"] = s.toJson .structural := by
  cases s with
  | assign pos a =>
    rw [Stmt.toJson, without_nodeObject, Stmt.toJson]
    simp [Value.membersWithout, Expr.without_toJson]
  | call pos c =>
    rw [Stmt.toJson, without_nodeObject, Stmt.toJson]
    simp [Value.membersWithout, Expr.without_toJson]
  | increment pos e | decrement pos e | read pos e | write pos e =>
    rw [Stmt.toJson, without_nodeObject, Stmt.toJson]
    simp [Value.membersWithout, Expr.without_toJson]
  | ifThen pos cond body | loop pos cond body =>
    have parts := Block.membersWithout_toJson body "decls" "stmts" (by decide) (by decide)
    rw [Stmt.toJson, without_nodeObject, Stmt.toJson]
    simp [Value.membersWithout, Expr.without_toJson, parts]
  | ifElse pos cond yes no =>
    have parts := Block.membersWithout_toJson yes "then_decls" "then_stmts" (by decide) (by decide)
    have parts' := Block.membersWithout_toJson no "else_decls" "else_stmts" (by decide) (by decide)
    rw [Stmt.toJson, without_nodeObject, Stmt.toJson]
    simp [Value.membersWithout, Value.membersWithout_append, Expr.without_toJson, parts, parts']
  | ret pos value =>
    cases value <;>
      rw [Stmt.toJson, without_nodeObject, Stmt.toJson] <;>
      simp [Value.membersWithout, Value.without, Expr.without_toJson]

theorem Block.membersWithout_toJson (b : Block) (declsName stmtsName : String)
    (kept : declsName ∉ ["line", "column", "symbol"])
    (kept' : stmtsName ∉ ["line", "column", "symbol"]) :
    Value.membersWithout ["line", "column", "symbol"] (b.toJson .full declsName stmtsName) =
      b.toJson .structural declsName stmtsName := by
  obtain ⟨declsPos, decls, stmtsPos, stmts⟩ := b
  rw [Block.toJson, Block.toJson, Value.membersWithout, if_neg kept, Value.membersWithout,
    if_neg kept', without_nodeObject, without_nodeObject]
  simp [Value.membersWithout, Value.without, Decl.itemsWithout_toJsonAll decls,
    Stmt.itemsWithout_toJsonAll stmts]

theorem Decl.itemsWithout_toJsonAll (ds : List Decl) :
    Value.itemsWithout ["line", "column", "symbol"] (Decl.toJsonAll .full ds) =
      Decl.toJsonAll .structural ds := by
  cases ds with
  | nil => rfl
  | cons d ds =>
    rw [Decl.toJsonAll, Value.itemsWithout, Decl.without_toJson d, Decl.itemsWithout_toJsonAll ds,
      Decl.toJsonAll]

theorem Stmt.itemsWithout_toJsonAll (ss : List Stmt) :
    Value.itemsWithout ["line", "column", "symbol"] (Stmt.toJsonAll .full ss) =
      Stmt.toJsonAll .structural ss := by
  cases ss with
  | nil => rfl
  | cons s ss =>
    rw [Stmt.toJsonAll, Value.itemsWithout, Stmt.without_toJson s, Stmt.itemsWithout_toJsonAll ss,
      Stmt.toJsonAll]

end

theorem Program.same_toJson (a b : Program) :
    (a.toJson form).same (b.toJson form) = true ↔
      form.seen Program.erase a = form.seen Program.erase b := by
  obtain ⟨pos, declsPos, decls⟩ := a
  obtain ⟨pos', declsPos', decls'⟩ := b
  rw [toJson, toJson, same_nodeObject ["decls"] rfl rfl (by decide)]
  simp only [List.forall₂_cons, declListJson, same_listObject "decls" (by decide),
    Decl.sameItems_toJsonAll]
  cases form <;> simp [JsonForm.seen, erase]

/-! ## Any node -/

/-- A node without positions and symbols. -/
def Node.erase : Node → Node
  | program p => program p.erase
  | declList _ decls => declList {} (Decl.eraseAll decls)
  | decl d => decl d.erase
  | formals fs => formals fs.erase
  | formal f => formal f.erase
  | body _ block => body {} block.erase
  | stmtList _ stmts => stmtList {} (Stmt.eraseAll stmts)
  | stmt s => stmt s.erase
  | exprList _ exprs => exprList {} (Expr.eraseAll exprs)
  | expr e => expr e.erase
  | type t => type t.erase

/-- A kind that stands for all kinds of its sort. -/
def NodeKind.sort : NodeKind → NodeKind
  | varDecl | funcDecl | structDecl => varDecl
  | intType | boolType | voidType | structType => intType
  | assignStmt | postIncStmt | postDecStmt | readStmt | writeStmt | ifStmt | ifElseStmt | whileStmt
  | callStmt | returnStmt => returnStmt
  | intLiteral | stringLiteral | boolLiteral | identifier | dotAccess | assignment | funcCall
  | unaryOp | binaryOp => identifier
  | kind => kind

namespace Node

theorem kind_erase (n : Node) : n.erase.kind = n.kind := by
  cases n with
  | decl d => exact d.kind_erase
  | stmt s => exact s.kind_erase
  | expr e => exact e.kind_erase
  | type t => exact t.kind_erase
  | _ => rfl

theorem toJson_eq (form : JsonForm) (n : Node) :
    ∃ parts, n.toJson form = nodeObject form n.kind n.pos parts := by
  cases n with
  | decl d => cases d <;> exact ⟨_, rfl⟩
  | stmt s => exact s.toJson_eq form
  | expr e => exact e.toJson_eq form
  | type t => exact ⟨_, rfl⟩
  | _ => exact ⟨_, rfl⟩

theorem kind_of_same {a b : Node} (same : (a.toJson form).same (b.toJson form) = true) :
    a.kind = b.kind := by
  obtain ⟨parts, eq⟩ := a.toJson_eq form
  obtain ⟨parts', eq'⟩ := b.toJson_eq form
  rw [eq, eq'] at same
  exact Minim.kind_of_same same

/-- The sort of a node, as a kind that stands for it. -/
def sort : Node → NodeKind
  | program _ => .program
  | declList _ _ => .declList
  | decl _ => .varDecl
  | formals _ => .formalsList
  | formal _ => .formalDecl
  | body _ _ => .funcBody
  | stmtList _ _ => .stmtList
  | stmt _ => .returnStmt
  | exprList _ _ => .expList
  | expr _ => .identifier
  | type _ => .intType

theorem sort_kind (n : Node) : n.kind.sort = n.sort := by
  cases n with
  | decl d => cases d <;> rfl
  | stmt s => cases s <;> rfl
  | expr e => cases e <;> rfl
  | type t => cases t <;> rfl
  | _ => rfl

/-- Two nodes have equal objects if and only if what the form shows of them is the same. -/
theorem same_toJson (a b : Node) :
    (a.toJson form).same (b.toJson form) = true ↔
      form.seen Node.erase a = form.seen Node.erase b := by
  by_cases kinds : a.kind = b.kind
  · have sorts : a.sort = b.sort := by rw [← sort_kind, kinds, sort_kind]
    cases a with
    | program p =>
      cases b <;> cases sorts
      rw [toJson, toJson, Program.same_toJson]
      cases form <;> simp [JsonForm.seen, erase]
    | declList pos decls =>
      cases b <;> cases sorts
      rw [toJson, toJson, declListJson, declListJson, same_listObject "decls" (by decide),
        Decl.sameItems_toJsonAll]
      cases form <;> simp [JsonForm.seen, erase]
    | stmtList pos stmts =>
      cases b <;> cases sorts
      rw [toJson, toJson, same_listObject "statements" (by decide), Stmt.sameItems_toJsonAll]
      cases form <;> simp [JsonForm.seen, erase]
    | exprList pos exprs =>
      cases b <;> cases sorts
      rw [toJson, toJson, same_listObject "expressions" (by decide), Expr.sameItems_toJsonAll]
      cases form <;> simp [JsonForm.seen, erase]
    | body pos block =>
      cases b <;> cases sorts
      rw [toJson, toJson, same_nodeObject ["decls", "stmts"] (Block.names_toJson ..)
        (Block.names_toJson ..) (by decide), Block.same_toJson]
      cases form <;> simp [JsonForm.seen, erase]
    | decl d =>
      cases b <;> cases sorts
      rw [toJson, toJson, Decl.same_toJson]
      cases form <;> simp [JsonForm.seen, erase]
    | formals fs =>
      cases b <;> cases sorts
      rw [toJson, toJson, Formals.same_toJson]
      cases form <;> simp [JsonForm.seen, erase]
    | formal f =>
      cases b <;> cases sorts
      rw [toJson, toJson, Formal.same_toJson]
      cases form <;> simp [JsonForm.seen, erase]
    | stmt s =>
      cases b <;> cases sorts
      rw [toJson, toJson, Stmt.same_toJson]
      cases form <;> simp [JsonForm.seen, erase]
    | expr e =>
      cases b <;> cases sorts
      rw [toJson, toJson, Expr.same_toJson]
      cases form <;> simp [JsonForm.seen, erase]
    | type t =>
      cases b <;> cases sorts
      rw [toJson, toJson, TypeExpr.same_toJson]
      cases form <;> simp [JsonForm.seen, erase]
  · exact iff_of_false (mt kind_of_same kinds) (mt (JsonForm.kind_of_seen kind_erase) kinds)

/-- The structural form is the full form without lines, columns and symbols. -/
theorem without_toJson (n : Node) :
    (n.toJson .full).without ["line", "column", "symbol"] = n.toJson .structural := by
  cases n with
  | program p =>
    rw [toJson, Program.toJson, without_nodeObject, toJson, Program.toJson]
    simp [Value.membersWithout, declListJson, without_nodeObject, Value.without,
      Decl.itemsWithout_toJsonAll]
  | declList pos decls =>
    rw [toJson, declListJson, without_nodeObject, toJson, declListJson]
    simp [Value.membersWithout, Value.without, Decl.itemsWithout_toJsonAll]
  | stmtList pos stmts =>
    rw [toJson, without_nodeObject, toJson]
    simp [Value.membersWithout, Value.without, Stmt.itemsWithout_toJsonAll]
  | exprList pos exprs =>
    rw [toJson, without_nodeObject, toJson]
    simp [Value.membersWithout, Value.without, Expr.itemsWithout_toJsonAll]
  | body pos block =>
    rw [toJson, without_nodeObject, toJson,
      Block.membersWithout_toJson block "decls" "stmts" (by decide) (by decide)]
  | decl d => exact d.without_toJson
  | formals fs => exact fs.without_toJson
  | formal f => exact f.without_toJson
  | stmt s => exact s.without_toJson
  | expr e => exact e.without_toJson
  | type t => exact t.without_toJson

/-- **The JSON forms of a tree lose nothing that they show.** Two trees have equal full forms if and
only if they are the same tree, by every line, column and symbol; they have equal structural forms
if and only if they become the same tree without these; and the structural form is the full form
without their members, at every level. -/
theorem toJson_faithful (a b : Node) :
    ((a.toJson .full).same (b.toJson .full) = true ↔ a = b) ∧
      ((a.toJson .structural).same (b.toJson .structural) = true ↔ a.erase = b.erase) ∧
      a.toJson .structural = (a.toJson .full).without ["line", "column", "symbol"] :=
  ⟨same_toJson a b, same_toJson a b, a.without_toJson.symm⟩

end Node

end Minim
