import Minim.Proofs.Parser.Statement

/-!
# Reading declarations and programs

The two tokens after the keyword tell a struct declaration from a variable or a function of a struct
type; the parenthesis after the name tells a function from a variable. The semicolon after a struct
is taken where there is one, so a struct declaration without it is read as such only where none
follows, and nothing that can follow it in a program is a semicolon.
-/

namespace Minim.Parser

open Grammar

/-! ## Formal parameters -/

theorem formal_sound {s t : TokenStream} {f : Minim.Formal} (run : formal s = .ok f t) :
    ∃ u, s.Reads u t ∧ Nonempty (Grammar.Formal u f) := by
  rw [formal] at run
  obtain ⟨ty, m, typeRun, run⟩ := bind_eq_ok.mp run
  obtain ⟨name, m', nameRun, result⟩ := bind_eq_ok.mp run
  obtain ⟨u, reads, ⟨written⟩⟩ := type_sound typeRun
  obtain ⟨isName, rfl, rfl⟩ := identifier_eq_ok.mp nameRun
  obtain ⟨rfl, rfl⟩ := pure_eq_ok.mp result
  exact ⟨_, reads.trans (.single (by simp [isName])), ⟨.mk written isName⟩⟩

theorem formal_complete {u : List Token} {f : Minim.Formal} (h : Grammar.Formal u f)
    {s t : TokenStream} (reads : s.Reads u t) : formal s = .ok f t := by
  obtain ⟨written, name⟩ := h
  obtain ⟨m, typeReads, nameReads⟩ := reads.split
  obtain ⟨rfl, rfl⟩ := nameReads.of_single
  rw [formal, bind_of_ok (type_complete written typeReads),
    bind_of_ok (identifier_eq_ok.mpr ⟨name, rfl, rfl⟩)]
  rfl

theorem moreFormals_sound {limit : Nat} {s t : TokenStream} {fs : List Minim.Formal}
    (run : moreFormals limit s = .ok fs t) :
    ∃ u, s.Reads u t ∧ Nonempty (MoreFormals u fs) := by
  induction limit generalizing s fs with
  | zero =>
    obtain ⟨rfl, rfl⟩ := pure_eq_ok.mp run
    exact ⟨[], .refl _, ⟨.done⟩⟩
  | succ limit ih =>
    rw [moreFormals, accept_bind] at run
    by_cases comma : s.current.kind = .comma
    · rw [if_pos comma, if_pos rfl] at run
      obtain ⟨next, m, nextRun, run⟩ := bind_eq_ok.mp run
      obtain ⟨others, m', othersRun, result⟩ := bind_eq_ok.mp run
      obtain ⟨rfl, rfl⟩ := pure_eq_ok.mp result
      obtain ⟨u, nextReads, ⟨next⟩⟩ := formal_sound nextRun
      obtain ⟨v, othersReads, ⟨others⟩⟩ := ih othersRun
      exact ⟨_, .cons (by simp [comma]) (nextReads.trans othersReads), ⟨.more comma next others⟩⟩
    · rw [if_neg comma, if_neg Bool.false_ne_true] at run
      obtain ⟨rfl, rfl⟩ := pure_eq_ok.mp run
      exact ⟨[], .refl _, ⟨.done⟩⟩

theorem moreFormals_complete {u : List Token} {fs : List Minim.Formal} (h : MoreFormals u fs)
    {s t : TokenStream} (reads : s.Reads u t) (stop : t.current.kind ≠ .comma) {limit : Nat}
    (enough : u.length ≤ limit) : moreFormals limit s = .ok fs t := by
  induction h generalizing s limit with
  | done =>
    obtain rfl := reads.eq_nil
    cases limit with
    | zero => rfl
    | succ limit =>
      rw [moreFormals, accept_bind, if_neg stop]
      rfl
  | more comma next others ih =>
    rw [List.length_cons, List.length_append] at enough
    obtain ⟨limit, rfl⟩ : ∃ l, limit = l + 1 := ⟨limit - 1, by omega⟩
    obtain rfl := reads.head
    obtain ⟨m, nextReads, othersReads⟩ := reads.tail.split
    rw [moreFormals, accept_bind, if_pos comma, if_pos rfl,
      bind_of_ok (formal_complete next nextReads), bind_of_ok (ih othersReads (by omega))]
    rfl

theorem formals_sound {s t : TokenStream} {fs : Minim.Formals} (run : formals s = .ok fs t) :
    ∃ o u c, s.Reads (o :: (u ++ [c])) t ∧ o.kind = .lparen ∧ Nonempty (FormalItems u fs.items) ∧
      c.kind = .rparen ∧ fs.pos = o.pos := by
  rw [formals] at run
  obtain ⟨o, m, openingRun, run⟩ := bind_eq_ok.mp run
  obtain ⟨opening, rfl, rfl⟩ := expect_eq_ok.mp openingRun
  rw [current_bind] at run
  by_cases closing : s.advance.current.kind = .rparen
  · rw [if_pos closing] at run
    obtain ⟨c, m', closingRun, result⟩ := bind_eq_ok.mp run
    obtain ⟨-, rfl, rfl⟩ := expect_eq_ok.mp closingRun
    obtain ⟨rfl, rfl⟩ := pure_eq_ok.mp result
    refine ⟨_, [], _, .cons (by simp [opening]) (.single (by simp [closing])), opening, ?_⟩
    exact ⟨⟨.none⟩, closing, rfl⟩
  · rw [if_neg closing] at run
    obtain ⟨first, m', firstRun, run⟩ := bind_eq_ok.mp run
    rw [get_bind] at run
    obtain ⟨others, m'', othersRun, run⟩ := bind_eq_ok.mp run
    obtain ⟨c, m''', closingRun, result⟩ := bind_eq_ok.mp run
    obtain ⟨u, firstReads, ⟨first⟩⟩ := formal_sound firstRun
    obtain ⟨v, othersReads, ⟨others⟩⟩ := moreFormals_sound othersRun
    obtain ⟨closing, rfl, rfl⟩ := expect_eq_ok.mp closingRun
    obtain ⟨rfl, rfl⟩ := pure_eq_ok.mp result
    refine ⟨_, u ++ v, _, .cons (by simp [opening]) ((firstReads.trans othersReads).trans
      (.single (by simp [closing]))), opening, ?_⟩
    exact ⟨⟨.some first others⟩, closing, rfl⟩

theorem kind_of_typeName {u v : List Token} {ty : TypeExpr} (h : TypeName u ty)
    {s t : TokenStream} (reads : s.Reads (u ++ v) t) :
    s.current.kind ∈ [.intType, .boolType, .voidType, .structWord] := by
  cases h with
  | int keyword | bool keyword | void keyword | struct keyword =>
    obtain rfl := reads.head
    rw [keyword]
    decide

theorem formals_complete {o c : Token} {u : List Token} {fs : List Minim.Formal}
    (opening : o.kind = .lparen) (h : FormalItems u fs) (closing : c.kind = .rparen)
    {s t : TokenStream} (reads : s.Reads (o :: (u ++ [c])) t) :
    formals s = .ok { pos := o.pos, items := fs } t := by
  obtain rfl := reads.head
  obtain ⟨m, itemsReads, closingReads⟩ := reads.tail.split
  obtain ⟨rfl, rfl⟩ := closingReads.of_single
  rw [formals, bind_of_ok (expect_eq_ok.mpr ⟨opening, rfl, rfl⟩), current_bind]
  cases h with
  | none =>
    obtain rfl := itemsReads.eq_nil
    rw [if_pos closing, bind_of_ok (expect_eq_ok.mpr ⟨closing, rfl, rfl⟩)]
    rfl
  | some first others =>
    obtain ⟨m', firstReads, othersReads⟩ := itemsReads.split
    have notClosing : s.advance.current.kind ≠ .rparen := by
      intro kind
      obtain ⟨written, -⟩ := first
      have word := kind_of_typeName written firstReads
      rw [kind] at word
      exact absurd word (by decide)
    have stop : m.current.kind ≠ .comma := by
      rw [closing]
      decide
    rw [if_neg notClosing, bind_of_ok (formal_complete first firstReads), get_bind,
      bind_of_ok (moreFormals_complete others othersReads stop
        (by rw [othersReads.length]; omega)),
      bind_of_ok (expect_eq_ok.mpr ⟨closing, rfl, rfl⟩)]
    rfl

/-! ## Declarations -/

theorem structDecl_sound {s t : TokenStream} {d : Decl} (run : structDecl s = .ok d t) :
    ∃ u, s.Reads u t ∧ Nonempty (Declaration u d) := by
  rw [structDecl] at run
  obtain ⟨k, m₁, keywordRun, run⟩ := bind_eq_ok.mp run
  obtain ⟨name, m₂, nameRun, run⟩ := bind_eq_ok.mp run
  obtain ⟨o, m₃, openingRun, run⟩ := bind_eq_ok.mp run
  obtain ⟨⟨pos, ds⟩, m₄, fieldsRun, run⟩ := bind_eq_ok.mp run
  obtain ⟨c, m₅, closingRun, run⟩ := bind_eq_ok.mp run
  obtain ⟨keyword, rfl, rfl⟩ := expect_eq_ok.mp keywordRun
  obtain ⟨isName, rfl, rfl⟩ := identifier_eq_ok.mp nameRun
  obtain ⟨opening, rfl, rfl⟩ := expect_eq_ok.mp openingRun
  obtain ⟨rfl, -, u, fieldsReads, ⟨fields⟩⟩ := variableDecls_sound fieldsRun
  obtain ⟨closing, rfl, rfl⟩ := require_eq_ok.mp closingRun
  rw [accept_bind] at run
  by_cases semicolon : m₄.advance.current.kind = .semicolon
  · rw [if_pos semicolon] at run
    obtain ⟨rfl, rfl⟩ := pure_eq_ok.mp run
    have reads := fieldsReads.trans (.cons (by simp [closing]) (.single (by simp [semicolon])))
    refine ⟨_, .cons (by simp [keyword]) (.cons (by simp [isName])
      (.cons (by simp [opening]) reads)), ?_⟩
    rw [← reads.startOf (by simp)]
    exact ⟨.structEnded keyword isName opening fields closing semicolon⟩
  · rw [if_neg semicolon] at run
    obtain ⟨rfl, rfl⟩ := pure_eq_ok.mp run
    have reads := fieldsReads.trans (.single (by simp [closing]))
    refine ⟨_, .cons (by simp [keyword]) (.cons (by simp [isName])
      (.cons (by simp [opening]) reads)), ?_⟩
    rw [← reads.startOf (by simp)]
    exact ⟨.struct keyword isName opening fields closing⟩

theorem block_ne_nil {u : List Token} {b : Minim.Block} (h : Grammar.Block u b) : u ≠ [] := by
  obtain ⟨-, -, -, -⟩ := h
  exact List.cons_ne_nil _ _

theorem declaration_sound {s t : TokenStream} {d : Decl} (run : declaration s = .ok d t) :
    ∃ u, s.Reads u t ∧ Nonempty (Declaration u d) := by
  rw [declaration, get_bind] at run
  by_cases isStruct : s.atStructDecl = true
  · rw [if_pos isStruct] at run
    exact structDecl_sound run
  · rw [if_neg isStruct] at run
    obtain ⟨ty, m₁, typeRun, run⟩ := bind_eq_ok.mp run
    obtain ⟨name, m₂, nameRun, run⟩ := bind_eq_ok.mp run
    obtain ⟨u, reads, ⟨written⟩⟩ := type_sound typeRun
    obtain ⟨isName, rfl, rfl⟩ := identifier_eq_ok.mp nameRun
    rw [current_bind] at run
    by_cases paren : m₁.advance.current.kind = .lparen
    · rw [if_pos paren, functionRest] at run
      obtain ⟨fs, m₃, formalsRun, run⟩ := bind_eq_ok.mp run
      rw [current_bind] at run
      obtain ⟨body, m₄, bodyRun, result⟩ := bind_eq_ok.mp run
      obtain ⟨o, v, c, formalsReads, opening, ⟨items⟩, closing, same⟩ := formals_sound formalsRun
      obtain ⟨w, bodyReads, ⟨block⟩⟩ := block_sound bodyRun
      obtain ⟨rfl, rfl⟩ := pure_eq_ok.mp result
      have reads' := reads.trans (.cons (by simp [isName]) (formalsReads.trans bodyReads))
      refine ⟨_, reads', ?_⟩
      rw [← bodyReads.startOf (block_ne_nil block)]
      obtain ⟨pos, fs⟩ := fs
      obtain rfl : pos = o.pos := same
      simpa using ⟨Declaration.func written isName opening items closing block⟩
    · rw [if_neg paren] at run
      obtain ⟨c, m₃, semicolonRun, result⟩ := bind_eq_ok.mp run
      obtain ⟨semicolon, rfl, rfl⟩ := require_eq_ok.mp semicolonRun
      obtain ⟨rfl, rfl⟩ := pure_eq_ok.mp result
      refine ⟨_, reads.trans (.cons (by simp [isName]) (.single (by simp [semicolon]))), ?_⟩
      exact ⟨.var (.mk written isName semicolon)⟩

theorem not_atVariableDecl_of_rbrace {c : Token} (closing : c.kind = .rbrace) {v : List Token}
    ⦃s : TokenStream⦄ (rest : s.rest = c :: v) : s.atVariableDecl = false := by
  refine atVariableDecl_of_kind ?_
  rw [TokenStream.current, rest, List.headD_cons, closing]
  decide

/-- A struct declaration is read up to its brace, and then a semicolon if there is one. -/
theorem structDecl_run {k n o c : Token} {u : List Token} {ds : List Decl}
    (keyword : k.kind = .structWord) (name : n.kind = .identifier) (opening : o.kind = .lbrace)
    (fields : Variables u ds) (closing : c.kind = .rbrace) {s t : TokenStream}
    (reads : s.Reads (k :: n :: o :: (u ++ [c])) t) :
    structDecl s =
      .ok (.struct k.pos n.ident (startOf (u ++ [c])) ds)
        (if t.current.kind = .semicolon then t.advance else t) := by
  obtain rfl := reads.head
  obtain rfl := reads.tail.head
  obtain rfl := reads.tail.tail.head
  have reads' := reads.tail.tail.tail
  obtain ⟨m, fieldsReads, closingReads⟩ := reads'.split
  have stop := not_atVariableDecl_of_rbrace closing closingReads.rest
  obtain ⟨rfl, rfl⟩ := closingReads.of_single
  rw [structDecl, bind_of_ok (expect_eq_ok.mpr ⟨keyword, rfl, rfl⟩),
    bind_of_ok (identifier_eq_ok.mpr ⟨name, rfl, rfl⟩),
    bind_of_ok (expect_eq_ok.mpr ⟨opening, rfl, rfl⟩),
    bind_of_ok (variableDecls_complete fields fieldsReads stop), reads'.startOf (by simp)]
  simp only
  rw [bind_of_ok (require_eq_ok.mpr ⟨closing, rfl, rfl⟩), accept_bind]
  by_cases semicolon : m.advance.current.kind = .semicolon
  · rw [if_pos semicolon, if_pos semicolon]
    rfl
  · rw [if_neg semicolon, if_neg semicolon]
    rfl

theorem declaration_of_struct {k n o : Token} {u : List Token} (keyword : k.kind = .structWord)
    (name : n.kind = .identifier) (opening : o.kind = .lbrace) {s t : TokenStream}
    (reads : s.Reads (k :: n :: o :: u) t) : declaration s = structDecl s := by
  have isStruct : s.atStructDecl = true := by
    simp [TokenStream.atStructDecl, TokenStream.current, TokenStream.ahead, reads.rest, keyword,
      name, opening]
  rw [declaration, get_bind, if_pos isStruct]

/-- Every declaration is read where no semicolon follows it. -/
theorem declaration_complete {u : List Token} {d : Decl} (h : Declaration u d)
    {s t : TokenStream} (reads : s.Reads u t) (notEnded : t.current.kind ≠ .semicolon) :
    declaration s = .ok d t := by
  cases h with
  | var decl =>
    obtain ⟨written, name, semicolon⟩ := decl
    obtain ⟨m, typeReads, nameReads⟩ := reads.split
    obtain rfl := nameReads.head
    obtain ⟨rfl, rfl⟩ := nameReads.tail.of_single
    have notStruct := (at_of_typeName written name reads).1
    have notParen : m.advance.current.kind ≠ .lparen := by
      rw [semicolon]
      decide
    rw [declaration, get_bind, if_neg (by simp [notStruct]),
      bind_of_ok (type_complete written typeReads),
      bind_of_ok (identifier_eq_ok.mpr ⟨name, rfl, rfl⟩), current_bind, if_neg notParen,
      bind_of_ok (require_eq_ok.mpr ⟨semicolon, rfl, rfl⟩)]
    rfl
  | @func u v w n o c ty fs body written name opening items closing block =>
    have notStruct := (at_of_typeName written name reads).1
    obtain ⟨m, typeReads, nameReads⟩ := reads.split
    obtain rfl := nameReads.head
    have reads' : m.advance.Reads ((o :: (v ++ [c])) ++ w) t := by simpa using nameReads.tail
    obtain ⟨m', formalsReads, bodyReads⟩ := reads'.split
    have paren : m.advance.current.kind = .lparen := by rw [formalsReads.head, opening]
    rw [declaration, get_bind, if_neg (by simp [notStruct]),
      bind_of_ok (type_complete written typeReads),
      bind_of_ok (identifier_eq_ok.mpr ⟨name, rfl, rfl⟩), current_bind, if_pos paren, functionRest,
      bind_of_ok (formals_complete opening items closing formalsReads), current_bind,
      bind_of_ok (block_complete block bodyReads), bodyReads.startOf (block_ne_nil block)]
    rfl
  | struct keyword name opening fields closing =>
    rw [declaration_of_struct keyword name opening reads,
      structDecl_run keyword name opening fields closing reads, if_neg notEnded]
  | @structEnded k n o c e u ds keyword name opening fields closing semicolon =>
    have reads' : s.Reads ((k :: n :: o :: (u ++ [c])) ++ [e]) t := by simpa using reads
    obtain ⟨m, declReads, semicolonReads⟩ := reads'.split
    obtain ⟨rfl, rfl⟩ := semicolonReads.of_single
    have start : startOf (u ++ [c, m.current]) = startOf (u ++ [c]) := by cases u <;> rfl
    rw [declaration_of_struct keyword name opening reads,
      structDecl_run keyword name opening fields closing declReads, if_pos semicolon, start]

/-! ## Programs -/

/-- A declaration begins with the word of a type or with `struct`. -/
theorem kind_of_declaration {u v : List Token} {d : Decl} (h : Declaration u d)
    {s t : TokenStream} (reads : s.Reads (u ++ v) t) :
    s.current.kind ∈ [.intType, .boolType, .voidType, .structWord] := by
  cases h with
  | var decl =>
    obtain ⟨written, -, -⟩ := decl
    exact kind_of_typeName written (by simpa using reads)
  | func written => exact kind_of_typeName written (by simpa using reads)
  | struct keyword | structEnded keyword =>
    obtain rfl := reads.head
    rw [keyword]
    decide

theorem declaration_ne_nil {u : List Token} {d : Decl} (h : Declaration u d) : u ≠ [] := by
  cases h with
  | var decl => exact variable_ne_nil decl
  | func => exact List.append_ne_nil_of_right_ne_nil _ (List.cons_ne_nil _ _)
  | struct | structEnded => exact List.cons_ne_nil _ _

theorem kind_of_declarations {u : List Token} {ds : List Decl} (h : Declarations u ds)
    {s t : TokenStream} (reads : s.Reads u t) (atEnd : t.current.kind = .eof) :
    s.current.kind ≠ .semicolon ∧ (u ≠ [] → s.current.kind ≠ .eof) := by
  cases h with
  | nil =>
    obtain rfl := reads.eq_nil
    exact ⟨by rw [atEnd]; decide, fun h => absurd rfl h⟩
  | cons first others =>
    have word := kind_of_declaration first reads
    refine ⟨?_, fun _ => ?_⟩ <;>
    · intro kind
      rw [kind] at word
      exact absurd word (by decide)

theorem declarationItems_complete {u : List Token} {ds : List Decl} (h : Declarations u ds)
    {s t : TokenStream} (reads : s.Reads u t) (atEnd : t.current.kind = .eof) {limit : Nat}
    (enough : u.length ≤ limit) :
    itemsWhile (·.current.kind != .eof) declaration limit s = .ok ds t := by
  induction h generalizing s limit with
  | nil =>
    obtain rfl := reads.eq_nil
    exact itemsWhile_stop (by simp [atEnd])
  | cons first others ih =>
    obtain ⟨m, firstReads, othersReads⟩ := reads.split
    have positive := List.length_pos_iff.mpr (declaration_ne_nil first)
    have goes := (kind_of_declarations (.cons first others) reads atEnd).2
      (List.append_ne_nil_of_left_ne_nil (declaration_ne_nil first) _)
    rw [List.length_append] at enough
    obtain ⟨limit, rfl⟩ : ∃ l, limit = l + 1 := ⟨limit - 1, by omega⟩
    exact itemsWhile_next (by simpa using goes)
      (declaration_complete first firstReads (kind_of_declarations others othersReads atEnd).1)
      (ih othersReads (by omega))

theorem program_sound {s t : TokenStream} {T : Minim.Program} (run : program s = .ok T t) :
    ∃ u, s.Reads u t ∧ t.current.kind = .eof ∧ Nonempty (Grammar.Program t.current u T) := by
  rw [program, current_bind] at run
  obtain ⟨ds, m, declsRun, result⟩ := bind_eq_ok.mp run
  obtain ⟨rfl, rfl⟩ := pure_eq_ok.mp result
  obtain ⟨u, reads, ⟨decls⟩, stop⟩ := many_sound Declarations.nil Declarations.cons
    declaration_ne_nil (fun _ => declaration_sound)
    (fun atEnd => by simp [TokenStream.current, atEnd, Token.endOfList]) declsRun
  refine ⟨u, reads, by simpa using stop, ?_⟩
  rw [reads.current_eq]
  exact ⟨.mk decls⟩

theorem program_complete {u : List Token} {T : Minim.Program} {s t : TokenStream}
    (h : Grammar.Program t.current u T) (reads : s.Reads u t) (atEnd : t.current.kind = .eof) :
    program s = .ok T t := by
  obtain ⟨decls⟩ := h
  have declsRun : many (·.current.kind != .eof) declaration s = .ok _ t :=
    declarationItems_complete decls reads atEnd (by rw [reads.length]; omega)
  rw [program, current_bind, bind_of_ok declsRun, reads.current_eq]
  rfl

end Minim.Parser
