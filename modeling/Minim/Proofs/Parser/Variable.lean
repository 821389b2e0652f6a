import Minim.Proofs.Grammar.Program
import Minim.Proofs.Parser.Expression
import Minim.Syntax.Parser.Statement

/-!
# Reading types and variable declarations

A run of variable declarations ends at the first token where none begins; only the opening brace of
a struct declaration tells its first tokens from those of a variable of a struct type.
-/

namespace Minim

open Grammar

theorem TokenStream.Reads.startOf {s t : TokenStream} {u : List Token} (h : s.Reads u t)
    (nonempty : u ≠ []) : startOf u = s.current.pos := by
  cases u with
  | nil => exact absurd rfl nonempty
  | cons a w =>
    rw [h.head]
    rfl

namespace Parser

variable {α : Type}

/-! ## Items as long as one begins -/

theorem itemsWhile_stop {begins : TokenStream → Bool} {item : Parser α} {limit : Nat}
    {s : TokenStream} (stop : begins s = false) : itemsWhile begins item limit s = .ok [] s := by
  cases limit with
  | zero => rfl
  | succ limit =>
    rw [itemsWhile, get_bind, if_neg (by rw [stop]; exact Bool.false_ne_true)]
    rfl

theorem itemsWhile_next {begins : TokenStream → Bool} {item : Parser α} {limit : Nat}
    {s m t : TokenStream} {a : α} {as : List α} (goes : begins s = true)
    (first : item s = .ok a m) (others : itemsWhile begins item limit m = .ok as t) :
    itemsWhile begins item (limit + 1) s = .ok (a :: as) t := by
  rw [itemsWhile, get_bind, if_pos goes, bind_of_ok first, bind_of_ok others]
  rfl

/-- What a run of items reads, where `Item` is how an item is derived and `Items` is closed under
putting one more in front. The run ends where no item begins. -/
theorem itemsWhile_sound {begins : TokenStream → Bool} {item : Parser α}
    {Item : List Token → α → Type} {Items : List Token → List α → Type} (nil : Items [] [])
    (cons : ∀ {u v a as}, Item u a → Items v as → Items (u ++ v) (a :: as))
    (nonempty : ∀ {u a}, Item u a → u ≠ [])
    (sound : ∀ {s t a}, begins s = true → item s = .ok a t →
      ∃ u, s.Reads u t ∧ Nonempty (Item u a))
    (atEnd : ∀ {s}, s.rest = [] → begins s = false) {limit : Nat} {s t : TokenStream}
    {as : List α} (enough : s.rest.length ≤ limit)
    (run : itemsWhile begins item limit s = .ok as t) :
    ∃ u, s.Reads u t ∧ Nonempty (Items u as) ∧ begins t = false := by
  induction limit generalizing s as with
  | zero =>
    obtain ⟨rfl, rfl⟩ := pure_eq_ok.mp run
    exact ⟨[], .refl _, ⟨nil⟩, atEnd (List.length_eq_zero_iff.mp (Nat.le_zero.mp enough))⟩
  | succ limit ih =>
    rw [itemsWhile, get_bind] at run
    by_cases goes : begins s = true
    · rw [if_pos goes] at run
      obtain ⟨a, m, first, run⟩ := bind_eq_ok.mp run
      obtain ⟨as, m', others, result⟩ := bind_eq_ok.mp run
      obtain ⟨rfl, rfl⟩ := pure_eq_ok.mp result
      obtain ⟨u, reads, ⟨isItem⟩⟩ := sound goes first
      have positive := List.length_pos_iff.mpr (nonempty isItem)
      have length := reads.length
      obtain ⟨v, reads', ⟨areItems⟩, stop⟩ := ih (by omega) others
      exact ⟨u ++ v, reads.trans reads', ⟨cons isItem areItems⟩, stop⟩
    · rw [if_neg goes] at run
      obtain ⟨rfl, rfl⟩ := pure_eq_ok.mp run
      exact ⟨[], .refl _, ⟨nil⟩, Bool.eq_false_iff.mpr goes⟩

/-- Items up to where none begins, each of which takes a token. -/
theorem many_sound {begins : TokenStream → Bool} {item : Parser α}
    {Item : List Token → α → Type} {Items : List Token → List α → Type} (nil : Items [] [])
    (cons : ∀ {u v a as}, Item u a → Items v as → Items (u ++ v) (a :: as))
    (nonempty : ∀ {u a}, Item u a → u ≠ [])
    (sound : ∀ {s t a}, begins s = true → item s = .ok a t →
      ∃ u, s.Reads u t ∧ Nonempty (Item u a))
    (atEnd : ∀ {s}, s.rest = [] → begins s = false) {s t : TokenStream} {as : List α}
    (run : many begins item s = .ok as t) :
    ∃ u, s.Reads u t ∧ Nonempty (Items u as) ∧ begins t = false := by
  rw [many, get_bind] at run
  exact itemsWhile_sound nil cons nonempty sound atEnd (Nat.le_refl _) run

/-! ## Types -/

theorem type_sound {s t : TokenStream} {ty : TypeExpr} (run : type s = .ok ty t) :
    ∃ u, s.Reads u t ∧ Nonempty (TypeName u ty) := by
  rw [type, current_bind] at run
  cases kind : s.current.kind with
  | intType =>
    simp only [kind, advance_bind, pure_eq_ok] at run
    obtain ⟨rfl, rfl⟩ := run
    exact ⟨_, .single (by simp [kind]), ⟨.int kind⟩⟩
  | boolType =>
    simp only [kind, advance_bind, pure_eq_ok] at run
    obtain ⟨rfl, rfl⟩ := run
    exact ⟨_, .single (by simp [kind]), ⟨.bool kind⟩⟩
  | voidType =>
    simp only [kind, advance_bind, pure_eq_ok] at run
    obtain ⟨rfl, rfl⟩ := run
    exact ⟨_, .single (by simp [kind]), ⟨.void kind⟩⟩
  | structWord =>
    simp only [kind, advance_bind] at run
    obtain ⟨name, m, found, result⟩ := bind_eq_ok.mp run
    obtain ⟨isName, rfl, rfl⟩ := identifier_eq_ok.mp found
    obtain ⟨rfl, rfl⟩ := pure_eq_ok.mp result
    exact ⟨_, .cons (by simp [kind]) (.single (by simp [isName])), ⟨.struct kind isName⟩⟩
  | _ =>
    simp only [kind] at run
    exact absurd run fail_ne_ok

theorem type_complete {u : List Token} {ty : TypeExpr} (h : TypeName u ty) {s t : TokenStream}
    (reads : s.Reads u t) : type s = .ok ty t := by
  rw [type, current_bind]
  cases h with
  | int keyword =>
    obtain ⟨rfl, rfl⟩ := reads.of_single
    simp only [keyword]
    rfl
  | bool keyword =>
    obtain ⟨rfl, rfl⟩ := reads.of_single
    simp only [keyword]
    rfl
  | void keyword =>
    obtain ⟨rfl, rfl⟩ := reads.of_single
    simp only [keyword]
    rfl
  | struct keyword name =>
    obtain rfl := reads.head
    obtain ⟨rfl, rfl⟩ := reads.tail.of_single
    simp only [keyword]
    rw [advance_bind, bind_of_ok (identifier_eq_ok.mpr ⟨name, rfl, rfl⟩)]
    rfl

theorem typeName_ne_nil {u : List Token} {ty : TypeExpr} (h : TypeName u ty) : u ≠ [] := by
  cases h <;> exact List.cons_ne_nil _ _

/-! ## Variables -/

theorem variableDecl_sound {s t : TokenStream} {d : Decl} (run : variableDecl s = .ok d t) :
    ∃ u, s.Reads u t ∧ Nonempty (Variable u d) := by
  rw [variableDecl] at run
  obtain ⟨ty, m, typeRun, run⟩ := bind_eq_ok.mp run
  obtain ⟨name, m', nameRun, run⟩ := bind_eq_ok.mp run
  obtain ⟨semicolon, m'', semicolonRun, result⟩ := bind_eq_ok.mp run
  obtain ⟨u, reads, ⟨written⟩⟩ := type_sound typeRun
  obtain ⟨isName, rfl, rfl⟩ := identifier_eq_ok.mp nameRun
  obtain ⟨isSemicolon, rfl, rfl⟩ := require_eq_ok.mp semicolonRun
  obtain ⟨rfl, rfl⟩ := pure_eq_ok.mp result
  refine ⟨_, reads.trans (.cons (by simp [isName]) (.single (by simp [isSemicolon]))), ?_⟩
  exact ⟨.mk written isName isSemicolon⟩

theorem variableDecl_complete {u : List Token} {d : Decl} (h : Variable u d) {s t : TokenStream}
    (reads : s.Reads u t) : variableDecl s = .ok d t := by
  obtain ⟨written, name, semicolon⟩ := h
  obtain ⟨m, typeReads, nameReads⟩ := reads.split
  obtain rfl := nameReads.head
  obtain ⟨rfl, rfl⟩ := nameReads.tail.of_single
  rw [variableDecl, bind_of_ok (type_complete written typeReads),
    bind_of_ok (identifier_eq_ok.mpr ⟨name, rfl, rfl⟩),
    bind_of_ok (require_eq_ok.mpr ⟨semicolon, rfl, rfl⟩)]
  rfl

theorem variable_ne_nil {u : List Token} {d : Decl} (h : Variable u d) : u ≠ [] := by
  obtain ⟨written, -, -⟩ := h
  exact List.append_ne_nil_of_left_ne_nil (typeName_ne_nil written) _

theorem atVariableDecl_of_atEnd {s : TokenStream} (atEnd : s.rest = []) :
    s.atVariableDecl = false := by
  simp [TokenStream.atVariableDecl, TokenStream.current, atEnd, Token.endOfList]

/-- A type and a name begin a variable declaration, and no struct declaration. -/
theorem at_of_typeName {u v : List Token} {n : Token} {ty : TypeExpr} (h : TypeName u ty)
    (name : n.kind = .identifier) {s t : TokenStream} (reads : s.Reads (u ++ n :: v) t) :
    s.atStructDecl = false ∧ s.atVariableDecl = true := by
  have rest := reads.rest
  cases h <;>
    simp_all [TokenStream.atVariableDecl, TokenStream.atStructDecl, TokenStream.current,
      TokenStream.ahead]

theorem atVariableDecl_of_variable {u : List Token} {d : Decl} (h : Variable u d)
    {s t : TokenStream} (reads : s.Reads u t) : s.atVariableDecl = true := by
  obtain ⟨written, name, -⟩ := h
  exact (at_of_typeName written name reads).2

theorem variableDecls_sound {s t : TokenStream} {pos : Position} {ds : List Decl}
    (run : variableDecls s = .ok (pos, ds) t) :
    pos = s.current.pos ∧ t.atVariableDecl = false ∧
      ∃ u, s.Reads u t ∧ Nonempty (Variables u ds) := by
  rw [variableDecls, current_bind] at run
  obtain ⟨decls, m, declsRun, result⟩ := bind_eq_ok.mp run
  obtain ⟨same, rfl⟩ := pure_eq_ok.mp result
  obtain ⟨rfl, rfl⟩ := Prod.mk.injEq .. ▸ same
  obtain ⟨u, reads, derived, stop⟩ := many_sound Variables.nil Variables.cons variable_ne_nil
    (fun _ => variableDecl_sound) atVariableDecl_of_atEnd declsRun
  exact ⟨rfl, stop, u, reads, derived⟩

theorem variableItems_complete {u : List Token} {ds : List Decl} (h : Variables u ds)
    {s t : TokenStream} (reads : s.Reads u t) (stop : t.atVariableDecl = false) {limit : Nat}
    (enough : u.length ≤ limit) :
    itemsWhile TokenStream.atVariableDecl variableDecl limit s = .ok ds t := by
  induction h generalizing s limit with
  | nil =>
    obtain rfl := reads.eq_nil
    exact itemsWhile_stop stop
  | cons first others ih =>
    obtain ⟨m, firstReads, othersReads⟩ := reads.split
    have positive := List.length_pos_iff.mpr (variable_ne_nil first)
    rw [List.length_append] at enough
    obtain ⟨limit, rfl⟩ : ∃ l, limit = l + 1 := ⟨limit - 1, by omega⟩
    exact itemsWhile_next (atVariableDecl_of_variable first firstReads)
      (variableDecl_complete first firstReads) (ih othersReads (by omega))

theorem variableDecls_complete {u : List Token} {ds : List Decl} (h : Variables u ds)
    {s t : TokenStream} (reads : s.Reads u t) (stop : t.atVariableDecl = false) :
    variableDecls s = .ok (s.current.pos, ds) t := by
  have run : many TokenStream.atVariableDecl variableDecl s = .ok ds t :=
    variableItems_complete h reads stop (by rw [reads.length]; omega)
  rw [variableDecls, current_bind, bind_of_ok run]
  rfl

end Parser

end Minim
