import Minim.Token.Lexeme

/-!
# Marks that only group

Words are compared up to parentheses and the semicolons that stand right behind closing braces.
Two lists that are the same in this sense can be put in each other's place, if both leave a closing
brace in front of what follows or neither does.
-/

namespace Minim

open Lexeme

/-! ## Marks that group -/

/-- The words without parentheses and without the semicolons that stand right behind a closing
brace; `afterBrace` tells whether the first word does. -/
def withoutGroupingFrom : (afterBrace : Bool) → List Content → List Content
  | _, [] => []
  | afterBrace, word :: words =>
    let others := withoutGroupingFrom (word.1 = .rbrace) words
    if word.1 = .lparen ∨ word.1 = .rparen ∨ afterBrace = true ∧ word.1 = .semicolon then others
    else word :: others

/-- The words without the marks that only group. -/
def withoutGrouping (words : List Content) : List Content :=
  withoutGroupingFrom false words

/-- Whether a closing brace stands right in front of what follows the words. -/
def endsInBrace : (afterBrace : Bool) → List Content → Bool
  | afterBrace, [] => afterBrace
  | _, word :: words => endsInBrace (word.1 = .rbrace) words

/-- Two lists of words that differ only in marks that group, whatever stands around them. -/
structure Regrouped (u v : List Content) : Prop where
  kept : ∀ afterBrace, withoutGroupingFrom afterBrace u = withoutGroupingFrom afterBrace v
  ends : ∀ afterBrace, endsInBrace afterBrace u = endsInBrace afterBrace v

theorem withoutGroupingFrom_append (afterBrace : Bool) (u v : List Content) :
    withoutGroupingFrom afterBrace (u ++ v) =
      withoutGroupingFrom afterBrace u ++ withoutGroupingFrom (endsInBrace afterBrace u) v := by
  induction u generalizing afterBrace with
  | nil => rfl
  | cons word u ih =>
    simp only [List.cons_append, withoutGroupingFrom, endsInBrace, ih]
    split <;> rfl

theorem endsInBrace_append (afterBrace : Bool) (u v : List Content) :
    endsInBrace afterBrace (u ++ v) = endsInBrace (endsInBrace afterBrace u) v := by
  induction u generalizing afterBrace with
  | nil => rfl
  | cons word u ih => exact ih _

/-- What stands behind a closing brace matters to a semicolon only. -/
theorem withoutGroupingFrom_eq {words : List Content}
    (first : ∀ word, words.head? = some word → word.1 ≠ .semicolon) (afterBrace : Bool) :
    withoutGroupingFrom afterBrace words = withoutGrouping words := by
  cases words with
  | nil => rfl
  | cons word words => simp [withoutGrouping, withoutGroupingFrom, first word rfl]

namespace Regrouped

variable {u v u' v' : List Content}

theorem refl (u : List Content) : Regrouped u u :=
  ⟨fun _ => rfl, fun _ => rfl⟩

theorem append (h : Regrouped u v) (h' : Regrouped u' v') : Regrouped (u ++ u') (v ++ v') where
  kept afterBrace := by
    rw [withoutGroupingFrom_append, withoutGroupingFrom_append, h.kept, h.ends, h'.kept]
  ends afterBrace := by
    rw [endsInBrace_append, endsInBrace_append, h.ends, h'.ends]

theorem cons (word : Content) (h : Regrouped u v) : Regrouped (word :: u) (word :: v) :=
  append (refl [word]) h

end Regrouped

/-! ## Words within a line -/

/-- The words apart from parentheses. -/
def operands (words : List Content) : List Content :=
  words.filter fun word => word.1 ≠ .lparen ∧ word.1 ≠ .rparen

/-- Words without closing braces and semicolons, as those of an expression are. -/
def Inline (words : List Content) : Prop :=
  ∀ word ∈ words, word.1 ≠ .rbrace ∧ word.1 ≠ .semicolon

@[simp] theorem inline_nil : Inline [] :=
  nofun

@[simp] theorem inline_cons {word : Content} {words : List Content} :
    Inline (word :: words) ↔ (word.1 ≠ .rbrace ∧ word.1 ≠ .semicolon) ∧ Inline words :=
  List.forall_mem_cons

@[simp] theorem inline_append {u v : List Content} : Inline (u ++ v) ↔ Inline u ∧ Inline v :=
  List.forall_mem_append

@[simp] theorem operands_nil : operands [] = [] :=
  rfl

theorem operands_append (u v : List Content) : operands (u ++ v) = operands u ++ operands v :=
  List.filter_append ..

theorem operands_cons (word : Content) (words : List Content) :
    operands (word :: words) =
      if word.1 = .lparen ∨ word.1 = .rparen then operands words else word :: operands words := by
  by_cases paren : word.1 = .lparen ∨ word.1 = .rparen
  · rw [if_pos paren]
    exact List.filter_cons_of_neg (by simpa using fun h => paren.resolve_left h)
  · rw [if_neg paren]
    exact List.filter_cons_of_pos (decide_eq_true (not_or.mp paren))

theorem withoutGroupingFrom_of_inline {words : List Content} (h : Inline words)
    (afterBrace : Bool) : withoutGroupingFrom afterBrace words = operands words := by
  induction words generalizing afterBrace with
  | nil => rfl
  | cons word words ih =>
    obtain ⟨⟨-, notSemicolon⟩, others⟩ := inline_cons.mp h
    simp only [withoutGroupingFrom, ih others, operands_cons, notSemicolon, and_false, or_false]

theorem endsInBrace_of_inline {words : List Content} (h : Inline words) (nonempty : words ≠ [])
    (afterBrace : Bool) : endsInBrace afterBrace words = false := by
  induction words generalizing afterBrace with
  | nil => exact absurd rfl nonempty
  | cons word words ih =>
    obtain ⟨⟨notBrace, -⟩, others⟩ := inline_cons.mp h
    rw [endsInBrace, decide_eq_false notBrace]
    cases words with
    | nil => rfl
    | cons next words => exact ih others (List.cons_ne_nil _ _) _

/-- No word but parentheses is lost with the operands. -/
theorem inline_of_operands {u v : List Content} (h : Inline u) (same : operands u = operands v) :
    Inline v := by
  intro word mem
  by_cases paren : word.1 = .lparen ∨ word.1 = .rparen
  · rcases paren with kind | kind <;> rw [kind] <;> decide
  · have kept : word ∈ operands v :=
      List.mem_filter.mpr ⟨mem, decide_eq_true (not_or.mp paren)⟩
    rw [← same] at kept
    exact h word (List.mem_filter.mp kept).1

theorem Regrouped.of_inline {u v : List Content} (inline : Inline u) (nonempty : u ≠ [])
    (nonempty' : v ≠ []) (same : operands u = operands v) : Regrouped u v where
  kept afterBrace := by
    rw [withoutGroupingFrom_of_inline inline,
      withoutGroupingFrom_of_inline (inline_of_operands inline same), same]
  ends afterBrace := by
    rw [endsInBrace_of_inline inline nonempty,
      endsInBrace_of_inline (inline_of_operands inline same) nonempty']

end Minim
