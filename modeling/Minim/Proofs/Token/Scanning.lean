import Minim.Proofs.Token.Gap
import Minim.Proofs.Token.Words

/-!
# Words at the head of a text

The scanner finds a word where one stands at the head of a text and what follows does not carry it
on. A name or a numeral is carried on by the characters of names and digits, a mark by those that
form a longer mark with it, and a literal by nothing.
-/

namespace Minim.Lexeme

open Unicode

/-- The scanner finds a word in front of `rest` and walks over all of it, and no gap begins with
it. -/
def Finds (written rest : List Char) (content : Content) : Prop :=
  ∃ c tail, written = c :: tail ∧ scan c (tail ++ rest) = ⟨.ok content, written.length⟩ ∧
    gapLength false (written ++ rest) = 0

section

variable {cs : List Char}

/-! ## Marks -/

theorem finds_mark {c : Char} {tail : List Char} {kind : TokenKind}
    (isMark : mark? c (tail ++ cs) = some (kind, c :: tail))
    (notComment : c ≠ '/' ∨ (tail ++ cs).head? ≠ some '/') : Finds (c :: tail) cs (fixed kind) := by
  obtain ⟨isStart, -, spelled⟩ := mark?_spelling isMark
  have run : scan c (tail ++ cs) = ⟨.ok (fixed kind), (c :: tail).length⟩ := by
    rw [scan, isMark]
    simp only [fixed, ← spelled, String.ofList_toList]
  exact ⟨c, tail, rfl, run, gapLength_eq_zero (markStarts_apart isStart).1 notComment⟩

/-- A mark of one character, where the next one does not carry it on. -/
theorem finds_single {c : Char} {kind : TokenKind} (single : singleKind? c = some kind)
    (apart : ∀ d, cs.head? = some d → pairKind? c d = none ∧ (c ≠ '/' ∨ d ≠ '/')) :
    Finds [c] cs (fixed kind) := by
  refine finds_mark ?_ ?_
  · rw [List.nil_append, mark?, single]
    cases cs with
    | nil => rfl
    | cons d r =>
      rw [List.head?_cons, Option.bind_some, (apart d rfl).1]
      rfl
  · by_cases slash : c = '/'
    · right
      intro next
      rcases (apart '/' next).2 with notSlash | notSlash
      · exact notSlash slash
      · exact notSlash rfl
    · exact .inl slash

/-- A mark of two characters. -/
theorem finds_pair {c d : Char} {kind : TokenKind} (pair : pairKind? c d = some kind) :
    Finds [c, d] cs (fixed kind) := by
  refine finds_mark ?_ (.inl ?_)
  · rw [List.cons_append, List.nil_append, mark?, List.head?_cons, Option.bind_some, pair]
    rfl
  · rintro rfl
    cases pair

/-! ## Names -/

theorem finds_name {w : String} (isName : IsName w)
    (ends : ∀ d, cs.head? = some d → continuesName d = false) :
    Finds w.toList cs (wordKind w, .text w) := by
  obtain ⟨c, tail, text, starts, continues⟩ := isName
  have noMark : c ∉ markStarts := fun isStart => by
    rw [(markStarts_apart isStart).2.2.2] at starts
    cases starts
  have notQuote : c ≠ '"' := by
    rintro rfl
    exact absurd starts (by decide)
  refine ⟨c, tail, text, ?_, ?_⟩
  · rw [scan, mark?_eq_none noMark]
    simp only
    rw [if_neg notQuote, isDigit_of_startsName starts, if_neg Bool.false_ne_true, if_pos starts,
      scanName, if_pos starts, takeWhile_append_of_stop continues ends]
    simp only [Except.map, text, List.length_cons]
    rw [← text, String.ofList_toList]
  · rw [text, List.cons_append]
    refine gapLength_eq_zero (isBlank_of_startsName starts) (.inl ?_)
    rintro rfl
    exact absurd starts (by decide)

/-! ## Literals -/

/-- A numeral, in digits of any decimal systems. -/
theorem finds_integer {digits : List Char} {n : Nat} (nonempty : digits ≠ [])
    (decimal : ∀ c ∈ digits, isDecimal c = true) (read : Numeral.read digits = .ok n)
    (ends : ∀ d, cs.head? = some d → isDigit d = false) :
    Finds digits cs (.integer, .number n) := by
  obtain ⟨c, tail, rfl⟩ := List.exists_cons_of_ne_nil nonempty
  have digit : ∀ d ∈ c :: tail, isDigit d = true :=
    fun d mem => isDigit_of_isDecimal (decimal d mem)
  have first := digit c (List.mem_cons_self ..)
  have noMark : c ∉ markStarts := fun isStart => by
    rw [(markStarts_apart isStart).2.2.1] at first
    cases first
  have notQuote : c ≠ '"' := by
    rintro rfl
    exact absurd first (by decide)
  refine ⟨c, tail, rfl, ?_, ?_⟩
  · rw [scan, mark?_eq_none noMark]
    simp only
    rw [if_neg notQuote, if_pos first, scanInteger, ← List.cons_append,
      takeWhile_append_of_stop digit ends, read]
    rfl
  · rw [List.cons_append]
    refine gapLength_eq_zero (isBlank_of_isDecimal (decimal c (List.mem_cons_self ..))) (.inl ?_)
    rintro rfl
    exact absurd first (by decide)

theorem finds_string {w : String} (isLiteral : IsLiteral w) :
    Finds w.toList cs (.string, .text w) := by
  obtain ⟨tail, text, body⟩ := isLiteral
  refine ⟨'"', tail, text, ?_, ?_⟩
  · rw [scan, mark?_eq_none (by decide)]
    simp only [if_true]
    rw [scanString, literalTail_append body]
    simp only [Except.map, text, List.length_cons]
    rw [← text, String.ofList_toList]
  · rw [text, List.cons_append]
    exact gapLength_eq_zero (by decide) (.inl (by decide))

end

end Minim.Lexeme
