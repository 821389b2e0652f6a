import Minim.Proofs.Token.Lexing
import Minim.Proofs.Token.Scanning

/-!
# Texts built up word by word

The laws by which a text is built from its end: a blank in front changes nothing, and a word in
front is the first word lexed, where what follows does not carry it on. A name or a numeral is
carried on by the characters of names and digits, a mark by those that form a longer mark with it.
-/

namespace Minim

open Unicode Lexeme

/-- The marks that no character carries on. -/
def Lexeme.punctuation? : Char → Option TokenKind
  | '(' => some .lparen
  | ')' => some .rparen
  | '{' => some .lbrace
  | '}' => some .rbrace
  | ',' => some .comma
  | '.' => some .dot
  | ';' => some .semicolon
  | _ => none

theorem Lexeme.marks_of_punctuation? {c : Char} {kind : TokenKind}
    (h : punctuation? c = some kind) :
    singleKind? c = some kind ∧ (∀ d, pairKind? c d = none) ∧ c ≠ '/' := by
  unfold punctuation? at h
  split at h <;> cases h <;> exact ⟨rfl, fun _ => rfl, by decide⟩

namespace Lexes

variable {cs : List Char} {contents : List Content}

theorem blank {c : Char} (isBlank : isBlank c = true) (h : Lexes cs contents) :
    Lexes (c :: cs) contents := by
  have gap : gapLength false (c :: cs) = gapLength false cs + 1 := by
    rw [gapLength, if_pos isBlank]
    rintro rest rfl
    exact absurd isBlank (by decide)
  cases h with
  | done done => exact .done (by rw [gap, List.drop_succ_cons, done])
  | word here found others =>
    exact .word (by rw [gap, List.drop_succ_cons, here]) found others

theorem space (h : Lexes cs contents) : Lexes (' ' :: cs) contents :=
  h.blank (by decide)

theorem newline (h : Lexes cs contents) : Lexes ('\n' :: cs) contents :=
  h.blank (by decide)

/-- What is found at the head of a text is its first word. -/
theorem of_finds {written : List Char} {content : Content} (found : Finds written cs content)
    (h : Lexes cs contents) : Lexes (written ++ cs) (content :: contents) := by
  obtain ⟨c, tail, rfl, run, noGap⟩ := found
  have gap : (c :: tail ++ cs).drop (gapLength false (c :: tail ++ cs)) = c :: (tail ++ cs) := by
    rw [noGap]
    rfl
  refine .word gap ?_ ?_
  · rw [run]
  · rwa [run, ← List.cons_append, List.drop_left]

/-! ## Marks -/

/-- A mark that no character carries on. -/
theorem lone {c : Char} {kind : TokenKind} (isPunctuation : punctuation? c = some kind)
    (h : Lexes cs contents) : Lexes (c :: cs) (fixed kind :: contents) := by
  obtain ⟨single, alone, notSlash⟩ := marks_of_punctuation? isPunctuation
  exact of_finds (finds_single single fun d _ => ⟨alone d, .inl notSlash⟩) h

/-- A mark of one character, where the next one does not carry it on. -/
theorem single {c d : Char} {kind : TokenKind} (single : singleKind? c = some kind)
    (apart : pairKind? c d = none) (notComment : c ≠ '/' ∨ d ≠ '/')
    (h : Lexes (d :: cs) contents) : Lexes (c :: d :: cs) (fixed kind :: contents) := by
  refine of_finds (finds_single single ?_) h
  rintro d' next
  cases next
  exact ⟨apart, notComment⟩

/-- A mark of two characters. -/
theorem pair {c d : Char} {kind : TokenKind} (pair : pairKind? c d = some kind)
    (h : Lexes cs contents) : Lexes (c :: d :: cs) (fixed kind :: contents) :=
  of_finds (finds_pair pair) h

/-! ## Names -/

theorem name {w : String} (isName : IsName w)
    (ends : ∀ d, cs.head? = some d → continuesName d = false) (h : Lexes cs contents) :
    Lexes (w.toList ++ cs) ((wordKind w, .text w) :: contents) :=
  of_finds (finds_name isName ends) h

theorem keyword {w : String} {kind : TokenKind} (mem : (w, kind) ∈ keywords)
    (ends : ∀ d, cs.head? = some d → continuesName d = false) (h : Lexes cs contents) :
    Lexes (w.toList ++ cs) (fixed kind :: contents) := by
  have spelled : spelling kind = w := (keywords_spelling _ mem).2
  have isKind : wordKind w = kind := wordKind_of_mem_keywords mem
  rw [fixed, spelled, ← isKind]
  exact name (isName_of_mem_keywords mem) ends h

/-! ## Literals -/

theorem integer {n : Nat} (hasNumeral : HasNumeral n)
    (ends : ∀ d, cs.head? = some d → isDigit d = false) (h : Lexes cs contents) :
    Lexes ((Text.decimalNat n).toList ++ cs) ((.integer, .number n) :: contents) := by
  rw [Text.decimalNat, String.toList_ofList]
  refine of_finds (finds_integer Nat.toDigits_ne_nil ?_ (read_toDigits hasNumeral) ends) h
  exact fun c mem => isDecimal_of_isDigit (Nat.isDigit_of_mem_toDigits (by omega) (by omega) mem)

theorem string {w : String} (isLiteral : IsLiteral w) (h : Lexes cs contents) :
    Lexes (w.toList ++ cs) ((.string, .text w) :: contents) :=
  of_finds (finds_string isLiteral) h

end Lexes

end Minim
