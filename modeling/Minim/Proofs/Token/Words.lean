import Mathlib.Algebra.Group.Nat.Defs
import Mathlib.Data.List.TakeWhile
import Minim.Proofs.Token.Letters

/-!
# The words of the language

What a lexeme can be: a name, a numeral, a string literal, or one of the words and marks that have a
single spelling. The scanner answers with nothing else (`legal_of_scan`).
-/

namespace Minim

/-- The parts of a token that its lexeme determines. -/
def Token.content (t : Token) : Lexeme.Content := (t.kind, t.value)

namespace Lexeme

open Unicode

/-! ## Words -/

/-- The one spelling of a kind; empty for the kinds that have none or many. -/
def spelling : TokenKind → String
  | .integer | .string | .identifier | .eof => ""
  | .plus => "+"
  | .minus => "-"
  | .star => "*"
  | .slash => "/"
  | .increment => "++"
  | .decrement => "--"
  | .lparen => "("
  | .rparen => ")"
  | .lbrace => "\x7b"
  | .rbrace => "\x7d"
  | .comma => ","
  | .dot => "."
  | .assign => "="
  | .semicolon => ";"
  | .readOp => ">>"
  | .writeOp => "<<"
  | .eq => "=="
  | .neq => "!="
  | .lt => "<"
  | .gt => ">"
  | .lte => "<="
  | .gte => ">="
  | .andOp => "&&"
  | .orOp => "||"
  | .notOp => "!"
  | .whileWord => "while"
  | .ifWord => "if"
  | .elseWord => "else"
  | .returnWord => "return"
  | .inputWord => "input"
  | .dispWord => "disp"
  | .structWord => "struct"
  | .intType => "int"
  | .boolType => "bool"
  | .voidType => "void"
  | .trueWord => "true"
  | .falseWord => "false"

/-- The content of a word or mark with a single spelling. -/
def fixed (kind : TokenKind) : Content := (kind, .text (spelling kind))

/-- A word with the form of a name. -/
def IsName (w : String) : Prop :=
  ∃ c cs, w.toList = c :: cs ∧ startsName c = true ∧ ∀ d ∈ cs, continuesName d = true

/-- A word that is no name although it has the form of one. -/
def IsKeyword (w : String) : Prop :=
  w ∈ keywords.map Prod.fst

instance (w : String) : Decidable (IsKeyword w) :=
  inferInstanceAs (Decidable (_ ∈ _))

/-- What may follow the opening quote of a literal. -/
inductive LiteralBody : List Char → Prop
  | close : LiteralBody ['"']
  | plain {c : Char} {cs : List Char} (notEscape : c ≠ '\\') (notQuote : c ≠ '"')
      (notNewline : c ≠ '\n') (body : LiteralBody cs) : LiteralBody (c :: cs)
  | escape {e : Char} {cs : List Char} (escape : isEscape e = true) (body : LiteralBody cs) :
      LiteralBody ('\\' :: e :: cs)

/-- A string literal as it is written. -/
def IsLiteral (w : String) : Prop :=
  ∃ cs, w.toList = '"' :: cs ∧ LiteralBody cs

/-- A number that has a numeral: its decimal notation is not over the limit. -/
def HasNumeral (n : Nat) : Prop :=
  (Text.decimalNat n).length ≤ Numeral.digitLimit

/-- What a lexeme can be. -/
def Legal : Content → Prop
  | (.integer, value) => ∃ n : Nat, value = .number n ∧ HasNumeral n
  | (.string, value) => ∃ w, value = .text w ∧ IsLiteral w
  | (.identifier, value) => ∃ w, value = .text w ∧ IsName w ∧ ¬ IsKeyword w
  | (.eof, _) => False
  | (kind, value) => value = .text (spelling kind)

/-- The kinds that have a single spelling. -/
def HasSpelling (kind : TokenKind) : Prop :=
  kind ≠ .integer ∧ kind ≠ .string ∧ kind ≠ .identifier ∧ kind ≠ .eof

instance (kind : TokenKind) : Decidable (HasSpelling kind) :=
  inferInstanceAs (Decidable (_ ∧ _))

theorem legal_fixed {kind : TokenKind} (h : HasSpelling kind) : Legal (fixed kind) := by
  obtain ⟨notInteger, notString, notIdentifier, notEnd⟩ := h
  cases kind <;> simp_all [Legal, fixed]

theorem value_of_legal {kind : TokenKind} {value : TokenValue} (h : HasSpelling kind)
    (legal : Legal (kind, value)) : value = .text (spelling kind) := by
  obtain ⟨notInteger, notString, notIdentifier, notEnd⟩ := h
  cases kind <;> simp_all [Legal]

/-! ## Marks -/

/-- The characters that a mark begins with. -/
def markStarts : List Char :=
  ['=', '!', '<', '>', '&', '|', '+', '-', '*', '/', '(', ')', '{', '}', ',', '.', ';']

theorem pairKind?_spelling {c d : Char} {kind : TokenKind} (h : pairKind? c d = some kind) :
    c ∈ markStarts ∧ HasSpelling kind ∧ (spelling kind).toList = [c, d] := by
  unfold pairKind? at h
  split at h <;> cases h <;> decide

theorem singleKind?_spelling {c : Char} {kind : TokenKind} (h : singleKind? c = some kind) :
    c ∈ markStarts ∧ HasSpelling kind ∧ (spelling kind).toList = [c] := by
  unfold singleKind? at h
  split at h <;> cases h <;> decide

/-- A mark has the spelling of its kind. -/
theorem mark?_spelling {c : Char} {rest written : List Char} {kind : TokenKind}
    (h : mark? c rest = some (kind, written)) :
    c ∈ markStarts ∧ HasSpelling kind ∧ (spelling kind).toList = written := by
  unfold mark? at h
  split at h
  · rename_i found isFound
    cases h
    obtain ⟨d, -, ofPair⟩ := Option.bind_eq_some_iff.mp isFound
    obtain ⟨kind', isPair, same⟩ := Option.map_eq_some_iff.mp ofPair
    cases same
    exact pairKind?_spelling isPair
  · obtain ⟨kind', isSingle, same⟩ := Option.map_eq_some_iff.mp h
    cases same
    exact singleKind?_spelling isSingle

theorem markStarts_apart {c : Char} (h : c ∈ markStarts) :
    isBlank c = false ∧ c ≠ '"' ∧ isDigit c = false ∧ startsName c = false := by
  have all : markStarts.all
      (fun c => !isBlank c && c != '"' && !isDigit c && !startsName c) = true := by decide +kernel
  simpa [and_assoc] using List.all_eq_true.mp all c h

/-- Where no mark begins there is none. -/
theorem mark?_eq_none {c : Char} {rest : List Char} (h : c ∉ markStarts) :
    mark? c rest = none := by
  cases found : mark? c rest with
  | none => rfl
  | some found' => exact absurd (mark?_spelling found).1 h

/-! ## Names and keywords -/

theorem keywords_spelling :
    ∀ word ∈ keywords, HasSpelling word.2 ∧ spelling word.2 = word.1 := by
  decide

theorem wordKind_eq_identifier {w : String} (h : ¬ IsKeyword w) : wordKind w = .identifier := by
  rw [wordKind, List.lookup_eq_none_iff.mpr]
  · rfl
  · intro word mem
    rw [bne_iff_ne]
    rintro rfl
    exact h (List.mem_map_of_mem mem)

/-- Whether a word has the form of a name can be told from its letters one by one. -/
theorem isName_of_all {w : String} {c : Char} {cs : List Char} (text : w.toList = c :: cs)
    (starts : startsName c = true) (continues : cs.all continuesName = true) : IsName w :=
  ⟨c, cs, text, starts, List.all_eq_true.mp continues⟩

theorem legal_of_isName {w : String} (h : IsName w) : Legal (wordKind w, .text w) := by
  by_cases keyword : IsKeyword w
  · cases found : keywords.lookup w with
    | none =>
      obtain ⟨word, mem, rfl⟩ := List.mem_map.mp keyword
      exact absurd (List.lookup_eq_none_iff.mp found word mem) (by simp)
    | some kind =>
      obtain ⟨before, after, split, -⟩ := List.lookup_eq_some_iff.mp found
      obtain ⟨hasSpelling, same⟩ := keywords_spelling (w, kind) (by rw [split]; simp)
      obtain rfl : spelling kind = w := same
      rw [wordKind, found, Option.getD_some]
      exact legal_fixed hasSpelling
  · rw [wordKind_eq_identifier keyword]
    exact ⟨w, rfl, h, keyword⟩

theorem isName_of_mem_keywords {word : String × TokenKind} (mem : word ∈ keywords) :
    IsName word.1 := by
  simp only [keywords, List.mem_cons, List.not_mem_nil, or_false] at mem
  rcases mem with rfl | rfl | rfl | rfl | rfl | rfl | rfl | rfl | rfl | rfl | rfl | rfl <;>
    exact isName_of_all rfl rfl (by decide)

theorem wordKind_of_mem_keywords {word : String × TokenKind} (mem : word ∈ keywords) :
    wordKind word.1 = word.2 := by
  have all : ∀ word ∈ keywords, wordKind word.1 = word.2 := by decide
  exact all word mem

/-! ## String literals -/

/-- The tail of a literal is read to its closing quote, whatever follows. -/
theorem literalTail_append {cs : List Char} (h : LiteralBody cs) (rest : List Char) :
    literalTail (cs ++ rest) = (cs, none) := by
  induction h with
  | close => simp [literalTail]
  | plain notEscape notQuote notNewline _ ih =>
    rename_i c cs _
    rw [List.cons_append, literalTail]
    · rw [if_neg notNewline, if_neg notQuote, ih]
    · rintro rfl
      exact absurd rfl notEscape
    · rintro e r rfl
      exact absurd rfl notEscape
  | escape escape _ ih =>
    rw [List.cons_append, List.cons_append, literalTail, if_pos escape, ih]

theorem literalBody_of_literalTail {cs tail : List Char} (h : literalTail cs = (tail, none)) :
    LiteralBody tail := by
  fun_induction literalTail cs generalizing tail with
  | case1 => cases h
  | case2 => cases h
  | case3 e rest escape tail' fault found ih =>
    cases h
    exact .escape escape (ih found)
  | case4 => cases h
  | case5 => cases h
  | case6 =>
    cases h
    exact .close
  | case7 c rest notLast notPair notNewline notQuote tail' fault found ih =>
    cases h
    have notEscape : c ≠ '\\' := by
      rintro rfl
      cases rest with
      | nil => exact notLast rfl rfl
      | cons e rest => exact notPair e rest rfl rfl
    exact .plain notEscape notQuote notNewline (ih found)

/-! ## Numerals -/

/-- A run of characters ends where one does not continue it. -/
theorem takeWhile_append_of_stop {p : Char → Bool} {cs rest : List Char}
    (all : ∀ c ∈ cs, p c = true) (stop : ∀ d, rest.head? = some d → p d = false) :
    (cs ++ rest).takeWhile p = cs := by
  rw [List.takeWhile_append_of_pos all]
  cases rest with
  | nil => exact List.append_nil cs
  | cons d rest =>
    rw [List.takeWhile_cons, stop d rfl]
    exact List.append_nil cs

theorem bounds_of_isDigit {c : Char} (h : c.isDigit = true) : 48 ≤ c.toNat ∧ c.toNat ≤ 57 := by
  simp only [Char.isDigit, Bool.and_eq_true, decide_eq_true_eq] at h
  exact ⟨UInt32.le_iff_toNat_le.mp h.1, UInt32.le_iff_toNat_le.mp h.2⟩

theorem decimalValue?_of_isDigit {c : Char} (h : c.isDigit = true) :
    decimalValue? c = some (c.toNat - '0'.toNat) := by
  obtain ⟨low, high⟩ := bounds_of_isDigit h
  rw [decimalValue?, decimalZeros, valueFrom, if_neg (by omega), if_pos (by omega)]
  rfl

theorem isDecimal_of_isDigit {c : Char} (h : c.isDigit = true) : isDecimal c = true := by
  rw [isDecimal, decimalValue?_of_isDigit h]
  rfl

/-- Reading a decimal notation gives the number back. -/
theorem value_toDigits (n : Nat) : Numeral.value (Nat.toDigits 10 n) = n := by
  have fold (cs : List Char) (digits : ∀ c ∈ cs, c.isDigit = true) (k : Nat) :
      cs.foldl (fun n c => 10 * n + (decimalValue? c).getD 0) k = Nat.ofDigitChars 10 cs k := by
    induction cs generalizing k with
    | nil => rfl
    | cons c cs ih =>
      obtain ⟨digit, others⟩ := List.forall_mem_cons.mp digits
      rw [List.foldl_cons, decimalValue?_of_isDigit digit, Nat.ofDigitChars_cons]
      exact ih others _
  have digits : ∀ c ∈ Nat.toDigits 10 n, c.isDigit = true :=
    fun c => Nat.isDigit_of_mem_toDigits (by omega) (by omega)
  rw [Numeral.value, fold _ digits, Nat.ofDigitChars_ten_toDigits]

/-- Digits denote less than what their number allows. -/
theorem value_lt (digits : List Char) : Numeral.value digits < 10 ^ digits.length := by
  have fold (cs : List Char) (k : Nat) :
      cs.foldl (fun n c => 10 * n + (decimalValue? c).getD 0) k < (k + 1) * 10 ^ cs.length := by
    induction cs generalizing k with
    | nil => simp
    | cons c cs ih =>
      have digit : (decimalValue? c).getD 0 < 10 := by
        cases found : decimalValue? c with
        | none => decide
        | some v => exact decimalValue?_lt found
      rw [List.foldl_cons]
      refine Nat.lt_of_lt_of_le (ih _) ?_
      rw [List.length_cons, Nat.pow_succ', ← Nat.mul_assoc]
      exact Nat.mul_le_mul_right _ (by omega)
  have bound := fold digits 0
  rwa [Nat.zero_add, Nat.one_mul] at bound

/-- A run of digits denotes a number if all of them are decimal and there are not too many. -/
theorem read_eq_ok {digits : List Char} {n : Nat} :
    Numeral.read digits = .ok n ↔ (∀ c ∈ digits, isDecimal c = true) ∧
      digits.length ≤ Numeral.digitLimit ∧ n = Numeral.value digits := by
  rw [Numeral.read, ← List.takeWhile_eq_self_iff]
  constructor
  · intro run
    by_cases tooLong : Numeral.digitLimit < (digits.takeWhile isDecimal).length
    · rw [if_pos tooLong] at run
      cases run
    · rw [if_neg tooLong] at run
      by_cases notDecimal : (digits.takeWhile isDecimal).length < digits.length
      · rw [if_pos notDecimal] at run
        cases run
      · rw [if_neg notDecimal] at run
        cases run
        have whole : digits.takeWhile isDecimal = digits :=
          (List.takeWhile_prefix _).eq_of_length_le (by omega)
        exact ⟨whole, by rw [whole] at tooLong; omega, rfl⟩
  · rintro ⟨decimal, short, rfl⟩
    rw [decimal, if_neg (by omega), if_neg (by omega)]

theorem hasNumeral_of_read {digits : List Char} {n : Nat} (run : Numeral.read digits = .ok n) :
    HasNumeral n := by
  obtain ⟨-, short, rfl⟩ := read_eq_ok.mp run
  rw [HasNumeral, Text.decimalNat, String.length_ofList,
    Nat.length_toDigits_le_iff (by omega) (by decide)]
  exact Nat.lt_of_lt_of_le (value_lt digits) (Nat.pow_le_pow_right (by omega) short)

theorem read_toDigits {n : Nat} (h : HasNumeral n) :
    Numeral.read (Nat.toDigits 10 n) = .ok n := by
  rw [HasNumeral, Text.decimalNat, String.length_ofList] at h
  refine read_eq_ok.mpr ⟨fun c mem => ?_, h, (value_toDigits n).symm⟩
  exact isDecimal_of_isDigit (Nat.isDigit_of_mem_toDigits (by omega) (by omega) mem)

/-! ## Scans -/

theorem exists_of_map_eq_ok {α β : Type} {f : α → β} {x : Except Fault α} {b : β}
    (h : x.map f = .ok b) : ∃ a, x = .ok a ∧ b = f a := by
  cases x with
  | error fault => cases h
  | ok a =>
    cases h
    exact ⟨a, rfl, rfl⟩

/-- **The scanner answers with the words of the language only.** -/
theorem legal_of_scan {c : Char} {rest : List Char} {content : Content}
    (h : (scan c rest).result = .ok content) : Legal content := by
  unfold scan at h
  split at h
  · rename_i kind written isMark
    cases h
    obtain ⟨-, hasSpelling, same⟩ := mark?_spelling isMark
    rw [← same, String.ofList_toList]
    exact legal_fixed hasSpelling
  · split at h
    · rename_i isQuote
      obtain ⟨w, found, rfl⟩ := exists_of_map_eq_ok h
      rw [scanString] at found
      split at found
      · rename_i tail isTail
        cases found
        exact ⟨_, rfl, tail, by rw [String.toList_ofList, isQuote],
          literalBody_of_literalTail isTail⟩
      · cases found
    · split at h
      · obtain ⟨n, found, rfl⟩ := exists_of_map_eq_ok h
        rw [scanInteger] at found
        split at found
        · cases found
        · cases run : Numeral.read ((c :: rest).takeWhile isDigit) with
          | ok n' =>
            rw [run] at found
            cases found
            exact ⟨n', rfl, hasNumeral_of_read run⟩
          | error error =>
            rw [run] at found
            cases found
      · split at h
        · rename_i starts
          obtain ⟨w, found, rfl⟩ := exists_of_map_eq_ok h
          rw [scanName, if_pos starts] at found
          cases found
          refine legal_of_isName ⟨c, _, String.toList_ofList, starts, fun d mem => ?_⟩
          exact List.mem_takeWhile_imp mem
        · cases h

end Lexeme

end Minim
