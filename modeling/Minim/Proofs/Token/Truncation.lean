import Mathlib.Order.Bounds.Defs
import Minim.Proofs.Token.Layout
import Minim.Proofs.Token.Stops

/-!
# Where a fault is reported

A text is cut off behind some of its characters. Cut off at the place where a fault is reported it
is lexed, to the tokens that were read before the fault. Cut off anywhere behind that place it has a
fault there too, since what is left of a word that was refused is refused as well.
-/

namespace Minim

open Lexeme

/-! ## Places and offsets -/

namespace Position

theorem following_lt {before more : List Char} (nonempty : more ≠ []) :
    following before < following (before ++ more) := by
  induction more generalizing before with
  | nil => exact absurd rfl nonempty
  | cons c more ih =>
    have step : following before < following (before ++ [c]) := by
      rw [following_append]
      exact lt_after _ c
    rw [List.append_cons]
    by_cases last : more = []
    · rwa [last, List.append_nil]
    · exact step.trans (ih last)

/-- Further into a text positions are greater. -/
theorem following_take_lt {cs : List Char} {m n : Nat} (h : m < n) (within : n ≤ cs.length) :
    following (cs.take m) < following (cs.take n) := by
  have split : cs.take n = cs.take m ++ (cs.drop m).take (n - m) := by
    rw [← List.take_add, Nat.add_sub_cancel' h.le]
  rw [split]
  refine following_lt fun empty => ?_
  have length := congrArg List.length empty
  simp only [List.length_take, List.length_drop, List.length_nil] at length
  omega

/-- A position in a text belongs to one offset. -/
theorem following_take_inj {cs : List Char} {m n : Nat} (hm : m ≤ cs.length)
    (hn : n ≤ cs.length) : following (cs.take m) = following (cs.take n) ↔ m = n := by
  refine ⟨fun same => ?_, fun same => by rw [same]⟩
  rcases Nat.lt_trichotomy m n with less | same | more
  · exact absurd same (following_take_lt less hn).ne
  · exact same
  · exact absurd same.symm (following_take_lt more hm).ne

end Position

/-! ## What is left of a refused word -/

namespace Lexeme

theorem head?_of_cut {cs cut : List Char} (isPrefix : cut <+: cs) {c : Char}
    (first : cut.head? = some c) : cs.head? = some c := by
  obtain ⟨tail, rfl⟩ := List.head?_eq_some_iff.mp first
  obtain ⟨more, rfl⟩ := isPrefix
  rfl

/-- A literal that is not closed is not closed earlier. -/
theorem Unclosed.of_cut {cs cut : List Char} {fault : Fault} (h : Unclosed cs fault)
    (isPrefix : cut <+: cs) : ∃ fault', Unclosed cut fault' := by
  induction h generalizing cut with
  | atEnd =>
    rw [List.prefix_nil.mp isPrefix]
    exact ⟨_, .atEnd⟩
  | newline =>
    rcases List.prefix_cons_iff.mp isPrefix with rfl | ⟨cut, rfl, -⟩
    · exact ⟨_, .atEnd⟩
    · exact ⟨_, .newline⟩
  | badEscape noEscape =>
    rcases List.prefix_cons_iff.mp isPrefix with rfl | ⟨cut, rfl, others⟩
    · exact ⟨_, .atEnd⟩
    · exact ⟨_, .badEscape fun e first => noEscape e (head?_of_cut others first)⟩
  | plain notEscape notQuote notNewline _ ih =>
    rcases List.prefix_cons_iff.mp isPrefix with rfl | ⟨cut, rfl, others⟩
    · exact ⟨_, .atEnd⟩
    · obtain ⟨fault', unclosed⟩ := ih others
      exact ⟨_, .plain notEscape notQuote notNewline unclosed⟩
  | escape escape _ ih =>
    rcases List.prefix_cons_iff.mp isPrefix with rfl | ⟨cut, rfl, others⟩
    · exact ⟨_, .atEnd⟩
    · -- Where the escape itself is cut in two, the backslash has nothing behind it.
      rcases List.prefix_cons_iff.mp others with rfl | ⟨cut, rfl, behind⟩
      · exact ⟨_, .badEscape nofun⟩
      · obtain ⟨fault', unclosed⟩ := ih behind
        exact ⟨_, .escape escape unclosed⟩

theorem Unclosed.fault_eq {cs : List Char} {fault : Fault} (h : Unclosed cs fault) :
    fault = .unterminatedString ∨ fault = .illegalEscape := by
  induction h with
  | atEnd | newline => exact .inl rfl
  | badEscape => exact .inr rfl
  | plain _ _ _ _ ih | escape _ _ ih => exact ih

theorem mark?_eq_none_of_cut {c : Char} {rest cut : List Char} (noMark : mark? c rest = none)
    (isPrefix : cut <+: rest) : mark? c cut = none := by
  rcases cut with _ | ⟨d, cut⟩
  · cases single : singleKind? c with
    | none => rw [mark?, single]; rfl
    | some kind =>
      rw [mark?, single] at noMark
      split at noMark <;> cases noMark
  · obtain ⟨more, rfl⟩ := isPrefix
    exact noMark

namespace Refused

variable {cs cut : List Char} {fault : Fault}

theorem ne_nil (h : Refused cs fault) : cs ≠ [] := by
  cases h <;> exact List.cons_ne_nil _ _

/-- Apart from numerals, it is a character that is refused, or a literal at its opening quote. -/
theorem head (h : Refused cs fault) (noNumeral : ∀ error, fault ≠ .numeral error) :
    ∃ c, cs.head? = some c ∧ (fault = .unexpected c ∨
      c = '"' ∧ (fault = .unterminatedString ∨ fault = .illegalEscape)) := by
  cases h with
  | @character c => exact ⟨c, rfl, .inl rfl⟩
  | literal unclosed => exact ⟨'"', rfl, .inr ⟨rfl, unclosed.fault_eq⟩⟩
  | numeral => exact absurd rfl (noNumeral _)

/-- What is refused is refused when its end is cut off. -/
theorem of_cut (h : Refused cs fault) (noNumeral : ∀ error, fault ≠ .numeral error)
    (isPrefix : cut <+: cs) (nonempty : cut ≠ []) :
    ∃ fault', Refused cut fault' ∧ ∀ error, fault' ≠ .numeral error := by
  obtain ⟨d, cut, rfl⟩ := List.exists_cons_of_ne_nil nonempty
  cases h with
  | character notBlank noMark notQuote notDigit notLetter =>
    obtain ⟨rfl, others⟩ := List.cons_prefix_cons.mp isPrefix
    exact ⟨_, .character notBlank (mark?_eq_none_of_cut noMark others) notQuote notDigit
      notLetter, nofun⟩
  | literal unclosed =>
    obtain ⟨rfl, others⟩ := List.cons_prefix_cons.mp isPrefix
    obtain ⟨fault', unclosed'⟩ := unclosed.of_cut others
    refine ⟨fault', .literal unclosed', fun error same => ?_⟩
    rcases unclosed'.fault_eq with kind | kind
    · cases kind.symm.trans same
    · cases kind.symm.trans same
  | numeral => exact absurd rfl (noNumeral _)

end Refused

end Lexeme

/-! ## What is read before a fault -/

/-- Reading token by token leads from one place to another, and these are the tokens. -/
inductive Cursor.Yields : Cursor → List Token → Cursor → Prop
  | none (s : Cursor) : Yields s [] s
  | token {s m t : Cursor} {token : Token} {tokens : List Token} (taken : s.next = (.ok token, m))
      (goes : token.kind ≠ .eof) (others : Yields m tokens t) : Yields s (token :: tokens) t

/-- The text after `before` is lexed up to a fault. The characters that are read are a text of their
own, made of the tokens that were read, and what is left is refused. Cut off within what is left,
the text has its fault at the same place. -/
structure FaultSite (before text read left : List Char) (words : List Token) (error : LexError) :
    Prop where
  split : text = read ++ left
  refused : Refused left error.fault
  pos : error.pos = .following (before ++ read)
  segmented : Segmented before read (words ++ [{ kind := .eof, pos := error.pos }])
  yields : ∀ s : Cursor, s.rest = text → s.pos = .following before →
    ∃ m after, s.Yields words m ∧ m.next = (.error error, after)
  cut : ∀ ⦃cut fault⦄, cut <+: left → Refused cut fault →
    Stopped before (read ++ cut) ⟨error.pos, fault⟩

namespace FaultSite

variable {before gap : List Char}

theorem here {left : List Char} {fault : Fault} (isGap : Gap left gap)
    (refused : Refused left fault) :
    FaultSite before (gap ++ left) gap left [] ⟨.following (before ++ gap), fault⟩ where
  split := rfl
  refused := refused
  pos := rfl
  segmented := .done (isGap.before refused.ne_nil [])
  yields := by
    intro s ahead reached
    obtain ⟨c, rest, rfl⟩ := List.exists_cons_of_ne_nil refused.ne_nil
    obtain ⟨failed, noGap⟩ := scan_of_refused refused
    obtain ⟨start, startPos⟩ := Cursor.skipGap_of_gap ahead isGap noGap reached
    have stops := Cursor.next_of_fault start failed
    rw [startPos] at stops
    exact ⟨s, _, .none s, stops⟩
  cut := by
    intro cut fault' _ refused'
    obtain ⟨c, rest, rfl⟩ := List.exists_cons_of_ne_nil refused'.ne_nil
    exact .here (isGap.before refused.ne_nil _) refused'

theorem word {written rest read left : List Char} {content : Content} {words : List Token}
    {error : LexError} (isGap : Gap (written ++ rest) gap) (isWord : WrittenAs content written)
    (whole : ∀ next, rest.head? = some next → ¬ CarriesOn written next)
    (site : FaultSite (before ++ gap ++ written) rest read left words error) :
    FaultSite before (gap ++ (written ++ rest)) (gap ++ (written ++ read)) left
      ({ kind := content.1, value := content.2, pos := .following (before ++ gap) } :: words)
      error := by
  have notEnd : written ++ rest ≠ [] := List.append_ne_nil_of_left_ne_nil isWord.ne_nil rest
  -- What is cut off is too far away to change what stands behind the word.
  have whole' (cut : List Char) (isPrefix : cut <+: left) :
      ∀ next, (read ++ cut).head? = some next → ¬ CarriesOn written next := by
    intro next first
    refine whole next ?_
    rw [site.split]
    exact head?_of_cut ((List.prefix_append_right_inj read).mpr isPrefix) first
  refine ⟨?split, site.refused, ?pos, ?segmented, ?yields, ?cut⟩
  case split => simp only [site.split, List.append_assoc]
  case pos => simp only [site.pos, List.append_assoc]
  case segmented =>
    have behind := whole' [] List.nil_prefix
    rw [List.append_nil] at behind
    exact .word (isGap.before notEnd _) isWord behind site.segmented
  case yields =>
    intro s ahead reached
    obtain ⟨m, taken, rest', pos, goes⟩ :=
      Cursor.next_of_written ahead isGap isWord whole reached
    obtain ⟨t, after, yields, stops⟩ := site.yields m rest' pos
    exact ⟨t, after, .token taken goes yields, stops⟩
  case cut =>
    intro cut fault isPrefix refused
    have stopped := Stopped.word (isGap.before notEnd _) isWord (whole' cut isPrefix)
      (site.cut isPrefix refused)
    simpa only [List.append_assoc] using stopped

end FaultSite

theorem Stopped.exists_site {before text : List Char} {error : LexError}
    (h : Stopped before text error) :
    ∃ read left words, FaultSite before text read left words error := by
  induction h with
  | here isGap refused => exact ⟨_, _, _, .here isGap refused⟩
  | word isGap isWord whole _ ih =>
    obtain ⟨read, left, words, site⟩ := ih
    exact ⟨_, _, _, site.word isGap isWord whole⟩

/-! ## Texts cut off -/

/-- The first so many characters of a text. -/
def upTo (text : String) (length : Nat) : String := String.ofList (text.toList.take length)

theorem toList_upTo (text : String) (length : Nat) :
    (upTo text length).toList = text.toList.take length :=
  String.toList_ofList

theorem LexError.isNumeral_eq_false_iff {error : LexError} :
    error.isNumeral = false ↔ ∀ fault, error.fault ≠ .numeral fault := by
  obtain ⟨pos, fault⟩ := error
  cases fault <;> simp [isNumeral]

namespace FaultSite

variable {text : String} {read left : List Char} {words : List Token} {error : LexError}
  (site : FaultSite [] text.toList read left words error)

include site

theorem length_eq : text.length = read.length + left.length := by
  rw [← String.length_toList, site.split, List.length_append]

/-- The characters before a fault are lexed, to the tokens that are read before it. -/
theorem tokenize_upTo :
    tokenize (upTo text read.length) = .ok (words ++ [{ kind := .eof, pos := error.pos }]) := by
  have cutRead : (upTo text read.length).toList = read := by
    rw [toList_upTo, site.split, List.take_left]
  exact Cursor.tokens_of_segmented site.segmented cutRead rfl

/-- A longer beginning of the text has a fault at the same place. -/
theorem tokenize_upTo_of_lt (noNumeral : ∀ fault, error.fault ≠ .numeral fault) {j : Nat}
    (behind : read.length < j) :
    ∃ error', tokenize (upTo text j) = .error error' ∧ error'.isNumeral = false ∧
      error'.pos = error.pos := by
  have nonempty := List.length_pos_iff.mpr site.refused.ne_nil
  have more : left.take (j - read.length) ≠ [] := by
    rw [← List.length_pos_iff, List.length_take]
    omega
  obtain ⟨fault, refused, noNumeral'⟩ :=
    site.refused.of_cut noNumeral (List.take_prefix _ left) more
  refine ⟨⟨error.pos, fault⟩, tokenize_error_iff_stopped.mpr ?_,
    LexError.isNumeral_eq_false_iff.mpr noNumeral', rfl⟩
  rw [toList_upTo, site.split, List.take_append, List.take_of_length_le behind.le]
  exact site.cut (List.take_prefix _ left) refused

/-- The position of a fault is that of its place in the text. -/
theorem following_eq_pos_iff {n : Nat} (within : n ≤ text.length) :
    Position.following (text.toList.take n) = error.pos ↔ n = read.length := by
  have here : error.pos = .following (text.toList.take read.length) := by
    rw [site.pos, site.split, List.take_left, List.nil_append]
  have length := site.length_eq
  rw [here]
  exact Position.following_take_inj (by rwa [String.length_toList])
    (by rw [String.length_toList]; omega)

/-- The first of the characters that are left stands at that place. -/
theorem getElem?_eq_head? : text.toList[read.length]? = left.head? := by
  rw [site.split, List.getElem?_append_right (Nat.le_refl _), Nat.sub_self,
    ← List.head?_eq_getElem?]

end FaultSite

/-- **Faults are reported where they are.** Of a text with a fault, other than one of a numeral, the
reported position is that of one offset. The characters before it are lexed, to the tokens that the
lexer had read when it failed, and a longer beginning of the text has a fault at the same position.
So they are the longest beginning that is lexed. At the offset stands the unknown character, or the
opening quote of the literal. -/
theorem tokenize_faults_at {text : String} {error : LexError}
    (failed : tokenize text = .error error) (positioned : error.isNumeral = false) :
    ∃ k < text.length,
      (∀ n ≤ text.length, Position.following (text.toList.take n) = error.pos ↔ n = k) ∧
      (∃ words s after, (Cursor.ofString text).Yields words s ∧ s.next = (.error error, after) ∧
        tokenize (upTo text k) = .ok (words ++ [{ kind := .eof, pos := error.pos }])) ∧
      (∀ j, k < j → ∃ error', tokenize (upTo text j) = .error error' ∧
        error'.isNumeral = false ∧ error'.pos = error.pos) ∧
      IsGreatest {j | ∃ tokens, tokenize (upTo text j) = .ok tokens} k ∧
      ∃ c, text.toList[k]? = some c ∧ (error.fault = .unexpected c ∨
        c = '"' ∧ (error.fault = .unterminatedString ∨ error.fault = .illegalEscape)) := by
  have noNumeral := LexError.isNumeral_eq_false_iff.mp positioned
  obtain ⟨read, left, words, site⟩ := (tokenize_error_iff_stopped.mp failed).exists_site
  have nonempty := List.length_pos_iff.mpr site.refused.ne_nil
  have length := site.length_eq
  refine ⟨read.length, by omega, fun n => site.following_eq_pos_iff, ?before,
    fun j => site.tokenize_upTo_of_lt noNumeral, ⟨⟨_, site.tokenize_upTo⟩, ?longest⟩, ?first⟩
  case before =>
    obtain ⟨s, after, yields, stops⟩ := site.yields (Cursor.ofString text) rfl rfl
    exact ⟨words, s, after, yields, stops, site.tokenize_upTo⟩
  case longest =>
    rintro j ⟨tokens, lexed⟩
    by_contra behind
    obtain ⟨error', failed', -⟩ := site.tokenize_upTo_of_lt noNumeral (not_le.mp behind)
    rw [lexed] at failed'
    cases failed'
  case first =>
    obtain ⟨c, first, sorts⟩ := site.refused.head noNumeral
    exact ⟨c, site.getElem?_eq_head?.trans first, sorts⟩

/-- A literal with an escape that there is none of, behind a comment. -/
def escapeText : String := "x = // y\n \"a\\n\\q\";"

theorem tokenize_escapeText : tokenize escapeText = .error ⟨⟨2, 2⟩, .illegalEscape⟩ := by
  decide +kernel

theorem tokenize_faults_at_of_escapeText :
    tokenize escapeText = .error ⟨⟨2, 2⟩, .illegalEscape⟩ ∧
      (∃ words, tokenize (upTo escapeText 10) =
        .ok (words ++ [{ kind := .eof, pos := ⟨2, 2⟩ }])) ∧
      ∀ j, 10 < j → ∃ error, tokenize (upTo escapeText j) = .error error ∧
        error.isNumeral = false ∧ error.pos = ⟨2, 2⟩ := by
  obtain ⟨k, -, offset, ⟨words, -, -, -, -, lexed⟩, longer, -⟩ :=
    tokenize_faults_at tokenize_escapeText rfl
  obtain rfl : 10 = k := (offset 10 (by decide)).mp (by decide)
  exact ⟨tokenize_escapeText, ⟨words, lexed⟩, longer⟩

end Minim
