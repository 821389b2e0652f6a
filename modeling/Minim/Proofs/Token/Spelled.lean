import Minim.Proofs.Token.Scanning

/-!
# Written words

What the characters of a word are, without reference to how they are scanned, and which characters
carry a word on. The scanner finds a word at the head of a text exactly where one is written that
the next character does not carry on.
-/

namespace Minim.Lexeme

open Unicode

/-- Decimal digits of any systems, not more than a numeral may have. -/
structure IsNumeral (written : List Char) : Prop where
  nonempty : written ≠ []
  decimal : ∀ c ∈ written, isDecimal c = true
  short : written.length ≤ Numeral.digitLimit

/-- The characters spell a word: the value of the word is what is written, or for an integer the
number that it denotes. -/
def WrittenAs : Content → List Char → Prop
  | (.integer, value), written => IsNumeral written ∧ value = .number (Numeral.value written)
  | (kind, value), written => value = .text (String.ofList written) ∧ Legal (kind, value)

/-- A character carries a word on: a digit a numeral, a letter or a digit a name or a keyword, and a
mark the character that makes a longer mark of it. Of two slashes the first is no mark. -/
inductive CarriesOn (written : List Char) (next : Char) : Prop
  | digit (numeral : IsNumeral written) (digit : isDigit next = true)
  | letter (name : IsName (String.ofList written)) (letter : continuesName next = true)
  | mark {kind : TokenKind} (longer : (spelling kind).toList = written ++ [next])
  | comment (slash : written = ['/']) (slash' : next = '/')

/-! ## Sorts of spellings -/

/-- A single spelling is a mark of one or two characters, or a keyword. -/
theorem spelling_sorts {kind : TokenKind} (h : HasSpelling kind) :
    (∃ c, (spelling kind).toList = [c] ∧ singleKind? c = some kind) ∨
      (∃ c d, (spelling kind).toList = [c, d] ∧ pairKind? c d = some kind) ∨
      (spelling kind, kind) ∈ keywords := by
  obtain ⟨notInteger, notString, notIdentifier, notEnd⟩ := h
  cases kind <;>
  first
  | contradiction
  | exact .inl ⟨_, rfl, rfl⟩
  | exact .inr (.inl ⟨_, _, rfl, rfl⟩)
  | exact .inr (.inr (by decide))

/-- A spelling that begins as a mark does is a mark. -/
theorem pairKind?_of_spelling {kind : TokenKind} {c : Char} {tail : List Char}
    (spelled : (spelling kind).toList = c :: tail) (starts : c ∈ markStarts) :
    tail = [] ∨ ∃ d, tail = [d] ∧ pairKind? c d = some kind := by
  have hasSpelling : HasSpelling kind := by
    refine ⟨?_, ?_, ?_, ?_⟩ <;>
    · rintro rfl
      cases spelled
  rcases spelling_sorts hasSpelling with ⟨c', single, -⟩ | ⟨c', d, pair, isPair⟩ | keyword
  · rw [single] at spelled
    cases spelled
    exact .inl rfl
  · rw [pair] at spelled
    cases spelled
    exact .inr ⟨d, rfl, isPair⟩
  · obtain ⟨c', cs, text, isLetter, -⟩ := isName_of_mem_keywords keyword
    rw [text] at spelled
    cases spelled
    rw [(markStarts_apart starts).2.2.2] at isLetter
    cases isLetter

/-- A spelling begins as a mark does, or it is a keyword. -/
theorem isName_of_spelling {kind : TokenKind} {c : Char} {tail : List Char}
    (spelled : (spelling kind).toList = c :: tail) (noMark : c ∉ markStarts) :
    startsName c = true ∧ ∀ d ∈ tail, continuesName d = true := by
  have hasSpelling : HasSpelling kind := by
    refine ⟨?_, ?_, ?_, ?_⟩ <;>
    · rintro rfl
      cases spelled
  rcases spelling_sorts hasSpelling with ⟨c', single, isMark⟩ | ⟨c', d, pair, isMark⟩ | keyword
  · rw [single] at spelled
    cases spelled
    exact absurd (singleKind?_spelling isMark).1 noMark
  · rw [pair] at spelled
    cases spelled
    exact absurd (pairKind?_spelling isMark).1 noMark
  · obtain ⟨c', cs, text, isLetter, continues⟩ := isName_of_mem_keywords keyword
    rw [text] at spelled
    cases spelled
    exact ⟨isLetter, continues⟩

/-! ## What carries a word on, told by its first character -/

theorem IsNumeral.isDecimal {c : Char} {tail : List Char} (h : IsNumeral (c :: tail)) :
    isDecimal c = true :=
  h.decimal c (List.mem_cons_self ..)

theorem startsName_of_isName {c : Char} {tail : List Char}
    (h : IsName (String.ofList (c :: tail))) : startsName c = true := by
  obtain ⟨c', cs, text, starts, -⟩ := h
  rw [String.toList_ofList] at text
  cases text
  exact starts

namespace CarriesOn

variable {c next : Char} {tail : List Char}

/-- A mark is carried on by what makes a longer mark of it, and a slash by another one. -/
theorem of_mark (h : CarriesOn (c :: tail) next) (starts : c ∈ markStarts) :
    (∃ kind, (spelling kind).toList = c :: tail ++ [next]) ∨
      c :: tail = ['/'] ∧ next = '/' := by
  obtain ⟨-, -, notDigit, notLetter⟩ := markStarts_apart starts
  cases h with
  | digit numeral =>
    rw [isDigit_of_isDecimal numeral.isDecimal] at notDigit
    cases notDigit
  | letter name =>
    rw [startsName_of_isName name] at notLetter
    cases notLetter
  | mark longer => exact .inl ⟨_, longer⟩
  | comment slash slash' => exact .inr ⟨slash, slash'⟩

/-- A name is carried on by letters and digits. -/
theorem of_name (h : CarriesOn (c :: tail) next) (starts : startsName c = true) :
    continuesName next = true := by
  have noMark : c ∉ markStarts := fun isStart => by
    rw [(markStarts_apart isStart).2.2.2] at starts
    cases starts
  cases h with
  | digit numeral =>
    have digit := isDigit_of_isDecimal numeral.isDecimal
    rw [isDigit_of_startsName starts] at digit
    cases digit
  | letter name letter => exact letter
  | mark longer => exact (isName_of_spelling longer noMark).2 next (by simp)
  | comment slash =>
    cases slash
    exact absurd starts (by decide)

/-- A numeral is carried on by digits. -/
theorem of_digit (h : CarriesOn (c :: tail) next) (first : Unicode.isDigit c = true) :
    Unicode.isDigit next = true := by
  have notLetter : startsName c ≠ true := fun starts => by
    rw [isDigit_of_startsName starts] at first
    cases first
  have noMark : c ∉ markStarts := fun isStart => by
    rw [(markStarts_apart isStart).2.2.1] at first
    cases first
  cases h with
  | digit numeral digit => exact digit
  | letter name => exact absurd (startsName_of_isName name) notLetter
  | mark longer => exact absurd (isName_of_spelling longer noMark).1 notLetter
  | comment slash =>
    cases slash
    exact absurd first (by decide)

/-- A literal is carried on by nothing. -/
theorem not_of_quote : ¬ CarriesOn ('"' :: tail) next := by
  rintro (numeral | name | longer | slash)
  · exact absurd numeral.isDecimal (by decide)
  · exact absurd (startsName_of_isName name) (by decide)
  · exact absurd (isName_of_spelling longer (by decide)).1 (by decide)
  · cases slash

end CarriesOn

/-! ## What is written is found -/

theorem finds_of_fixed {kind : TokenKind} (hasSpelling : HasSpelling kind) {rest : List Char}
    (whole : ∀ next, rest.head? = some next → ¬ CarriesOn (spelling kind).toList next) :
    Finds (spelling kind).toList rest (fixed kind) := by
  rcases spelling_sorts hasSpelling with ⟨c, single, isSingle⟩ | ⟨c, d, pair, isPair⟩ | keyword
  · rw [single] at whole ⊢
    refine finds_single isSingle fun d next => ⟨?_, ?_⟩
    · cases longer : pairKind? c d with
      | none => rfl
      | some kind' => exact absurd (.mark (pairKind?_spelling longer).2.2) (whole d next)
    · by_cases slash : c = '/'
      · right
        rintro rfl
        exact whole '/' next (.comment (congrArg (· :: []) slash) rfl)
      · exact .inl slash
  · rw [pair]
    exact finds_pair isPair
  · have isName := isName_of_mem_keywords keyword
    have ends : ∀ d, rest.head? = some d → continuesName d = false := fun d next => by
      by_contra continues
      refine whole d next (.letter ?_ (Bool.not_eq_false _ ▸ continues))
      rwa [String.ofList_toList]
    have found := finds_name isName ends
    rwa [wordKind_of_mem_keywords keyword] at found

/-- A word with a single spelling is written in no other way. -/
theorem eq_spelling_of_writtenAs {kind : TokenKind} {value : TokenValue} {written : List Char}
    (hasSpelling : HasSpelling kind) (spelled : WrittenAs (kind, value) written) :
    value = .text (spelling kind) ∧ written = (spelling kind).toList := by
  have textual : value = .text (String.ofList written) ∧ Legal (kind, value) := by
    obtain ⟨notInteger, -⟩ := hasSpelling
    cases kind <;> first | contradiction | exact spelled
  have same : value = .text (spelling kind) := value_of_legal hasSpelling textual.2
  have text : String.ofList written = spelling kind :=
    TokenValue.text.inj (textual.1.symm.trans same)
  exact ⟨same, by rw [← text, String.toList_ofList]⟩

/-- A word that is written at the head of a text is found there, where the next character does not
carry it on. -/
theorem finds_of_writtenAs {written rest : List Char} {content : Content}
    (spelled : WrittenAs content written)
    (whole : ∀ next, rest.head? = some next → ¬ CarriesOn written next) :
    Finds written rest content := by
  obtain ⟨kind, value⟩ := content
  by_cases hasSpelling : HasSpelling kind
  · obtain ⟨same, chars⟩ := eq_spelling_of_writtenAs hasSpelling spelled
    rw [chars] at whole ⊢
    rw [same]
    exact finds_of_fixed hasSpelling whole
  · cases kind with
    | integer =>
      obtain ⟨numeral, rfl⟩ := spelled
      refine finds_integer numeral.nonempty numeral.decimal
        (read_eq_ok.mpr ⟨numeral.decimal, numeral.short, rfl⟩) fun d next => ?_
      exact Bool.eq_false_iff.mpr fun digit => whole d next (.digit numeral digit)
    | identifier =>
      obtain ⟨rfl, w, same, isName, notKeyword⟩ := spelled
      obtain rfl : String.ofList written = w := TokenValue.text.inj same
      have ends : ∀ d, rest.head? = some d → continuesName d = false := fun d next =>
        Bool.eq_false_iff.mpr fun letter => whole d next (.letter isName letter)
      have found := finds_name isName ends
      rwa [wordKind_eq_identifier notKeyword, String.toList_ofList] at found
    | string =>
      obtain ⟨rfl, w, same, isLiteral⟩ := spelled
      obtain rfl : String.ofList written = w := TokenValue.text.inj same
      have found : Finds (String.ofList written).toList rest _ := finds_string isLiteral
      rwa [String.toList_ofList] at found
    | eof => exact absurd spelled.2 id
    | _ => exact absurd (by decide) hasSpelling

/-! ## What is found is written -/

/-- A word that its characters are the value of. -/
theorem writtenAs_of_legal {kind : TokenKind} {written : List Char} (notInteger : kind ≠ .integer)
    (legal : Legal (kind, .text (String.ofList written))) :
    WrittenAs (kind, .text (String.ofList written)) written := by
  cases kind <;> first | exact absurd rfl notInteger | exact ⟨rfl, legal⟩

/-- The head of a text is a word that what follows does not carry on. -/
def Heads (content : Content) (length : Nat) (text : List Char) : Prop :=
  ∃ written rest, text = written ++ rest ∧ length = written.length ∧
    WrittenAs content written ∧ ∀ next, rest.head? = some next → ¬ CarriesOn written next

/-- A mark of two characters, or one that does not form a longer mark with what follows. -/
theorem mark?_eq_some {c : Char} {rest written : List Char} {kind : TokenKind}
    (h : mark? c rest = some (kind, written)) :
    (∃ d rest', rest = d :: rest' ∧ written = [c, d]) ∨
      written = [c] ∧ ∀ d, rest.head? = some d → pairKind? c d = none := by
  unfold mark? at h
  cases rest with
  | nil =>
    obtain ⟨_, -, same⟩ := Option.map_eq_some_iff.mp h
    cases same
    exact .inr ⟨rfl, nofun⟩
  | cons d rest =>
    rw [List.head?_cons, Option.bind_some] at h
    cases longer : pairKind? c d with
    | some kind' =>
      rw [longer] at h
      cases h
      exact .inl ⟨d, rest, rfl, rfl⟩
    | none =>
      rw [longer] at h
      obtain ⟨_, -, same⟩ := Option.map_eq_some_iff.mp h
      cases same
      refine .inr ⟨rfl, ?_⟩
      rintro d' next
      cases next
      exact longer

theorem heads_of_mark {c : Char} {rest written : List Char} {kind : TokenKind}
    (noGap : gapLength false (c :: rest) = 0) (isMark : mark? c rest = some (kind, written)) :
    Heads (kind, .text (String.ofList written)) written.length (c :: rest) := by
  obtain ⟨isStart, hasSpelling, spelled⟩ := mark?_spelling isMark
  have isWord : WrittenAs (kind, .text (String.ofList written)) written := by
    refine writtenAs_of_legal hasSpelling.1 ?_
    rw [← spelled, String.ofList_toList]
    exact legal_fixed hasSpelling
  rcases mark?_eq_some isMark with ⟨d, rest', rfl, rfl⟩ | ⟨rfl, apart⟩
  · refine ⟨[c, d], rest', rfl, rfl, isWord, fun next _ carries => ?_⟩
    rcases carries.of_mark isStart with ⟨kind', longer⟩ | ⟨slash, -⟩
    · obtain none | ⟨d', one, -⟩ := pairKind?_of_spelling longer isStart
      · contradiction
      · cases one
    · cases slash
  · refine ⟨[c], rest, rfl, rfl, isWord, fun next follows carries => ?_⟩
    rcases carries.of_mark isStart with ⟨kind', longer⟩ | ⟨slash, slash'⟩
    · obtain none | ⟨d', one, isPair⟩ := pairKind?_of_spelling longer isStart
      · contradiction
      · cases one
        rw [apart next follows] at isPair
        cases isPair
    · cases slash
      subst slash'
      obtain ⟨rest', rfl⟩ := List.head?_eq_some_iff.mp follows
      cases noGap

theorem literalTail_prefix {cs tail : List Char} (h : literalTail cs = (tail, none)) :
    tail <+: cs := by
  fun_induction literalTail cs generalizing tail with
  | case1 => cases h
  | case2 => cases h
  | case3 e rest escape tail' fault found ih =>
    cases h
    exact List.cons_prefix_cons.mpr ⟨rfl, List.cons_prefix_cons.mpr ⟨rfl, ih found⟩⟩
  | case4 => cases h
  | case5 => cases h
  | case6 =>
    cases h
    exact List.cons_prefix_cons.mpr ⟨rfl, List.nil_prefix⟩
  | case7 c rest notLast notPair notNewline notQuote tail' fault found ih =>
    cases h
    exact List.cons_prefix_cons.mpr ⟨rfl, ih found⟩

theorem heads_of_literal {rest tail : List Char} (isTail : literalTail rest = (tail, none)) :
    Heads (.string, .text (String.ofList ('"' :: tail))) (tail.length + 1) ('"' :: rest) := by
  obtain ⟨rest', rfl⟩ := literalTail_prefix isTail
  refine ⟨'"' :: tail, rest', rfl, rfl, ⟨rfl, _, rfl, tail, ?_, ?_⟩,
    fun _ _ => CarriesOn.not_of_quote⟩
  · exact String.toList_ofList
  · exact literalBody_of_literalTail isTail

/-- A run of characters with a property ends before one without it. -/
theorem not_of_head_dropWhile {p : Char → Bool} {cs : List Char} {next : Char}
    (follows : (cs.dropWhile p).head? = some next) : ¬ p next = true := by
  have stops := List.head?_dropWhile_not p cs
  rw [follows] at stops
  exact Bool.eq_false_iff.mp stops

theorem heads_of_digits {c : Char} {rest : List Char} {n : Nat} (first : isDigit c = true)
    (read : Numeral.read ((c :: rest).takeWhile isDigit) = .ok n) :
    Heads (.integer, .number n) ((c :: rest).takeWhile isDigit).length (c :: rest) := by
  obtain ⟨decimal, short, rfl⟩ := read_eq_ok.mp read
  have starts : (c :: rest).takeWhile isDigit = c :: rest.takeWhile isDigit := by
    rw [List.takeWhile_cons, if_pos first]
  refine ⟨(c :: rest).takeWhile isDigit, (c :: rest).dropWhile isDigit,
    List.takeWhile_append_dropWhile.symm, rfl, ⟨⟨?_, decimal, short⟩, rfl⟩, ?_⟩
  · rw [starts]
    exact List.cons_ne_nil _ _
  · intro next follows carries
    rw [starts] at carries
    exact not_of_head_dropWhile follows (carries.of_digit first)

theorem heads_of_name {c : Char} {rest : List Char} (starts : startsName c = true) :
    let tail := rest.takeWhile continuesName
    let word := String.ofList (c :: tail)
    Heads (wordKind word, .text word) (tail.length + 1) (c :: rest) := by
  intro tail word
  have isName : IsName word := by
    refine ⟨c, tail, String.toList_ofList, starts, fun d mem => ?_⟩
    exact List.mem_takeWhile_imp mem
  have legal : Legal (wordKind word, .text word) := legal_of_isName isName
  have notInteger : wordKind word ≠ .integer := by
    intro integer
    rw [integer] at legal
    obtain ⟨n, same, -⟩ := legal
    cases same
  refine ⟨c :: tail, rest.dropWhile continuesName, ?_, rfl,
    writtenAs_of_legal notInteger legal, ?_⟩
  · rw [List.cons_append, List.takeWhile_append_dropWhile]
  · intro next follows carries
    exact not_of_head_dropWhile follows (carries.of_name starts)

/-- A word that the scanner finds, where no gap begins, is written at the head of the text and the
next character does not carry it on. -/
theorem heads_of_scan {c : Char} {rest : List Char} {content : Content}
    (noGap : gapLength false (c :: rest) = 0) (h : (scan c rest).result = .ok content) :
    Heads content (scan c rest).length (c :: rest) := by
  unfold scan at h ⊢
  cases isMark : mark? c rest with
  | some found =>
    rw [isMark] at h
    cases h
    exact heads_of_mark noGap isMark
  | none =>
    rw [isMark] at h
    simp only at h ⊢
    by_cases isQuote : c = '"'
    · subst isQuote
      rw [if_pos rfl] at h ⊢
      cases isTail : literalTail rest with
      | mk tail fault =>
        simp only [scanString, isTail] at h ⊢
        cases fault with
        | some fault => cases h
        | none =>
          cases h
          exact heads_of_literal isTail
    rw [if_neg isQuote] at h ⊢
    by_cases first : isDigit c = true
    · rw [if_pos first] at h ⊢
      have some : ((c :: rest).takeWhile isDigit).isEmpty = false := by
        rw [List.takeWhile_cons, if_pos first, List.isEmpty_cons]
      rw [scanInteger, some] at h ⊢
      simp only [Bool.false_eq_true, if_false] at h ⊢
      cases read : Numeral.read ((c :: rest).takeWhile isDigit) with
      | error error =>
        rw [read] at h
        cases h
      | ok n =>
        rw [read] at h
        cases h
        exact heads_of_digits first read
    rw [if_neg first] at h ⊢
    by_cases starts : startsName c = true
    · rw [if_pos starts, scanName, if_pos starts] at h ⊢
      cases h
      exact heads_of_name starts
    · rw [if_neg starts] at h
      cases h

end Minim.Lexeme
