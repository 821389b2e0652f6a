import Minim.Token
import Minim.Token.Numeral
import Minim.Unicode.Blank
import Minim.Unicode.Letter

/-!
Lexemes: how the characters at the head of a text are taken together. A text alternates between
gaps, made of blanks and comments, and lexemes. Everything here speaks of characters and lengths
only; positions are the business of the cursor that walks over them.
-/

namespace Minim.Lexeme

/-- Why no lexeme begins where one was looked for. -/
inductive Fault
  | unexpected (c : Char)
  | unterminatedString
  | illegalEscape
  | expectedInteger
  | expectedIdentifier
  | numeral (error : NumeralError)
  deriving DecidableEq, Repr

/-- What a scan finds: a result or a fault, and how many characters it walks over either way. -/
structure Scan (α : Type) where
  result : Except Fault α
  length : Nat

/-! ## Gaps -/

/-- The length of the blanks and comments at the head of a text, inside a comment or not. A comment
runs from two slashes through the next newline. -/
def gapLength : (inComment : Bool) → List Char → Nat
  | _, [] => 0
  | true, c :: rest => gapLength (c != '\n') rest + 1
  | false, '/' :: '/' :: rest => gapLength true rest + 2
  | false, c :: rest => if Unicode.isBlank c then gapLength false rest + 1 else 0

/-! ## Operators and punctuation -/

/-- The operators of two characters. -/
def pairKind? : Char → Char → Option TokenKind
  | '=', '=' => some .eq
  | '!', '=' => some .neq
  | '<', '=' => some .lte
  | '>', '=' => some .gte
  | '<', '<' => some .writeOp
  | '>', '>' => some .readOp
  | '&', '&' => some .andOp
  | '|', '|' => some .orOp
  | '+', '+' => some .increment
  | '-', '-' => some .decrement
  | _, _ => none

/-- The operators and marks of one character. -/
def singleKind? : Char → Option TokenKind
  | '+' => some .plus
  | '-' => some .minus
  | '*' => some .star
  | '/' => some .slash
  | '(' => some .lparen
  | ')' => some .rparen
  | '{' => some .lbrace
  | '}' => some .rbrace
  | ',' => some .comma
  | '.' => some .dot
  | ';' => some .semicolon
  | '=' => some .assign
  | '<' => some .lt
  | '>' => some .gt
  | '!' => some .notOp
  | _ => none

/-! ## Integers -/

/-- A run of digits as a number. -/
def scanInteger (cs : List Char) : Scan Nat :=
  let digits := cs.takeWhile Unicode.isDigit
  if digits.isEmpty then ⟨.error .expectedInteger, 0⟩
  else ⟨(Numeral.read digits).mapError .numeral, digits.length⟩

/-! ## String literals -/

/-- The characters that may follow a backslash. -/
def isEscape (c : Char) : Bool :=
  c = 'n' || c = 't' || c = '"' || c = '\\' || c = '\''

/-- The characters of a literal after its first one, through the closing quote. With a fault come
the characters before it. -/
def literalTail : List Char → List Char × Option Fault
  | [] => ([], some .unterminatedString)
  | ['\\'] => ([], some .illegalEscape)
  | '\\' :: e :: rest =>
    if isEscape e then
      let (tail, fault) := literalTail rest
      ('\\' :: e :: tail, fault)
    else ([], some .illegalEscape)
  | c :: rest =>
    if c = '\n' then ([], some .unterminatedString)
    else if c = '"' then ([c], none)
    else
      let (tail, fault) := literalTail rest
      (c :: tail, fault)

/-- A literal as it was written, quotes and escapes included. Its first character is taken as it
is; where there is none the walk still moves on by one. -/
def scanString : List Char → Scan String
  | [] => ⟨.error .unterminatedString, 1⟩
  | c :: rest =>
    match literalTail rest with
    | (tail, none) => ⟨.ok (String.ofList (c :: tail)), tail.length + 1⟩
    | (tail, some fault) => ⟨.error fault, tail.length + 1⟩

/-! ## Names -/

/-- Whether a character may begin a name. -/
def startsName (c : Char) : Bool :=
  Unicode.isLetter c || c = '_'

/-- Whether a character may stand inside a name. -/
def continuesName (c : Char) : Bool :=
  Unicode.isAlphanumeric c || c = '_'

/-- A name: a letter or an underscore and all that continues it. -/
def scanName : List Char → Scan String
  | [] => ⟨.error .expectedIdentifier, 0⟩
  | c :: rest =>
    if startsName c then
      let tail := rest.takeWhile continuesName
      ⟨.ok (String.ofList (c :: tail)), tail.length + 1⟩
    else ⟨.error .expectedIdentifier, 0⟩

/-- The words that are not names. -/
def keywords : List (String × TokenKind) :=
  [("while", .whileWord), ("if", .ifWord), ("else", .elseWord), ("return", .returnWord),
    ("input", .inputWord), ("disp", .dispWord), ("struct", .structWord), ("void", .voidType),
    ("int", .intType), ("bool", .boolType), ("true", .trueWord), ("false", .falseWord)]

/-- The kind of a word with the form of a name. -/
def wordKind (word : String) : TokenKind :=
  (keywords.lookup word).getD .identifier

/-! ## Lexemes -/

/-- A kind and a value, the parts of a token that its lexeme determines. -/
abbrev Content := TokenKind × TokenValue

/-- The mark or operator at the head of a text, the longer one first. -/
def mark? (c : Char) (rest : List Char) : Option (TokenKind × List Char) :=
  match rest.head?.bind fun d => (pairKind? c d).map fun kind => (kind, [c, d]) with
  | some found => some found
  | none => (singleKind? c).map fun kind => (kind, [c])

/-- The lexeme that begins with `c`: a mark or operator, a string, an integer, or a word. -/
def scan (c : Char) (rest : List Char) : Scan Content :=
  match mark? c rest with
  | some (kind, written) => ⟨.ok (kind, .text (String.ofList written)), written.length⟩
  | none =>
    if c = '"' then
      let found := scanString (c :: rest)
      ⟨found.result.map fun text => (.string, .text text), found.length⟩
    else if Unicode.isDigit c then
      let found := scanInteger (c :: rest)
      ⟨found.result.map fun n => (.integer, .number n), found.length⟩
    else if startsName c then
      let found := scanName (c :: rest)
      ⟨found.result.map fun word => (wordKind word, .text word), found.length⟩
    else ⟨.error (.unexpected c), 0⟩

/-! ## Lengths -/

theorem mark?_length {c : Char} {rest : List Char} {kind : TokenKind} {written : List Char}
    (h : mark? c rest = some (kind, written)) : 0 < written.length := by
  unfold mark? at h
  split at h
  · rename_i found isFound
    cases h
    obtain ⟨d, -, found⟩ := Option.bind_eq_some_iff.mp isFound
    obtain ⟨_, -, same⟩ := Option.map_eq_some_iff.mp found
    cases same
    simp
  · obtain ⟨_, -, same⟩ := Option.map_eq_some_iff.mp h
    cases same
    simp

/-- A scan that finds a lexeme walks over at least its first character. -/
theorem scan_length {c : Char} {rest : List Char} {content : Content}
    (h : (scan c rest).result = .ok content) : 0 < (scan c rest).length := by
  unfold scan at h ⊢
  split
  · rename_i isMark
    exact mark?_length isMark
  · rename_i noMark
    simp only [noMark] at h
    split
    · simp only [scanString]
      split <;> simp
    · rename_i notQuote
      simp only [notQuote] at h
      split
      · rename_i digit
        simp [scanInteger, digit]
      · rename_i notDigit
        simp only [notDigit] at h
        split
        · rename_i starts
          simp [scanName, starts]
        · rename_i notName
          simp [notName] at h

end Minim.Lexeme
