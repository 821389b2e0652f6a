import Minim.Sequence
import Minim.Token

/-!
Token streams: a list of tokens and a place in it. Past the last token the stream shows an end of
text at `0:0`, and moving on there only counts.
-/

namespace Minim

/-- A place in a list of tokens. -/
structure TokenStream where
  all : List Token
  pos : Nat := 0
  rest : List Token := all
  deriving DecidableEq, Repr

namespace TokenStream

/-- The beginning of a list of tokens. -/
def ofList (tokens : List Token) : TokenStream := { all := tokens, rest := tokens }

/-- The token to be read next. -/
def current (s : TokenStream) : Token := s.rest.headD Token.endOfList

/-- The token a number of places after the one to be read next. -/
def ahead (s : TokenStream) (n : Nat) : Token := s.rest[n]?.getD Token.endOfList

/-- The place one token on. -/
def advance (s : TokenStream) : TokenStream :=
  { s with pos := s.pos + 1, rest := s.rest.tail }

/-- The token at an offset from the one to be read next, before it or after it. A place before the
first token is counted from the end of the list, which it may miss. -/
def lookAt? (s : TokenStream) (offset : Int) : Option Token :=
  -- A place past the last token shows the end of the text, one before the first may show nothing.
  let place := s.pos + offset
  if place < s.all.length then itemAt? s.all place else some Token.endOfList

/-! ## Moving -/

@[simp] theorem current_ofList_nil : (ofList []).current = Token.endOfList := rfl

@[simp] theorem rest_advance (s : TokenStream) : s.advance.rest = s.rest.tail := rfl

@[simp] theorem pos_advance (s : TokenStream) : s.advance.pos = s.pos + 1 := rfl

@[simp] theorem all_advance (s : TokenStream) : s.advance.all = s.all := rfl

/-- Where the current token is not the end of the text, there is one to read. -/
theorem rest_eq_cons_of_current {s : TokenStream} (h : s.current.kind ≠ .eof) :
    s.rest = s.current :: s.rest.tail := by
  cases rest : s.rest with
  | nil => exact absurd (by simp [current, rest, Token.endOfList]) h
  | cons token tokens => simp [current, rest]

/-- A struct declaration begins: the keyword, a name and an opening brace. -/
def atStructDecl (s : TokenStream) : Bool :=
  s.current.kind = .structWord && (s.ahead 1).kind = .identifier && (s.ahead 2).kind = .lbrace

/-- A variable declaration begins: a type, but not a struct declaration. -/
def atVariableDecl (s : TokenStream) : Bool :=
  match s.current.kind with
  | .intType | .boolType | .voidType => true
  | .structWord => !s.atStructDecl
  | _ => false

end TokenStream

end Minim
