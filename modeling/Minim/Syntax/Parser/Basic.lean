import Minim.Syntax.ParseError
import Minim.Syntax.TokenStream

/-!
Parsers: functions of a token stream that give a value or a syntax error, and in either case the
place they reached.
-/

namespace Minim

/-- A parser of values of a type. -/
abbrev Parser := EStateM ParseError TokenStream

namespace Parser

/-- The token to be read next. -/
def current : Parser Token := fun s => .ok s.current s

/-- Move on by one token. -/
def advance : Parser Unit := fun s => .ok () s.advance

/-- Fail at a position. -/
def failAt {α : Type} (pos : Position) (fault : SyntaxFault) : Parser α :=
  throw ⟨pos, fault⟩

/-- Fail at the current token. -/
def fail {α : Type} (fault : SyntaxFault) : Parser α := fun s => .error ⟨s.current.pos, fault⟩ s

/-- Take a token of the wanted kind, or fail as `fault` says of the kind that is there. -/
def take (wanted : TokenKind) (fault : TokenKind → SyntaxFault) : Parser Token := do
  let token ← current
  if token.kind = wanted then
    advance
    return token
  else fail (fault token.kind)

/-- Take a token of the wanted kind, which a failure names. -/
def expect (wanted : TokenKind) : Parser Token :=
  take wanted (.expectedToken wanted)

/-- Take a token of the wanted kind, whose absence is reported as the missing part. -/
def require (wanted : TokenKind) (part : Missing) : Parser Token :=
  take wanted fun _ => .missing part

/-- Take a token of the wanted kind if there is one. -/
def accept (wanted : TokenKind) : Parser Bool := do
  if (← current).kind = wanted then
    advance
    return true
  else return false

/-- Items as long as one begins here, at most `limit` of them. -/
def itemsWhile {α : Type} (begins : TokenStream → Bool) (item : Parser α) :
    Nat → Parser (List α)
  | 0 => return []
  | limit + 1 => do
    if begins (← get) then
      let first ← item
      let others ← itemsWhile begins item limit
      return first :: others
    else return []

/-- Items as long as one begins here. Each takes a token, so there are no more than tokens. -/
def many {α : Type} (begins : TokenStream → Bool) (item : Parser α) : Parser (List α) := do
  itemsWhile begins item (← get).rest.length

end Parser

end Minim
