import Minim.Text.Hex
import Minim.Unicode.Printable

/-!
Quoted texts: how a text is shown inside a message. Single quotes enclose it, unless it holds a
single quote and no double quote; then double quotes do.
-/

namespace Minim.Text

/-- The quote that encloses a text. -/
def delimiter (cs : List Char) : Char :=
  if cs.contains '\'' && !cs.contains '"' then '"' else '\''

/-- How one character is written between two quotes: the quote and the backslash after a backslash,
newline, return and tab by a letter, other unprintable characters by their code point. -/
def quotedChar (quote c : Char) : List Char :=
  if c = quote ∨ c = '\\' then ['\\', c]
  else if c = '\n' then ['\\', 'n']
  else if c = '\r' then ['\\', 'r']
  else if c = '\t' then ['\\', 't']
  else if Unicode.isPrintable c then [c]
  else if c.toNat < 0x100 then '\\' :: 'x' :: hex 2 c.toNat
  else if c.toNat < 0x10000 then '\\' :: 'u' :: hex 4 c.toNat
  else '\\' :: 'U' :: hex 8 c.toNat

/-- The characters of a text between quotes. -/
def quotedChars (cs : List Char) : List Char :=
  let quote := delimiter cs
  quote :: cs.flatMap (quotedChar quote) ++ [quote]

/-- A text between quotes. -/
def quoted (text : String) : String :=
  String.ofList (quotedChars text.toList)

/-- At most the first `limit` characters of a text between quotes. -/
def quotedUpTo (limit : Nat) (text : String) : String :=
  String.ofList ((quotedChars text.toList).take limit)

end Minim.Text
