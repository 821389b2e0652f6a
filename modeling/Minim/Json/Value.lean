import Minim.Text.Decimal
import Minim.Text.Hex

/-!
JSON values with integers only, whose objects keep their members in the order in which they were
given, and their text: members and items on lines of their own, indented by two columns a level, in
printable ASCII.
-/

namespace Minim.Json

/-- A JSON value. -/
inductive Value
  | null
  | bool (value : Bool)
  | int (value : Int)
  | string (value : String)
  | array (items : List Value)
  | object (members : List (String × Value))
  deriving Inhabited

/-- A number or nothing. -/
def Value.ofOption : Option Int → Value
  | none => null
  | some n => int n

/-! ## Strings -/

/-- A UTF-16 unit by its number. -/
def unitEscape (unit : Nat) : List Char := '\\' :: 'u' :: Text.hex 4 unit

/-- One character inside a string: printable ASCII as it is, five controls by a letter, any other
character by its UTF-16 units. -/
def escapeChar (c : Char) : List Char :=
  if c = '"' ∨ c = '\\' then ['\\', c]
  else if c = '\n' then ['\\', 'n']
  else if c = '\r' then ['\\', 'r']
  else if c = '\t' then ['\\', 't']
  else if c = '\x08' then ['\\', 'b']
  else if c = '\x0c' then ['\\', 'f']
  else if ' ' ≤ c ∧ c ≤ '~' then [c]
  else if c.toNat < 0x10000 then unitEscape c.toNat
  else
    let above := c.toNat - 0x10000
    unitEscape (0xD800 + above / 0x400) ++ unitEscape (0xDC00 + above % 0x400)

/-- A string in quotes. -/
def stringText (s : String) : String :=
  String.ofList ('"' :: s.toList.flatMap escapeChar ++ ['"'])

/-! ## Values -/

/-- A newline and the indentation of a level. -/
def newline (level : Nat) : String := "\n" ++ Text.spaces (2 * level)

mutual

/-- The text of a value whose surroundings are indented by `level`. -/
def Value.render (level : Nat) : Value → String
  | .null => "null"
  | .bool value => if value then "true" else "false"
  | .int value => Text.decimal value
  | .string s => stringText s
  | .array [] => "[]"
  | .array (v :: vs) =>
    "[" ++ newline (level + 1) ++ v.render (level + 1) ++ Value.renderItems (level + 1) vs ++
      newline level ++ "]"
  | .object [] => "\x7b\x7d"
  | .object ((name, v) :: members) =>
    "\x7b" ++ newline (level + 1) ++ stringText name ++ ": " ++ v.render (level + 1) ++
      Value.renderMembers (level + 1) members ++ newline level ++ "\x7d"

/-- The items after the first one. -/
def Value.renderItems (level : Nat) : List Value → String
  | [] => ""
  | v :: vs => "," ++ newline level ++ v.render level ++ Value.renderItems level vs

/-- The members after the first one. -/
def Value.renderMembers (level : Nat) : List (String × Value) → String
  | [] => ""
  | (name, v) :: members =>
    "," ++ newline level ++ stringText name ++ ": " ++ v.render level ++
      Value.renderMembers level members

end

end Minim.Json
