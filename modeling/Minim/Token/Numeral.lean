import Minim.Text.Decimal
import Minim.Text.Quoted
import Minim.Unicode.Digit

/-!
Numerals: what a run of digits denotes. Decimal digits of any system may be mixed. A run fails if
it holds a digit outside the decimal systems, or if its decimal part is longer than the limit. The
limit holds the other way round too: a number with more digits is not written.
-/

namespace Minim

/-- Why a run of digits denotes no number. -/
inductive NumeralError
  | tooLong (digits : Nat)
  | notDecimal (written : String)
  deriving DecidableEq, Repr

/-- Why a number is not written. -/
inductive WritingError
  | tooLong
  deriving DecidableEq, Repr

namespace Numeral

/-- The most decimal digits a numeral may have, zeros in front included. -/
def digitLimit : Nat := 4300

/-- How much of a faulty numeral a message shows. -/
def shownLimit : Nat := 200

/-- The number that decimal digits denote, the first one worth the most. -/
def value (digits : List Char) : Nat :=
  digits.foldl (fun n c => 10 * n + (Unicode.decimalValue? c).getD 0) 0

/-- The number a run of digits denotes. The length of its decimal part is judged first. -/
def read (digits : List Char) : Except NumeralError Nat :=
  let decimals := (digits.takeWhile Unicode.isDecimal).length
  if digitLimit < decimals then .error (.tooLong decimals)
  else if decimals < digits.length then .error (.notDecimal (String.ofList digits))
  else .ok (value digits)

/-- A number that has no more digits than a numeral may have. A sign does not count. -/
def IsShort (n : Int) : Prop := n.natAbs < Nat.pow 10 digitLimit

instance : DecidablePred IsShort := fun n => inferInstanceAs (Decidable (n.natAbs < _))

/-- A number in digits, unless there are too many of them. -/
def write (n : Int) : Except WritingError String :=
  if IsShort n then .ok (Text.decimal n) else .error .tooLong

end Numeral

/-- The wording of a fault in a numeral. -/
def NumeralError.message : NumeralError → String
  | tooLong digits =>
    "Exceeds the limit (" ++ Text.decimalNat Numeral.digitLimit ++
      " digits) for integer string conversion: value has " ++ Text.decimalNat digits ++
      " digits; use sys.set_int_max_str_digits() to increase the limit"
  | notDecimal written =>
    "invalid literal for int() with base 10: " ++ Text.quotedUpTo Numeral.shownLimit written

/-- The wording of a fault in writing a number. -/
def WritingError.message : WritingError → String
  | tooLong =>
    "Exceeds the limit (" ++ Text.decimalNat Numeral.digitLimit ++
      " digits) for integer string conversion; " ++
      "use sys.set_int_max_str_digits() to increase the limit"

end Minim
