import Minim.Token.Lexeme

/-!
# Letters, digits and blanks

The first character of a lexeme tells its sort because no character is of two of them. The tables
are compared in one pass over both.
-/

namespace Minim

namespace Unicode

/-- Two tables without a code point in common. The ranges of the first are gone through, and those
of the second that end before the current one are dropped on the way. -/
def Ranges.apart : Ranges → Ranges → Bool
  | [], _ => true
  | (low, high) :: a, b =>
    let ahead := b.dropWhile (·.2 < low)
    (match ahead with
      | [] => true
      | (next, _) :: _ => high < next) && apart a ahead

theorem Ranges.contains_of_dropWhile {b : Ranges} {low n : Nat} (reached : low ≤ n)
    (ahead : Ranges.contains (b.dropWhile (·.2 < low)) n = false) : b.contains n = false := by
  induction b with
  | nil => rfl
  | cons y b ih =>
    rw [List.dropWhile_cons] at ahead
    by_cases before : y.2 < low
    · rw [if_pos (decide_eq_true before)] at ahead
      rw [contains, ih ahead, if_neg (by omega : ¬ n ≤ y.2)]
      exact ite_self false
    · rwa [if_neg (by simpa using before)] at ahead

theorem Ranges.contains_of_apart {a b : Ranges} (apart : a.apart b = true) {n : Nat}
    (inA : a.contains n = true) : b.contains n = false := by
  induction a generalizing b with
  | nil => cases inA
  | cons x a ih =>
    rw [Ranges.apart, Bool.and_eq_true] at apart
    obtain ⟨here, others⟩ := apart
    rw [contains] at inA
    by_cases before : n < x.1
    · rw [if_pos before] at inA
      cases inA
    · rw [if_neg before] at inA
      refine contains_of_dropWhile (Nat.le_of_not_lt before) ?_
      by_cases within : n ≤ x.2
      · cases ahead : b.dropWhile (·.2 < x.1) with
        | nil => rfl
        | cons y b' =>
          simp only [ahead, decide_eq_true_eq] at here
          rw [contains, if_pos (by omega)]
      · rw [if_neg within] at inA
        exact ih others inA

/-- The decimal systems as ranges. -/
def decimalRanges (zeros : List Nat) : Ranges :=
  zeros.map fun base => (base, base + 9)

theorem contains_decimalRanges {zeros : List Nat} {n : Nat} :
    (decimalRanges zeros).contains n = (valueFrom zeros n).isSome := by
  induction zeros with
  | nil => rfl
  | cons base zeros ih =>
    rw [decimalRanges, List.map_cons, Ranges.contains, valueFrom]
    by_cases before : n < base
    · rw [if_pos before, if_pos before]
      rfl
    · rw [if_neg before, if_neg before]
      by_cases within : n < base + 10
      · rw [if_pos (by omega), if_pos within]
        rfl
      · rw [if_neg (by omega), if_neg within]
        exact ih

theorem isDigit_of_isLetter {c : Char} (letter : isLetter c = true) : isDigit c = false := by
  have decimals : letterRanges.apart (decimalRanges decimalZeros) = true := by decide +kernel
  have others : letterRanges.apart singleDigitRanges = true := by decide +kernel
  have notDecimal := Ranges.contains_of_apart decimals letter
  rw [contains_decimalRanges] at notDecimal
  rw [isDigit, isDecimal, decimalValue?, notDecimal, Ranges.contains_of_apart others letter]
  rfl

theorem isBlank_of_isLetter {c : Char} (letter : isLetter c = true) : isBlank c = false :=
  Ranges.contains_of_apart (by decide +kernel) letter

theorem isBlank_of_isDecimal {c : Char} (decimal : isDecimal c = true) : isBlank c = false := by
  rw [isDecimal, decimalValue?, ← contains_decimalRanges] at decimal
  exact Ranges.contains_of_apart (by decide +kernel) decimal

theorem isBlank_of_isDigit {c : Char} (digit : isDigit c = true) : isBlank c = false := by
  rcases Bool.or_eq_true_iff.mp digit with decimal | single
  · exact isBlank_of_isDecimal decimal
  · exact Ranges.contains_of_apart (by decide +kernel) single

end Unicode

namespace Lexeme

open Unicode

theorem isDigit_of_startsName {c : Char} (starts : startsName c = true) : isDigit c = false := by
  rw [startsName, Bool.or_eq_true, decide_eq_true_eq] at starts
  rcases starts with letter | rfl
  · exact isDigit_of_isLetter letter
  · decide

theorem isBlank_of_startsName {c : Char} (starts : startsName c = true) : isBlank c = false := by
  rw [startsName, Bool.or_eq_true, decide_eq_true_eq] at starts
  rcases starts with letter | rfl
  · exact isBlank_of_isLetter letter
  · decide

end Lexeme

end Minim
