/-!
Decimal notation of integers.
-/

namespace Minim.Text

/-- The decimal digits of a natural number. -/
def decimalNat (n : Nat) : String :=
  String.ofList (Nat.toDigits 10 n)

/-- The decimal digits of an integer, after a minus sign if it is negative. -/
def decimal (n : Int) : String :=
  if n < 0 then "-" ++ decimalNat n.natAbs else decimalNat n.natAbs

theorem decimal_natCast (n : Nat) : decimal n = decimalNat n := by
  simp [decimal, Int.not_lt.mpr (Int.natCast_nonneg n)]

theorem decimalNat_eq_toString (n : Nat) : decimalNat n = toString n :=
  Nat.toString_eq_ofList_toDigits.symm

/-- A number is known by its digits. -/
theorem decimalNat_inj {m n : Nat} : decimalNat m = decimalNat n ↔ m = n := by
  refine ⟨fun same => ?_, congrArg decimalNat⟩
  rw [← Nat.ofDigitChars_ten_toDigits (n := m), ← Nat.ofDigitChars_ten_toDigits (n := n),
    String.ofList_injective same]

/-- A text moved to the right end of a field of the given width. -/
def padLeft (width : Nat) (text : String) : String :=
  String.ofList (List.replicate (width - text.length) ' ') ++ text

/-- As many spaces as the width says, none for a negative one. -/
def spaces (width : Int) : String :=
  String.ofList (List.replicate width.toNat ' ')

end Minim.Text
