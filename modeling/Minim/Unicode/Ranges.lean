/-!
Sets of code points kept as ascending closed ranges, the form in which the character properties of
the language are tabulated.
-/

namespace Minim.Unicode

/-- Closed ranges of code points in ascending order. -/
abbrev Ranges := List (Nat × Nat)

namespace Ranges

/-- Whether a code point lies in one of the ranges. The ranges ascend, so the search ends at the
first one that begins after the point. -/
def contains : Ranges → Nat → Bool
  | [], _ => false
  | (low, high) :: rest, n =>
    if n < low then false else if n ≤ high then true else contains rest n

/-! ## Membership -/

@[simp] theorem contains_nil (n : Nat) : contains [] n = false := rfl

/-- A point found in the table lies between the ends of one of its ranges. -/
theorem exists_range_of_contains {ranges : Ranges} {n : Nat} (found : ranges.contains n = true) :
    ∃ range ∈ ranges, range.1 ≤ n ∧ n ≤ range.2 := by
  induction ranges with
  | nil => simp at found
  | cons range rest ih =>
    obtain ⟨low, high⟩ := range
    simp only [contains] at found
    split at found
    · cases found
    · split at found
      · exact ⟨(low, high), by simp, by omega, by omega⟩
      · obtain ⟨range, inRest, bounds⟩ := ih found
        exact ⟨range, List.mem_cons_of_mem _ inRest, bounds⟩

end Ranges

end Minim.Unicode
