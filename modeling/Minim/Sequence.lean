/-!
Places in a list given by an integer: counted from the start, or from the end if negative, the last
item being `-1`.
-/

namespace Minim

/-- The place counted from the start, of those that a list of a length has. -/
def placeIn? (length : Nat) (place : Int) : Option Nat :=
  let fromStart := if place < 0 then length + place else place
  if 0 ≤ fromStart ∧ fromStart < length then some fromStart.toNat else none

/-- The item at a place of a list, if the list has that place. -/
def itemAt? {α : Type} (items : List α) (place : Int) : Option α :=
  (placeIn? items.length place).bind (items[·]?)

theorem placeIn?_lt {length n : Nat} {place : Int} (h : placeIn? length place = some n) :
    n < length := by
  simp only [placeIn?, Option.ite_none_right_eq_some, Option.some.injEq] at h
  omega

/-- A list has the places from minus its length up to below its length. -/
theorem placeIn?_isSome (length : Nat) (place : Int) :
    (placeIn? length place).isSome = true ↔ -length ≤ place ∧ place < length := by
  simp only [placeIn?, Option.isSome_ite]
  split <;> omega

/-- A place that a list has is one of its items'. -/
theorem itemAt?_isSome {α : Type} (items : List α) (place : Int) :
    (itemAt? items place).isSome = true ↔ -items.length ≤ place ∧ place < items.length := by
  rw [← placeIn?_isSome, itemAt?]
  cases h : placeIn? items.length place with
  | none => simp
  | some n => simp [placeIn?_lt h]

/-- Counting from the start finds the items of the list. -/
@[simp] theorem itemAt?_natCast {α : Type} (items : List α) (n : Nat) :
    itemAt? items n = items[n]? := by
  have h0 : ¬(n : Int) < 0 := by omega
  by_cases h : n < items.length <;> simp [itemAt?, placeIn?, h, h0]

/-- The places of a list do not depend on what the items are. -/
theorem itemAt?_map {α β : Type} (f : α → β) (items : List α) (place : Int) :
    itemAt? (items.map f) place = (itemAt? items place).map f := by
  rw [itemAt?, itemAt?, List.length_map]
  cases placeIn? items.length place with
  | none => rfl
  | some n => exact List.getElem?_map

end Minim
