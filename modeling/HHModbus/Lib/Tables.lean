import Mathlib.Logic.Function.Basic

/-!
# Tables

Partial maps in which one entry changes.
-/
namespace Tables

variable {κ β : Type*} [DecidableEq κ] {table : κ → Option β} {i : κ} {x : Option β}

/-- What is there after one entry has changed is the new entry, or was there before. -/
theorem present_update {j : κ} {b : β} (present : Function.update table i x j = some b) :
    (j = i ∧ x = some b) ∨ (j ≠ i ∧ table j = some b) := by
  by_cases here : j = i
  · subst here
    rw [Function.update_self] at present
    exact .inl ⟨rfl, present⟩
  · rw [Function.update_of_ne here] at present
    exact .inr ⟨here, present⟩

theorem every_update {P : β → Prop} (others : ∀ j b, j ≠ i → table j = some b → P b)
    (own : ∀ b, x = some b → P b) (j : κ) (b : β)
    (present : Function.update table i x j = some b) : P b := by
  rcases present_update present with ⟨-, here⟩ | ⟨other, old⟩
  · exact own b here
  · exact others j b other old

/-- The only entry has gone. -/
theorem absent_update (only : ∀ j b, table j = some b → j = i) (j : κ) :
    Function.update table i none j = none := by
  refine Option.eq_none_iff_forall_ne_some.mpr fun b present => ?_
  rcases present_update present with ⟨-, here⟩ | ⟨other, old⟩
  · cases here
  · exact other (only j b old)

end Tables
