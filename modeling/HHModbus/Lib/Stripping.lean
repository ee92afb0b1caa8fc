import Mathlib.Data.List.DropRight

/-!
# Stripping both ends

What is left of a list without the elements at its ends that satisfy a test.
-/
namespace Stripping

variable {α : Type*} {p : α → Bool}

/-- Neither end of the list satisfies the test. -/
structure Bare (p : α → Bool) (l : List α) : Prop where
  first : ∀ nonempty : l ≠ [], ¬ p (l.head nonempty)
  last : ∀ nonempty : l ≠ [], ¬ p (l.getLast nonempty)

theorem Bare.dropWhile_eq {l : List α} (bare : Bare p l) : l.dropWhile p = l := by
  refine List.dropWhile_eq_self_iff.mpr fun positive => ?_
  have first := bare.first (List.ne_nil_of_length_pos positive)
  rwa [List.head_eq_getElem] at first

theorem Bare.rdropWhile_eq {l : List α} (bare : Bare p l) : l.rdropWhile p = l :=
  List.rdropWhile_eq_self_iff.mpr bare.last

/-- `t` is `s` without the elements at its ends that satisfy the test. -/
structure Strips (p : α → Bool) (s t : List α) : Prop where
  parts : ∃ before after, s = before ++ t ++ after ∧ (∀ a ∈ before, p a) ∧ ∀ a ∈ after, p a
  bare : Bare p t

/-- Dropping at the front and then at the back strips a list. -/
theorem strips_drop (p : α → Bool) (s : List α) : Strips p s ((s.dropWhile p).rdropWhile p) where
  parts := by
    refine ⟨s.takeWhile p, (s.dropWhile p).rtakeWhile p, ?_, fun _ => List.mem_takeWhile_imp,
      fun _ => List.mem_rtakeWhile_imp⟩
    rw [List.append_assoc, List.rdropWhile_append_rtakeWhile, List.takeWhile_append_dropWhile]
  bare := by
    refine ⟨fun nonempty => ?_, List.rdropWhile_last_not p _⟩
    -- Dropping at the back keeps the first element.
    rw [(List.rdropWhile_prefix p (s.dropWhile p)).head nonempty]
    exact Bool.not_eq_true _ ▸ List.head_dropWhile_not p _

theorem Strips.eq_drop {s t : List α} (strips : Strips p s t) :
    t = (s.dropWhile p).rdropWhile p := by
  obtain ⟨before, after, rfl, front, back⟩ := strips.parts
  rw [List.append_assoc, List.dropWhile_append_of_pos front]
  by_cases empty : t = []
  · rw [empty, List.nil_append, List.dropWhile_eq_nil_iff.mpr back, List.rdropWhile_nil]
  · have bare : (t ++ after).dropWhile p = t ++ after := by
      refine List.dropWhile_eq_self_iff.mpr fun _ => ?_
      have first := strips.bare.first empty
      rw [List.getElem_append_left (List.length_pos_of_ne_nil empty)]
      rwa [List.head_eq_getElem] at first
    have reversed : ∀ a ∈ after.reverse, p a := fun a member => back a (List.mem_reverse.mp member)
    rw [bare, List.rdropWhile, List.reverse_append, List.dropWhile_append_of_pos reversed]
    exact strips.bare.rdropWhile_eq.symm

/-- What strips to nothing consists of elements that satisfy the test. -/
theorem Strips.all_of_nil {s : List α} (strips : Strips p s []) : ∀ a ∈ s, p a := by
  obtain ⟨before, after, rfl, front, back⟩ := strips.parts
  intro a member
  rw [List.append_nil] at member
  rcases List.mem_append.mp member with early | late
  · exact front a early
  · exact back a late

theorem Strips.subset {s t : List α} (strips : Strips p s t) : t ⊆ s := by
  obtain ⟨before, after, rfl, -, -⟩ := strips.parts
  exact fun a member => List.mem_append_left after (List.mem_append_right before member)

/-- What does not satisfy the test is kept, wherever it stands. -/
theorem Strips.mem {s t : List α} (strips : Strips p s t) {a : α} (inside : a ∈ s) (solid : ¬ p a) :
    a ∈ t := by
  obtain ⟨before, after, rfl, front, back⟩ := strips.parts
  rcases List.mem_append.mp inside with early | late
  · rcases List.mem_append.mp early with first | kept
    · exact absurd (front a first) solid
    · exact kept
  · exact absurd (back a late) solid

theorem Strips.eq_nil_iff {s t : List α} (strips : Strips p s t) : t = [] ↔ ∀ a ∈ s, p a := by
  constructor
  · rintro rfl
    exact strips.all_of_nil
  · intro all
    by_contra nonempty
    exact strips.bare.first nonempty (all _ (strips.subset (List.head_mem nonempty)))

theorem bare_of_forall {s : List α} (solid : ∀ a ∈ s, ¬ p a) : Bare p s :=
  ⟨fun nonempty => solid _ (List.head_mem nonempty), fun nonempty => solid _ (List.getLast_mem nonempty)⟩

/-- There is nothing to strip from a bare list. -/
theorem Bare.drop_eq {s : List α} (bare : Bare p s) : (s.dropWhile p).rdropWhile p = s := by
  rw [bare.dropWhile_eq, bare.rdropWhile_eq]

end Stripping
