import Mathlib.Data.List.Basic
import Mathlib.Data.List.Dedup
import Mathlib.Data.List.Perm.Basic
import Mathlib.Data.List.Sort

/-!
# Lists that list a range

`Tiles l lo n`: the list holds each of `lo, …, lo + n - 1` once, in any order. Adjacent
tilings append, and the extremes and the length of a tiling are those of its range. A list
tiles some range when it repeats nothing and, sorted, has no gaps.
-/
namespace Ranges

def Tiles (l : List Nat) (lo n : Nat) : Prop := l.Perm (List.range' lo n)

namespace Tiles

variable {l m : List Nat} {lo n k : Nat}

theorem mem_iff (tiles : Tiles l lo n) {r : Nat} : r ∈ l ↔ lo ≤ r ∧ r < lo + n := by
  rw [List.Perm.mem_iff tiles, List.mem_range'_1]

theorem length (tiles : Tiles l lo n) : l.length = n := by
  rw [List.Perm.length_eq tiles, List.length_range']

theorem nodup (tiles : Tiles l lo n) : l.Nodup :=
  (List.Perm.nodup_iff tiles).mpr List.nodup_range'

theorem countP_eq (tiles : Tiles l lo n) (p : Nat → Bool) :
    l.countP p = (List.range' lo n).countP p := List.Perm.countP_eq p tiles

/-- Two tilings side by side tile the range they cover together. -/
theorem append (first : Tiles l lo n) (second : Tiles m (lo + n) k) : Tiles (l ++ m) lo (n + k) := by
  unfold Tiles
  rw [← List.range'_append_1]
  exact List.Perm.append first second

theorem pos (tiles : Tiles l lo n) (nonempty : l ≠ []) : 0 < n := by
  rw [← tiles.length]
  exact List.length_pos_iff.mpr nonempty

theorem min_eq (tiles : Tiles l lo n) (nonempty : l ≠ []) : l.min nonempty = lo := by
  have positive := tiles.pos nonempty
  rw [List.min_eq_iff]
  refine ⟨tiles.mem_iff.mpr ⟨Nat.le_refl _, by omega⟩, fun r member => ?_⟩
  exact (tiles.mem_iff.mp member).1

theorem max_eq (tiles : Tiles l lo n) (nonempty : l ≠ []) : l.max nonempty + 1 = lo + n := by
  have positive := tiles.pos nonempty
  have largest : l.max nonempty = lo + n - 1 := by
    rw [List.max_eq_iff]
    refine ⟨tiles.mem_iff.mpr ⟨by omega, by omega⟩, fun r member => ?_⟩
    have below := (tiles.mem_iff.mp member).2
    omega
  omega

/-- A tiling that starts inside or right behind another one, and shares nothing with it,
starts right behind it. -/
theorem adjacent (first : Tiles l lo n) {start : Nat} (second : Tiles m start k) (nonempty : m ≠ [])
    (disjoint : ∀ r ∈ m, r ∉ l) (after : lo ≤ start) (near : start ≤ lo + n) : start = lo + n := by
  have positive := second.pos nonempty
  have inside : start ∉ l := disjoint start (second.mem_iff.mpr ⟨Nat.le_refl _, by omega⟩)
  rw [first.mem_iff] at inside
  omega

/-- A list as long as a range, and with all of it, tiles the range. -/
theorem of_cover (cover : ∀ r, lo ≤ r → r < lo + n → r ∈ l) (length : l.length = n) :
    Tiles l lo n := by
  have inside : List.range' lo n ⊆ l := by
    intro r member
    rw [List.mem_range'_1] at member
    exact cover r member.1 member.2
  have sub := List.subperm_of_subset List.nodup_range' inside
  exact (sub.perm_of_length_le (by rw [length, List.length_range'])).symm

end Tiles

/-- The list holds what lies between the two numbers, however often, and nothing else. -/
def Spans (l : List Nat) (lo hi : Nat) : Prop := ∀ r, r ∈ l ↔ lo ≤ r ∧ r ≤ hi

namespace Spans

variable {l m : List Nat} {lo hi lo' hi' : Nat}

theorem le (spans : Spans l lo hi) (nonempty : l ≠ []) : lo ≤ hi := by
  obtain ⟨r, member⟩ := List.exists_mem_of_ne_nil l nonempty
  have inside := (spans r).mp member
  exact inside.1.trans inside.2

theorem min_eq (spans : Spans l lo hi) (nonempty : l ≠ []) : l.min nonempty = lo := by
  have order := spans.le nonempty
  rw [List.min_eq_iff]
  exact ⟨(spans lo).mpr ⟨Nat.le_refl lo, order⟩, fun r member => ((spans r).mp member).1⟩

theorem max_eq (spans : Spans l lo hi) (nonempty : l ≠ []) : l.max nonempty = hi := by
  have order := spans.le nonempty
  rw [List.max_eq_iff]
  exact ⟨(spans hi).mpr ⟨order, Nat.le_refl hi⟩, fun r member => ((spans r).mp member).2⟩

/-- A range that starts inside or right behind another one extends it, or lies within it. -/
theorem append (first : Spans l lo hi) (second : Spans m lo' hi') (after : lo ≤ lo')
    (near : lo' ≤ hi + 1) : Spans (l ++ m) lo (max hi hi') := by
  intro r
  rw [List.mem_append, first r, second r]
  constructor
  · rintro (inside | inside)
    · exact ⟨inside.1, inside.2.trans (Nat.le_max_left ..)⟩
    · exact ⟨after.trans inside.1, inside.2.trans (Nat.le_max_right ..)⟩
  · rintro ⟨low, high⟩
    by_cases old : r ≤ hi
    · exact .inl ⟨low, old⟩
    · exact .inr ⟨by omega, by omega⟩

end Spans

/-- The neighbours in a list that do not follow each other. -/
def gaps : List Nat → List (Nat × Nat)
  | a :: b :: rest => if b ≠ a + 1 then (a, b) :: gaps (b :: rest) else gaps (b :: rest)
  | _ => []

theorem gaps_range' (lo n : Nat) : gaps (List.range' lo n) = [] := by
  induction n generalizing lo with
  | zero => rfl
  | succ n ih =>
    cases n with
    | zero => rfl
    | succ m =>
      have rest := ih (lo + 1)
      rw [List.range'_succ, List.range'_succ] at *
      simpa [gaps] using rest

theorem eq_range'_of_gaps {a : Nat} {l : List Nat} (none : gaps (a :: l) = []) :
    a :: l = List.range' a (l.length + 1) := by
  induction l generalizing a with
  | nil => rfl
  | cons b rest ih =>
    rw [gaps] at none
    split at none
    next => cases none
    next next =>
      obtain rfl : b = a + 1 := not_not.mp next
      rw [List.length_cons, List.range'_succ, ← ih none]

/-- Tilings told by their repetitions and gaps. -/
theorem exists_tiles_iff (l : List Nat) : (∃ lo n, Tiles l lo n) ↔
    l.Nodup ∧ gaps (l.dedup.insertionSort (· ≤ ·)) = [] := by
  constructor
  · rintro ⟨lo, n, tiles⟩
    have sorted : l.insertionSort (· ≤ ·) = List.range' lo n := by
      apply List.Perm.eq_of_pairwise' (r := (· ≤ ·)) (List.pairwise_insertionSort _ _)
      · exact List.pairwise_le_range'
      · exact (List.perm_insertionSort _ _).trans tiles
    refine ⟨tiles.nodup, ?_⟩
    rw [tiles.nodup.dedup, sorted, gaps_range']
  · rintro ⟨distinct, none⟩
    rw [distinct.dedup] at none
    have same := List.perm_insertionSort (· ≤ ·) l
    cases order : l.insertionSort (· ≤ ·) with
    | nil =>
      rw [order] at same
      exact ⟨0, 0, same.symm⟩
    | cons a rest =>
      rw [order] at same none
      rw [eq_range'_of_gaps none] at same
      exact ⟨a, rest.length + 1, same.symm⟩

/-- A range around one of its members. -/
theorem range'_split (lo n m : Nat) (above : lo ≤ m) (below : m < lo + n) :
    List.range' lo n = List.range' lo (m - lo) ++ m :: List.range' (m + 1) (lo + n - m - 1) := by
  have sizes : n = (m - lo) + (lo + n - m - 1 + 1) := by omega
  have middle : lo + (m - lo) = m := by omega
  conv_lhs => rw [sizes, ← List.range'_append_1, middle, List.range'_succ]

end Ranges
