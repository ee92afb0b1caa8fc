import Mathlib.Algebra.BigOperators.Group.Finset.Basic
import Mathlib.Algebra.Order.BigOperators.Group.Finset
import Mathlib.Data.Fintype.Basic
import Mathlib.Logic.Relation
import HHModbus.Lib.Transition

/-!
# Worklists

A table that is filled with some elements and with all that they lead to. What waits to be added is
taken in any order, and what an element leads to may lead back to it.
-/

open Transition

structure Worklist (α : Type*) where
  done : List α
  waiting : List α

namespace Worklist

variable {α : Type*} (next : α → List α)

section

variable [DecidableEq α]

/-- What an element leads to waits, if the element is new. -/
def add (w : Worklist α) (x : α) : Worklist α :=
  if x ∈ w.done then w else ⟨w.done ++ [x], next x ∪ w.waiting⟩

/-- Take an element that waits. -/
def pop (w : Worklist α) (x : α) : Option (Worklist α) :=
  if x ∈ w.waiting then some (add next { w with waiting := w.waiting.erase x } x) else none

end

/-- Some root leads to the element, over any number of others. -/
def Reached (roots : List α) (x : α) : Prop :=
  ∃ r ∈ roots, Relation.ReflTransGen (fun a b => b ∈ next a) r x

/-- The roots have been added, and what they lead to is in the table or waits. -/
structure Explored (roots : List α) (w : Worklist α) : Prop where
  distinct : w.done.Nodup
  sound : ∀ x ∈ w.done, Reached next roots x
  ahead : ∀ x ∈ w.waiting, Reached next roots x
  roots : ∀ r ∈ roots, r ∈ w.done
  closed : ∀ x ∈ w.done, ∀ y ∈ next x, y ∈ w.done ∨ y ∈ w.waiting

variable {next} {roots more : List α} {w w' : Worklist α} {x y : α}

theorem Reached.mono (reached : Reached next roots x) (sub : roots ⊆ more) : Reached next more x := by
  obtain ⟨r, root, path⟩ := reached
  exact ⟨r, sub root, path⟩

theorem Reached.root (root : x ∈ roots) : Reached next roots x := ⟨x, root, .refl⟩

theorem Reached.step (reached : Reached next roots x) (leads : y ∈ next x) : Reached next roots y := by
  obtain ⟨r, root, path⟩ := reached
  exact ⟨r, root, path.tail leads⟩

theorem Explored.nil : Explored next [] ⟨[], []⟩ := by
  constructor <;> simp

/-- When nothing waits any more, the table has what the roots lead to. -/
theorem Explored.mem_done_iff (explored : Explored next roots w) (finished : w.waiting = []) :
    x ∈ w.done ↔ Reached next roots x := by
  constructor
  · exact explored.sound x
  · rintro ⟨r, root, path⟩
    -- The table is closed under what its elements lead to, so a path never leaves it.
    induction path with
    | refl => exact explored.roots r root
    | tail _ leads ih => simpa [finished] using explored.closed _ ih _ leads

variable [DecidableEq α]

theorem mem_done_add : y ∈ (w.add next x).done ↔ y ∈ w.done ∨ y = x := by
  unfold add
  split
  case isTrue known =>
    constructor
    · exact .inl
    · rintro (before | rfl)
      · exact before
      · exact known
  case isFalse => simp

theorem mem_waiting_add : y ∈ (w.add next x).waiting ↔ y ∈ w.waiting ∨ (x ∉ w.done ∧ y ∈ next x) := by
  unfold add
  split
  case isTrue known => simp [known]
  case isFalse new => simp [new, or_comm]

theorem pop_eq_some_iff : w.pop next x = some w' ↔
    x ∈ w.waiting ∧ w' = add next { w with waiting := w.waiting.erase x } x := by
  unfold pop
  split
  case isTrue waits => simp [waits, eq_comm]
  case isFalse waits => simp [waits]

namespace Explored

/-- `x` is reached, and where `x` itself stands may change. -/
theorem insert (distinct : w.done.Nodup) (sound : ∀ y ∈ w.done, Reached next roots y)
    (ahead : ∀ y ∈ w.waiting, Reached next roots y) (roots_ : ∀ r ∈ roots, r ∈ w.done ∨ r = x)
    (closed : ∀ z ∈ w.done, ∀ y ∈ next z, y ∈ w.done ∨ y ∈ w.waiting ∨ y = x)
    (reached : Reached next roots x) : Explored next roots (w.add next x) where
  distinct := by
    unfold add
    split
    case isTrue => exact distinct
    case isFalse new =>
      simp only [← List.concat_eq_append]
      exact distinct.concat new
  sound y known := by
    rcases mem_done_add.mp known with before | rfl
    · exact sound y before
    · exact reached
  ahead y waits := by
    rcases mem_waiting_add.mp waits with before | ⟨-, leads⟩
    · exact ahead y before
    · exact reached.step leads
  roots r root := mem_done_add.mpr (roots_ r root)
  closed z known y leads := by
    rw [mem_done_add, mem_waiting_add]
    by_cases before : z ∈ w.done
    · -- What was promised of the element that is added is now in the table.
      rcases closed z before y leads with done | waits | rfl
      · exact .inl (.inl done)
      · exact .inr (.inl waits)
      · exact .inl (.inr rfl)
    · -- `z` is the element that has been added.
      obtain rfl := (mem_done_add.mp known).resolve_left before
      exact .inr (.inr ⟨before, leads⟩)

theorem add (explored : Explored next roots w) (x : α) :
    Explored next (roots ++ [x]) (w.add next x) := by
  have sub : roots ⊆ roots ++ [x] := List.subset_append_left _ _
  apply insert explored.distinct
  · exact fun y known => (explored.sound y known).mono sub
  · exact fun y waits => (explored.ahead y waits).mono sub
  · intro r root
    rcases List.mem_append.mp root with before | last
    · exact .inl (explored.roots r before)
    · exact .inr (List.mem_singleton.mp last)
  · exact fun z known y leads => (explored.closed z known y leads).imp_right .inl
  · exact .root (by simp)

theorem pop (explored : Explored next roots w) (popped : w.pop next x = some w') :
    Explored next roots w' := by
  obtain ⟨waits, rfl⟩ := pop_eq_some_iff.mp popped
  apply insert (w := { w with waiting := w.waiting.erase x }) explored.distinct explored.sound
  · exact fun y left => explored.ahead y (List.mem_of_mem_erase left)
  · exact fun r root => .inl (explored.roots r root)
  · intro z known y leads
    rcases explored.closed z known y leads with done | ahead
    · exact .inl done
    · -- It waits still, or it is the element that has been taken.
      by_cases same : y = x
      · exact .inr (.inr same)
      · exact .inr (.inl ((List.mem_erase_of_ne same).mpr ahead))
  · exact explored.ahead x waits

end Explored

/-! ### The loop ends -/

variable [Fintype α]

/-- How many elements can be taken at most: those that wait and those that may be added to them. -/
def budget (next : α → List α) (w : Worklist α) : Nat :=
  w.waiting.length + ∑ x ∈ Finset.univ.filter (· ∉ w.done), (next x).length

omit [Fintype α] in
theorem length_union_le (l m : List α) : (l ∪ m).length ≤ l.length + m.length := by
  induction l with
  | nil => simp
  | cons y l ih =>
    rw [List.cons_union]
    -- An element of both lists counts once.
    by_cases known : y ∈ l ∪ m
    · rw [List.insert_of_mem known, List.length_cons]
      omega
    · rw [List.insert_of_not_mem known, List.length_cons, List.length_cons]
      omega

theorem budget_pop (popped : w.pop next x = some w') : w'.budget next < w.budget next := by
  obtain ⟨waits, rfl⟩ := pop_eq_some_iff.mp popped
  have fewer := List.length_erase_of_mem waits
  have some_ := List.length_pos_of_mem waits
  simp only [budget, add]
  split
  case isTrue =>
    -- A known element is taken and nothing is added.
    simp only
    omega
  case isFalse new =>
    -- What the element leads to is no longer in the sum.
    have rest : Finset.univ.filter (· ∉ w.done) =
        insert x (Finset.univ.filter (· ∉ w.done ++ [x])) := by
      ext y
      by_cases same : y = x
      · simp [same, new]
      · simp [same]
    have apart : x ∉ Finset.univ.filter (· ∉ w.done ++ [x]) := by simp
    have longer := length_union_le (next x) (w.waiting.erase x)
    rw [rest, Finset.sum_insert apart]
    simp only
    omega

/-- From any worklist on, what waits can be taken until nothing is left. -/
theorem exists_emptied (w : Worklist α) :
    ∃ pops w', exec (pop next) w pops = some w' ∧ w'.waiting = [] := by
  -- Each element that is taken uses up some of the budget.
  induction room : w.budget next using Nat.strong_induction_on generalizing w with
  | h room_ ih =>
    cases waiting : w.waiting with
    | nil => exact ⟨[], w, rfl, waiting⟩
    | cons x rest =>
      have popped : w.pop next x = some (add next { w with waiting := w.waiting.erase x } x) :=
        pop_eq_some_iff.mpr ⟨by simp [waiting], rfl⟩
      obtain ⟨pops, w', later, emptied⟩ := ih _ (room ▸ budget_pop popped) _ rfl
      exact ⟨x :: pops, w', exec_cons_iff.mpr ⟨_, popped, later⟩, emptied⟩

/-- Whatever the order, no more elements are taken. -/
theorem length_le_budget {pops : List α} (run : exec (pop next) w pops = some w') :
    pops.length ≤ w.budget next := by
  induction pops generalizing w with
  | nil => simp
  | cons x rest ih =>
    obtain ⟨m, popped, later⟩ := exec_cons_iff.mp run
    have fewer := budget_pop popped
    have bound := ih later
    rw [List.length_cons]
    omega

end Worklist
