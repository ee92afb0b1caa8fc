import Mathlib.Logic.Function.Basic
import Mathlib.Order.Basic
import HHModbus.Lib.Tables

/-!
# Reference-counted resources

A registry shares one resource per key. `acquire` opens the resource of a key on its first
use and counts the uses; `release` closes it when the last use is given back. `Counted`
ties the registry to `held`, the number of uses of each key that have not been given back.
-/
namespace RefCount

open Tables

structure Entry where
  resource : Nat
  count : Nat
  deriving DecidableEq, Repr

/-- The resources in use, those closed so far, and the next one to be opened. -/
structure Registry (κ : Type*) where
  entries : κ → Option Entry
  closed : List Nat
  next : Nat

variable {κ : Type*} [DecidableEq κ]

namespace Registry

def empty : Registry κ := ⟨fun _ => none, [], 0⟩

def acquire (r : Registry κ) (k : κ) : Registry κ × Nat :=
  match r.entries k with
  | some e =>
    ({ r with entries := Function.update r.entries k (some { e with count := e.count + 1 }) },
      e.resource)
  | none =>
    ({ r with entries := Function.update r.entries k (some ⟨r.next, 1⟩), next := r.next + 1 },
      r.next)

def release (r : Registry κ) (k : κ) : Registry κ :=
  match r.entries k with
  | some e =>
    if e.count - 1 = 0 then
      { r with entries := Function.update r.entries k none, closed := r.closed ++ [e.resource] }
    else
      { r with entries := Function.update r.entries k (some { e with count := e.count - 1 }) }
  | none => r

end Registry

/-- Each key has an entry exactly while it is held, the entry counts the uses, and a
resource is open exactly while it belongs to an entry, of one key only. -/
structure Counted (r : Registry κ) (held : κ → Nat) : Prop where
  absent_iff : ∀ k, r.entries k = none ↔ held k = 0
  count : ∀ k e, r.entries k = some e → e.count = held k
  opened : ∀ k e, r.entries k = some e → e.resource < r.next ∧ e.resource ∉ r.closed
  owner : ∀ k l e f, r.entries k = some e → r.entries l = some f → e.resource = f.resource → k = l
  closed : ∀ c ∈ r.closed, c < r.next
  rest : ∀ c < r.next, c ∉ r.closed → ∃ k e, r.entries k = some e ∧ e.resource = c

omit [DecidableEq κ] in
theorem counted_empty : Counted (Registry.empty : Registry κ) fun _ => 0 where
  absent_iff k := by simp [Registry.empty]
  count k e h := by cases h
  opened k e h := by cases h
  owner k l e f h := by cases h
  closed c h := by cases h
  rest c h := by cases h

/-- An entry that stays where it is with another positive count keeps its resource, so
nothing but the count changes. -/
private theorem counted_recount {r : Registry κ} {held : κ → Nat} (counted : Counted r held)
    {k : κ} {e : Entry} (present : r.entries k = some e) (n : Nat) (positive : 0 < n) :
    Counted { r with entries := Function.update r.entries k (some { e with count := n }) }
      (Function.update held k n) := by
  have moved (l : κ) (f : Entry)
      (h : Function.update r.entries k (some { e with count := n }) l = some f) :
      ∃ g, r.entries l = some g ∧ f.resource = g.resource ∧
        f.count = Function.update held k n l := by
    rcases present_update h with ⟨rfl, new⟩ | ⟨other, old⟩
    · cases new
      exact ⟨e, present, rfl, (Function.update_self l n held).symm⟩
    · rw [Function.update_of_ne other]
      exact ⟨f, old, rfl, counted.count l f old⟩
  refine ⟨fun l => ?_, fun l f h => ?_, fun l f h => ?_, fun l m f g hl hm same => ?_,
    counted.closed, fun c below still => ?_⟩
  · by_cases same : l = k
    · subst same
      simp only [Function.update_self, reduceCtorEq, false_iff]
      omega
    · simp only [Function.update_of_ne same]
      exact counted.absent_iff l
  · obtain ⟨g, -, -, count⟩ := moved l f h
    exact count
  · obtain ⟨g, old, resource, -⟩ := moved l f h
    rw [resource]
    exact counted.opened l g old
  · obtain ⟨f', oldL, resourceL, -⟩ := moved l f hl
    obtain ⟨g', oldM, resourceM, -⟩ := moved m g hm
    exact counted.owner l m f' g' oldL oldM (by rw [← resourceL, ← resourceM, same])
  · obtain ⟨l, f, old, resource⟩ := counted.rest c below still
    by_cases same : l = k
    · subst same
      cases present.symm.trans old
      exact ⟨l, _, Function.update_self _ _ _, resource⟩
    · exact ⟨l, f, (Function.update_of_ne same _ _).trans old, resource⟩

theorem counted_acquire {r : Registry κ} {held : κ → Nat} (counted : Counted r held) (k : κ) :
    Counted (r.acquire k).1 (Function.update held k (held k + 1)) := by
  unfold Registry.acquire
  cases present : r.entries k with
  | some e =>
    rw [← counted.count k e present]
    exact counted_recount counted present (e.count + 1) (Nat.succ_pos _)
  | none =>
    have unheld : held k = 0 := (counted.absent_iff k).mp present
    have fresh : r.next ∉ r.closed := fun member => Nat.lt_irrefl _ (counted.closed _ member)
    have moved (l : κ) (f : Entry)
        (h : Function.update r.entries k (some ⟨r.next, 1⟩) l = some f) :
        (l = k ∧ f = ⟨r.next, 1⟩) ∨ (l ≠ k ∧ r.entries l = some f) := by
      rcases present_update h with ⟨here, new⟩ | old
      · exact .inl ⟨here, (Option.some.inj new).symm⟩
      · exact .inr old
    refine ⟨fun l => ?_, fun l f h => ?_, fun l f h => ?_, fun l m f g hl hm same => ?_,
      fun c member => ?_, fun c below still => ?_⟩
    · by_cases same : l = k
      · subst same
        simp [Function.update_self]
      · simp only [Function.update_of_ne same]
        exact counted.absent_iff l
    · rcases moved l f h with ⟨rfl, rfl⟩ | ⟨other, old⟩
      · rw [Function.update_self, unheld]
      · rw [Function.update_of_ne other]
        exact counted.count l f old
    · rcases moved l f h with ⟨rfl, rfl⟩ | ⟨other, old⟩
      · exact ⟨Nat.lt_succ_self _, fresh⟩
      · obtain ⟨below, still⟩ := counted.opened l f old
        exact ⟨Nat.lt_succ_of_lt below, still⟩
    · rcases moved l f hl with ⟨rfl, rfl⟩ | ⟨-, oldL⟩ <;>
        rcases moved m g hm with ⟨rfl, rfl⟩ | ⟨-, oldM⟩
      · rfl
      · exact absurd (counted.opened m g oldM).1 (by rw [← same]; exact Nat.lt_irrefl _)
      · exact absurd (counted.opened l f oldL).1 (by rw [same]; exact Nat.lt_irrefl _)
      · exact counted.owner l m f g oldL oldM same
    · exact Nat.lt_succ_of_lt (counted.closed c member)
    · rcases Nat.lt_succ_iff_lt_or_eq.mp below with old | rfl
      · obtain ⟨l, f, entry, resource⟩ := counted.rest c old still
        have other : l ≠ k := by
          rintro rfl
          cases present.symm.trans entry
        exact ⟨l, f, (Function.update_of_ne other _ _).trans entry, resource⟩
      · exact ⟨k, _, Function.update_self _ _ _, rfl⟩

theorem counted_release {r : Registry κ} {held : κ → Nat} (counted : Counted r held) (k : κ)
    (holding : 0 < held k) :
    Counted (r.release k) (Function.update held k (held k - 1)) := by
  unfold Registry.release
  cases present : r.entries k with
  | none => exact absurd ((counted.absent_iff k).mp present) (Nat.ne_of_gt holding)
  | some e =>
    have count : e.count = held k := counted.count k e present
    dsimp only
    split
    next last =>
      have kept (l : κ) (f : Entry) (h : Function.update r.entries k none l = some f) :
          l ≠ k ∧ r.entries l = some f := by
        rcases present_update h with ⟨-, gone⟩ | old
        · cases gone
        · exact old
      refine ⟨fun l => ?_, fun l f h => ?_, fun l f h => ?_, fun l m f g hl hm same => ?_,
        fun c member => ?_, fun c below still => ?_⟩
      · by_cases same : l = k
        · subst same
          simp only [Function.update_self, true_iff]
          omega
        · simp only [Function.update_of_ne same]
          exact counted.absent_iff l
      · obtain ⟨other, old⟩ := kept l f h
        rw [Function.update_of_ne other]
        exact counted.count l f old
      · obtain ⟨other, old⟩ := kept l f h
        obtain ⟨below, still⟩ := counted.opened l f old
        refine ⟨below, fun member => ?_⟩
        rcases List.mem_append.mp member with earlier | now
        · exact still earlier
        · exact other (counted.owner l k f e old present (List.mem_singleton.mp now))
      · exact counted.owner l m f g (kept l f hl).2 (kept m g hm).2 same
      · rcases List.mem_append.mp member with earlier | now
        · exact counted.closed c earlier
        · rw [List.mem_singleton.mp now]
          exact (counted.opened k e present).1
      · have open_ : c ∉ r.closed := fun member => still (List.mem_append_left _ member)
        obtain ⟨l, f, entry, resource⟩ := counted.rest c below open_
        have other : l ≠ k := by
          rintro rfl
          cases present.symm.trans entry
          exact still (by simp [resource])
        exact ⟨l, f, (Function.update_of_ne other _ _).trans entry, resource⟩
    next more =>
      rw [← count]
      exact counted_recount counted present (e.count - 1) (Nat.pos_of_ne_zero more)

/-- What `acquire` returns is the resource of the key's entry. -/
theorem acquire_resource (r : Registry κ) (k : κ) :
    ∃ e, (r.acquire k).1.entries k = some e ∧ e.resource = (r.acquire k).2 := by
  unfold Registry.acquire
  split
  · exact ⟨_, Function.update_self _ _ _, rfl⟩
  · exact ⟨_, Function.update_self _ _ _, rfl⟩

/-- `acquire` replaces no resource that is in use. -/
theorem acquire_keeps {r : Registry κ} {l : κ} {e : Entry} (k : κ) (present : r.entries l = some e) :
    ∃ f, (r.acquire k).1.entries l = some f ∧ f.resource = e.resource := by
  unfold Registry.acquire
  by_cases same : l = k
  · subst same
    simp only [present]
    exact ⟨_, Function.update_self _ _ _, rfl⟩
  · split
    · exact ⟨e, (Function.update_of_ne same _ _).trans present, rfl⟩
    · exact ⟨e, (Function.update_of_ne same _ _).trans present, rfl⟩

/-- `release` takes no resource from a key that is still held. -/
theorem release_keeps {r : Registry κ} {held : κ → Nat} (counted : Counted r held) {l : κ}
    {e : Entry} (k : κ) (present : r.entries l = some e) (still : l = k → 1 < held k) :
    ∃ f, (r.release k).entries l = some f ∧ f.resource = e.resource := by
  unfold Registry.release
  by_cases same : l = k
  · subst same
    have more : e.count - 1 ≠ 0 := by
      have count := counted.count l e present
      have := still rfl
      omega
    simp only [present, if_neg more]
    exact ⟨_, Function.update_self _ _ _, rfl⟩
  · split
    · split
      · exact ⟨e, (Function.update_of_ne same _ _).trans present, rfl⟩
      · exact ⟨e, (Function.update_of_ne same _ _).trans present, rfl⟩
    · exact ⟨e, present, rfl⟩

end RefCount
