import Mathlib.Logic.Basic

/-!
# Moving the entries of a partial map

What is under one key moves under another one and takes the place of what was there. A list of
such moves comes to the same in every order, as long as no key occurs in two of them, and to
nothing when it is repeated.
-/
namespace Renaming

variable {κ ν : Type*}

/-- No key occurs in both moves. -/
structure Apart (m n : κ × κ) : Prop where
  sources : m.1 ≠ n.1
  forth : m.1 ≠ n.2
  back : m.2 ≠ n.1
  targets : m.2 ≠ n.2

/-- A list without moves that disturb each other; it may repeat a move. -/
def Undisturbed (moves : List (κ × κ)) : Prop := ∀ m ∈ moves, ∀ n ∈ moves, m = n ∨ Apart m n

theorem Undisturbed.tail {m : κ × κ} {moves : List (κ × κ)} (undisturbed : Undisturbed (m :: moves)) :
    Undisturbed moves := by
  intro n member o member'
  exact undisturbed n (List.mem_cons_of_mem m member) o (List.mem_cons_of_mem m member')

variable [DecidableEq κ]

/-- Move what is under the first key, if there is anything, under the second. -/
def move (f : κ → Option ν) (m : κ × κ) : κ → Option ν := fun k =>
  if (f m.1).isSome ∧ m.1 ≠ m.2 then if k = m.2 then f m.1 else if k = m.1 then none else f k
  else f k

def moveAll (f : κ → Option ν) (moves : List (κ × κ)) : κ → Option ν := moves.foldl move f

variable {f : κ → Option ν} {m : κ × κ} {moves : List (κ × κ)}

/-! ### One move -/

theorem move_of_ne {k : κ} (source : k ≠ m.1) (target : k ≠ m.2) : move f m k = f k := by
  simp [move, source, target]

theorem move_target (f : κ → Option ν) (m : κ × κ) : move f m m.2 = (f m.1).or (f m.2) := by
  unfold move
  by_cases same : m.1 = m.2
  · simp [same]
  · cases f m.1 <;> simp [same]

theorem move_source (f : κ → Option ν) (different : m.1 ≠ m.2) : move f m m.1 = none := by
  unfold move
  cases f m.1 <;> simp [different]

/-- There is nothing to move. -/
theorem move_of_settled (settled : f m.1 = none ∨ m.1 = m.2) : move f m = f := by
  funext k
  rcases settled with absent | same
  · simp [move, absent]
  · simp [move, same]

/-! ### A list of moves -/

theorem moveAll_of_notMem {k : κ} (outside : ∀ m ∈ moves, k ≠ m.1 ∧ k ≠ m.2) :
    moveAll f moves k = f k := by
  induction moves generalizing f with
  | nil => rfl
  | cons m rest ih =>
    obtain ⟨source, target⟩ := outside m List.mem_cons_self
    exact (ih fun n member => outside n (List.mem_cons_of_mem m member)).trans
      (move_of_ne source target)

/-- A move that is not in the list is not disturbed by it. -/
theorem moveAll_apart {k : κ} (undisturbed : Undisturbed (m :: moves)) (absent : m ∉ moves)
    (own : k = m.1 ∨ k = m.2) : moveAll f moves k = f k := by
  refine moveAll_of_notMem fun n member => ?_
  rcases undisturbed m List.mem_cons_self n (List.mem_cons_of_mem m member) with rfl | apart
  · exact absurd member absent
  · rcases own with rfl | rfl
    · exact ⟨apart.sources, apart.forth⟩
    · exact ⟨apart.back, apart.targets⟩

/-- **Each move of the list is made**, whatever the others do. -/
theorem moveAll_target (undisturbed : Undisturbed moves) (member : m ∈ moves) :
    moveAll f moves m.2 = (f m.1).or (f m.2) := by
  induction moves generalizing f with
  | nil => cases member
  | cons n rest ih =>
    have rest' := undisturbed.tail
    by_cases later : m ∈ rest
    · change moveAll (move f n) rest m.2 = _
      rw [ih rest' later]
      rcases undisturbed m member n List.mem_cons_self with rfl | apart
      · by_cases same : m.1 = m.2
        · rw [move_of_settled (.inr same)]
        · rw [move_source f same, move_target, Option.none_or]
      · rw [move_of_ne apart.sources apart.forth, move_of_ne apart.back apart.targets]
    · obtain rfl : m = n := (List.mem_cons.mp member).resolve_right later
      change moveAll (move f m) rest m.2 = _
      rw [moveAll_apart undisturbed later (.inr rfl), move_target]

theorem moveAll_source (undisturbed : Undisturbed moves) (member : m ∈ moves)
    (different : m.1 ≠ m.2) : moveAll f moves m.1 = none := by
  induction moves generalizing f with
  | nil => cases member
  | cons n rest ih =>
    by_cases later : m ∈ rest
    · exact ih undisturbed.tail later
    · obtain rfl : m = n := (List.mem_cons.mp member).resolve_right later
      change moveAll (move f m) rest m.1 = _
      rw [moveAll_apart undisturbed later (.inl rfl), move_source f different]

theorem moveAll_of_settled (settled : ∀ m ∈ moves, f m.1 = none ∨ m.1 = m.2) :
    moveAll f moves = f := by
  induction moves with
  | nil => rfl
  | cons m rest ih =>
    change moveAll (move f m) rest = f
    rw [move_of_settled (settled m List.mem_cons_self)]
    exact ih fun n member => settled n (List.mem_cons_of_mem m member)

/-- **Repeating the moves changes nothing.** -/
theorem moveAll_moveAll (undisturbed : Undisturbed moves) :
    moveAll (moveAll f moves) moves = moveAll f moves := by
  refine moveAll_of_settled fun m member => ?_
  by_cases same : m.1 = m.2
  · exact .inr same
  · exact .inl (moveAll_source undisturbed member same)

end Renaming
