import Mathlib.Data.List.DropRight

/-!
# Holding back readings until they persist

A filter for a stream of readings. A reading that is not suspect is used at once; one that is
gives way to the reading in use until `limit` suspect readings have come in a row, whatever
their values. The stream is written with its newest reading last.
-/
namespace Debounce

variable {α : Type*}

/-- How many suspect readings have been held back, and the reading in use. -/
structure Filter (α : Type*) where
  count : Nat := 0
  held : Option α := none

variable (suspect : α → Bool) (limit : Nat)

/-- One reading; with nothing in use yet it is used as it is. -/
def Filter.feed (f : Filter α) (v : α) : Filter α :=
  if suspect v then
    if f.count + 1 < limit then ⟨f.count + 1, some (f.held.getD v)⟩ else ⟨0, some v⟩
  else ⟨0, some v⟩

/-- The filter after a stream of readings. -/
def run (readings : List α) : Filter α := readings.foldl (Filter.feed suspect limit) {}

/-- The number of suspect readings the stream ends with. -/
def streak (readings : List α) : Nat := (readings.rtakeWhile suspect).length

variable {suspect limit}

@[simp] theorem run_nil : run suspect limit [] = {} := rfl

@[simp] theorem run_concat (readings : List α) (v : α) :
    run suspect limit (readings ++ [v]) = (run suspect limit readings).feed suspect limit v := by
  rw [run, List.foldl_append]
  rfl

@[simp] theorem streak_nil : streak suspect [] = 0 := rfl

theorem streak_concat (readings : List α) (v : α) :
    streak suspect (readings ++ [v]) = if suspect v then streak suspect readings + 1 else 0 := by
  unfold streak
  split
  next h => rw [List.rtakeWhile_concat_pos _ _ _ h, List.length_append, List.length_singleton]
  next h => rw [List.rtakeWhile_concat_neg _ _ _ h, List.length_nil]

/-- The last readings of a streak. -/
theorem exists_window (readings : List α) (n : Nat) (within : n ≤ streak suspect readings) :
    ∃ before window, readings = before ++ window ∧ window.length = n ∧
      (∀ v ∈ window, suspect v = true) ∧ streak suspect before + n = streak suspect readings := by
  induction n generalizing readings with
  | zero => exact ⟨readings, [], by simp, rfl, by simp, rfl⟩
  | succ n ih =>
    cases readings using List.reverseRecOn with
    | nil => cases within
    | append_singleton readings v =>
      rw [streak_concat] at within ⊢
      by_cases suspicious : suspect v = true
      · rw [if_pos suspicious] at within ⊢
        obtain ⟨before, window, rfl, length, suspects, same⟩ := ih readings (by omega)
        refine ⟨before, window ++ [v], by simp, by simp [length], ?_, by omega⟩
        intro u member
        rcases List.mem_append.mp member with earlier | newest
        · exact suspects u earlier
        · rw [List.mem_singleton.mp newest]
          exact suspicious
      · rw [if_neg suspicious] at within
        cases within

theorem streak_append_of_all (readings window : List α) (suspects : ∀ v ∈ window, suspect v = true) :
    streak suspect (readings ++ window) = streak suspect readings + window.length := by
  induction window using List.reverseRecOn with
  | nil => simp
  | append_singleton window v ih =>
    have earlier := ih fun u member => suspects u (by simp [member])
    rw [← List.append_assoc, streak_concat, if_pos (suspects v (by simp)), earlier,
      List.length_append, List.length_singleton, Nat.add_assoc]

theorem le_streak_iff (readings : List α) (n : Nat) :
    n ≤ streak suspect readings ↔ ∃ before window, readings = before ++ window ∧
      window.length = n ∧ ∀ v ∈ window, suspect v = true := by
  constructor
  · intro within
    obtain ⟨before, window, split_, length, suspects, _⟩ := exists_window readings n within
    exact ⟨before, window, split_, length, suspects⟩
  · rintro ⟨before, window, rfl, rfl, suspects⟩
    rw [streak_append_of_all before window suspects]
    exact Nat.le_add_left ..

private theorem succ_mod (n : Nat) : (n + 1) % limit = if n % limit + 1 < limit then n % limit + 1
    else (n % limit + 1) % limit := by
  have split_ : n + 1 = limit * (n / limit) + (n % limit + 1) := by
    rw [← Nat.add_assoc, Nat.div_add_mod]
  conv_lhs => rw [split_, Nat.mul_add_mod]
  split
  next below => exact Nat.mod_eq_of_lt below
  next => rfl

/-- What the filter counts is the length of the streak, up to whole multiples of the limit. -/
theorem count_run (positive : 0 < limit) (readings : List α) :
    (run suspect limit readings).count = streak suspect readings % limit := by
  induction readings using List.reverseRecOn with
  | nil => simp
  | append_singleton readings v ih =>
    rw [run_concat, streak_concat, Filter.feed, ih]
    have below := Nat.mod_lt (streak suspect readings) positive
    split
    next =>
      rw [succ_mod]
      split
      next => rfl
      next full =>
        have last : streak suspect readings % limit + 1 = limit := by omega
        rw [last, Nat.mod_self]
    next => exact (Nat.zero_mod limit).symm

/-- A reading with which the count starts anew is used. -/
theorem held_feed_of_count (f : Filter α) (v : α) (anew : (f.feed suspect limit v).count = 0) :
    (f.feed suspect limit v).held = some v := by
  unfold Filter.feed at anew ⊢
  split
  next suspicious =>
    rw [if_pos suspicious] at anew
    split
    next more =>
      rw [if_pos more] at anew
      cases anew
    next => rfl
  next => rfl

/-- A reading that is not suspect is used at once. -/
theorem held_of_trusted (readings : List α) (v : α) (trusted : suspect v = false) :
    (run suspect limit (readings ++ [v])).held = some v := by
  rw [run_concat, Filter.feed, if_neg (by simp [trusted])]

/-- Where the streak is a whole multiple of the limit, the newest reading is in use. -/
theorem run_of_whole (positive : 0 < limit) (readings : List α)
    (whole : streak suspect readings % limit = 0) :
    run suspect limit readings = ⟨0, readings.getLast?⟩ := by
  have anew : (run suspect limit readings).count = streak suspect readings % limit :=
    count_run positive readings
  rw [whole] at anew
  have used : (run suspect limit readings).held = readings.getLast? := by
    cases readings using List.reverseRecOn with
    | nil => rfl
    | append_singleton readings v =>
      rw [List.getLast?_concat]
      rw [run_concat] at anew ⊢
      exact held_feed_of_count _ v anew
  rw [← anew, ← used]

/-- Fewer suspect readings than the limit leave the reading in use that there was, and the first of
them is used if there was none. -/
theorem run_append_of_short (positive : 0 < limit) (before window : List α)
    (whole : streak suspect before % limit = 0) (suspects : ∀ v ∈ window, suspect v = true)
    (short : window.length < limit) :
    run suspect limit (before ++ window) = ⟨window.length, before.getLast? <|> window.head?⟩ := by
  induction window using List.reverseRecOn with
  | nil =>
    rw [List.append_nil, run_of_whole positive before whole]
    simp
  | append_singleton window v ih =>
    rw [List.length_append, List.length_singleton] at short
    have earlier := ih (fun u member => suspects u (by simp [member])) (by omega)
    rw [← List.append_assoc, run_concat, earlier, Filter.feed, if_pos (suspects v (by simp)),
      if_pos short, List.length_append, List.length_singleton, List.head?_append]
    cases before.getLast? with
    | some u => rfl
    | none => cases window.head? <;> rfl

/-- A suspect reading that comes `limit` times in a row is used. -/
theorem held_of_persistent (positive : 0 < limit) (before : List α) (v : α)
    (suspicious : suspect v = true) :
    (run suspect limit (before ++ List.replicate limit v)).held = some v := by
  -- Once `v` is in use it stays; until then every reading of it counts.
  have counted (n : Nat) : (run suspect limit (before ++ List.replicate n v)).held = some v ∨
      (run suspect limit (before ++ List.replicate n v)).count =
        (run suspect limit before).count + n := by
    induction n with
    | zero =>
      right
      simp
    | succ n ih =>
      rw [List.replicate_succ', ← List.append_assoc, run_concat, Filter.feed, if_pos suspicious]
      split
      next =>
        rcases ih with used | count
        · left
          rw [used]
          rfl
        · right
          rw [count]
          rfl
      next => exact .inl rfl
  rcases counted limit with used | count
  · exact used
  · have below := Nat.mod_lt (streak suspect (before ++ List.replicate limit v)) positive
    rw [← count_run positive] at below
    omega

end Debounce
