import Mathlib.Data.List.Basic
import Mathlib.Logic.Function.Basic

/-!
# Collecting keyed pieces

A collector keeps the last piece it received for each of its keys. When it has one for every
key it gives them out together and starts anew.
-/
namespace Assembly

variable {κ α : Type*} [DecidableEq κ]

structure Collector (κ α : Type*) where
  received : κ → Option α
  /-- The pieces that were given out last, in the order of the keys. -/
  complete : Option (List α)

def collect (keys : List κ) (c : Collector κ α) (piece : κ × α) : Collector κ α :=
  if piece.1 ∈ keys then
    let received := Function.update c.received piece.1 (some piece.2)
    if ∀ k ∈ keys, (received k).isSome then ⟨fun _ => none, some (keys.filterMap received)⟩
    else { c with received }
  else c

/-- While a key stays missing nothing is given out, and a piece that agrees with `w` leaves
every other piece as `w` has it. -/
theorem collect_missing (keys : List κ) (w : κ → α) (m : κ) (member : m ∈ keys) (c : Collector κ α)
    (missing : c.received m = none) (k : κ) (other : k ≠ m) :
    (collect keys c (k, w k)).complete = c.complete ∧
      (collect keys c (k, w k)).received m = none ∧
      ∀ j ∈ keys, j = k ∨ c.received j = some (w j) →
        (collect keys c (k, w k)).received j = some (w j) := by
  unfold collect
  dsimp only
  split
  next own =>
    have still : Function.update c.received k (some (w k)) m = none := by
      rw [Function.update_of_ne other.symm]
      exact missing
    -- The collection is not complete without `m`.
    rw [if_neg fun full => by simpa [still] using full m member]
    refine ⟨rfl, still, fun j _ known => ?_⟩
    by_cases same : j = k
    · rw [same]
      exact Function.update_self k _ _
    · exact (Function.update_of_ne same _ _).trans (known.resolve_left same)
  next foreign =>
    refine ⟨rfl, missing, fun j inside known => known.resolve_left ?_⟩
    rintro rfl
    exact foreign inside

theorem foldl_collect_missing (keys : List κ) (w : κ → α) (m : κ) (member : m ∈ keys)
    (pieces : List κ) (absent : m ∉ pieces) (c : Collector κ α) (missing : c.received m = none) :
    let d := (pieces.map fun k => (k, w k)).foldl (collect keys) c
    d.complete = c.complete ∧ d.received m = none ∧
      ∀ j ∈ keys, j ∈ pieces ∨ c.received j = some (w j) → d.received j = some (w j) := by
  induction pieces generalizing c with
  | nil =>
    refine ⟨rfl, missing, fun j _ known => ?_⟩
    simpa using known
  | cons k pieces ih =>
    have other : k ≠ m := fun same => absent (same ▸ List.mem_cons_self)
    obtain ⟨same, still, held⟩ := collect_missing keys w m member c missing k other
    obtain ⟨same', still', held'⟩ :=
      ih (fun later => absent (List.mem_cons_of_mem k later)) (collect keys c (k, w k)) still
    refine ⟨same'.trans same, still', fun j inside known => held' j inside ?_⟩
    rcases known with listed | known
    · rcases List.mem_cons.mp listed with here | later
      · exact .inr (held j inside (.inl here))
      · exact .inl later
    · exact .inr (held j inside (.inr known))

/-- The piece that was missing completes the collection. What is given out agrees with `w`
where the pieces that came before it do, and those that come after complete nothing. -/
theorem foldl_collect_complete (keys : List κ) (w : κ → α) (m : κ) (member : m ∈ keys)
    (before after : List κ) (early : m ∉ before) (late : m ∉ after) (c : Collector κ α)
    (missing : c.received m = none)
    (known : ∀ j ∈ keys, j = m ∨ j ∈ before ∨ c.received j = some (w j)) :
    (((before ++ m :: after).map fun k => (k, w k)).foldl (collect keys) c).complete =
      some (keys.map w) := by
  rw [List.map_append, List.map_cons, List.foldl_append, List.foldl_cons]
  obtain ⟨-, -, held⟩ := foldl_collect_missing keys w m member before early c missing
  generalize (before.map fun k => (k, w k)).foldl (collect keys) c = d at held
  have all (j : κ) (inside : j ∈ keys) :
      Function.update d.received m (some (w m)) j = some (w j) := by
    by_cases same : j = m
    · rw [same]
      exact Function.update_self m _ _
    · rw [Function.update_of_ne same]
      exact held j inside ((known j inside).resolve_left same)
  have full : collect keys d (m, w m) = ⟨fun _ => none, some (keys.map w)⟩ := by
    unfold collect
    dsimp only
    rw [if_pos member, if_pos fun j inside => by rw [all j inside]; rfl,
      List.filterMap_congr all, List.filterMap_eq_map']
  rw [full]
  -- After it everything is missing again, `m` too.
  exact (foldl_collect_missing keys w m member after late _ rfl).1

end Assembly
