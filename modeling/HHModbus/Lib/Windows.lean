import Mathlib.Data.List.Basic
import Mathlib.Data.List.Infix

/-!
# Windows of a stream

Some of the events of a stream carry a piece under a key. The stream is cut as soon as what has come
since the last cut has a piece for each of some keys. `cut` does so event by event, and `cut_spec`
says what it comes to: the last window is a shortest stretch with a piece for every key, and behind
it there is none yet.
-/
namespace Windows

variable {ε κ α : Type*} [DecidableEq κ] (piece : ε → Option (κ × α)) (keys : List κ)

/-- The piece that came last under a key. -/
def latest (events : List ε) (k : κ) : Option α :=
  events.foldl (fun old e =>
    match piece e with
    | some p => if p.1 = k then some p.2 else old
    | none => old) none

def Covers (events : List ε) : Prop := ∀ k ∈ keys, (latest piece events k).isSome = true

instance (events : List ε) : Decidable (Covers piece keys events) :=
  inferInstanceAs (Decidable (∀ _ ∈ _, _))

/-- A stream up to its last window, that window, and the rest. -/
structure Cut (ε : Type*) where
  closed : Option (List ε × List ε)
  rest : List ε

/-- All that is not in the rest. -/
def Cut.front (c : Cut ε) : List ε :=
  match c.closed with
  | none => []
  | some (before, window) => before ++ window

def Cut.extend (c : Cut ε) (e : ε) : Cut ε :=
  if Covers piece keys (c.rest ++ [e]) then ⟨some (c.front, c.rest ++ [e]), []⟩
  else { c with rest := c.rest ++ [e] }

def cut (events : List ε) : Cut ε := events.foldl (Cut.extend piece keys) ⟨none, []⟩

variable {piece keys}

theorem cut_append_singleton (events : List ε) (e : ε) :
    cut piece keys (events ++ [e]) = (cut piece keys events).extend piece keys e := by
  simp [cut]

theorem latest_append_singleton (events : List ε) (e : ε) (k : κ) :
    latest piece (events ++ [e]) k =
      match piece e with
      | some p => if p.1 = k then some p.2 else latest piece events k
      | none => latest piece events k := by
  simp [latest]

theorem latest_of_piece {events : List ε} {e : ε} {k : κ} {a : α} (here : piece e = some (k, a)) :
    latest piece (events ++ [e]) k = some a := by
  simp [latest_append_singleton, here]

theorem latest_of_other {events : List ε} {e : ε} {k : κ} (other : ∀ p, piece e = some p → p.1 ≠ k) :
    latest piece (events ++ [e]) k = latest piece events k := by
  rw [latest_append_singleton]
  split
  next p here => rw [if_neg (other p here)]
  next => rfl

/-- The later part of a stream decides where it has a piece. -/
theorem latest_append (first later : List ε) (k : κ) :
    latest piece (first ++ later) k = (latest piece later k).or (latest piece first k) := by
  induction later using List.reverseRecOn with
  | nil => simp [latest]
  | append_singleton later e ih =>
    rw [← List.append_assoc, latest_append_singleton, latest_append_singleton, ih]
    split
    · split
      · rfl
      · rfl
    · rfl

theorem covers_of_mem {events : List ε} (all : ∀ k ∈ keys, ∃ e ∈ events, ∃ a, piece e = some (k, a)) :
    Covers piece keys events := by
  intro k member
  obtain ⟨e, there, a, here⟩ := all k member
  obtain ⟨first, later, rfl⟩ := List.append_of_mem there
  rw [← List.singleton_append, ← List.append_assoc, latest_append, latest_of_piece here]
  cases latest piece later k <;> rfl

theorem Covers.append_left {later : List ε} (covers : Covers piece keys later) (first : List ε) :
    Covers piece keys (first ++ later) := by
  intro k member
  have there := covers k member
  rw [latest_append]
  cases found : latest piece later k with
  | none => simp [found] at there
  | some a => rfl

/-- A cut loses nothing. Its window is a shortest one that starts where the window before it ended, and
no window is left behind it. -/
structure Exact (piece : ε → Option (κ × α)) (keys : List κ) (events : List ε) (c : Cut ε) : Prop where
  whole : c.front ++ c.rest = events
  ends : (cut piece keys c.front).rest = []
  open_ : ¬ Covers piece keys c.rest
  closed : ∀ before window, c.closed = some (before, window) →
    (cut piece keys before).rest = [] ∧ Covers piece keys window ∧ ¬ Covers piece keys window.dropLast

theorem cut_spec (nonempty : keys ≠ []) (events : List ε) :
    Exact piece keys events (cut piece keys events) := by
  have nothing : ¬ Covers piece keys ([] : List ε) := by
    obtain ⟨k, rest, rfl⟩ := List.exists_cons_of_ne_nil nonempty
    intro covers
    simpa [latest] using covers k List.mem_cons_self
  induction events using List.reverseRecOn with
  | nil => exact ⟨rfl, rfl, nothing, nofun⟩
  | append_singleton events e ih =>
    have whole : (cut piece keys events).front ++ ((cut piece keys events).rest ++ [e]) = events ++ [e] := by
      rw [← List.append_assoc, ih.whole]
    rw [cut_append_singleton]
    unfold Cut.extend
    split
    next covers =>
      -- All the events are in windows now.
      have front : (⟨some ((cut piece keys events).front, (cut piece keys events).rest ++ [e]), []⟩ :
          Cut ε).front = events ++ [e] := whole
      refine ⟨?_, ?_, nothing, ?_⟩
      · rw [front, List.append_nil]
      · rw [front, cut_append_singleton, Cut.extend, if_pos covers]
      · intro before window same
        cases same
        rw [List.dropLast_concat]
        exact ⟨ih.ends, covers, ih.open_⟩
    next more => exact ⟨whole, ih.ends, more, ih.closed⟩

/-- The last of the windows that a stream is cut into one after the other. -/
structure LastWindow (piece : ε → Option (κ × α)) (keys : List κ)
    (events before window rest : List ε) : Prop where
  made : cut piece keys events = ⟨some (before, window), rest⟩
  whole : before ++ window ++ rest = events
  /-- What comes before it is cut into windows without a rest. -/
  starts : (cut piece keys before).rest = []
  covers : Covers piece keys window
  shortest : ¬ Covers piece keys window.dropLast
  open_ : ¬ Covers piece keys rest

theorem cut_cases (nonempty : keys ≠ []) (events : List ε) :
    ((cut piece keys events).closed = none ∧ ¬ Covers piece keys events) ∨
    ∃ before window rest, LastWindow piece keys events before window rest := by
  have spec : Exact piece keys events (cut piece keys events) := cut_spec nonempty events
  cases made : cut piece keys events with
  | mk closed rest =>
    rw [made] at spec
    cases closed with
    | none =>
      left
      refine ⟨rfl, ?_⟩
      rw [← spec.whole]
      exact spec.open_
    | some parts =>
      right
      obtain ⟨starts, covers, shortest⟩ := spec.closed parts.1 parts.2 rfl
      exact ⟨parts.1, parts.2, rest, made, spec.whole, starts, covers, shortest, spec.open_⟩

/-- A stretch with a piece for every key ends after the last window has begun: it is cut. -/
theorem exists_lastWindow (nonempty : keys ≠ []) (events : List ε) {round : List ε}
    (covers : Covers piece keys round) :
    ∃ before window rest, LastWindow piece keys (events ++ round) before window rest ∧
      events.length < (before ++ window).length := by
  rcases cut_cases nonempty (events ++ round) with ⟨-, open_⟩ | ⟨before, window, rest, last⟩
  · exact absurd (covers.append_left events) open_
  · refine ⟨before, window, rest, last, Nat.lt_of_not_le fun early => ?_⟩
    -- Otherwise the whole stretch would be in the rest.
    apply last.open_
    obtain ⟨gap, same⟩ : ∃ gap, rest = gap ++ round := by
      rcases List.append_eq_append_iff.mp last.whole with ⟨gap, -, behind⟩ | ⟨gap, front, here⟩
      · exact ⟨gap, behind⟩
      · have none_ : gap = [] := by
          rw [front, List.length_append] at early
          exact List.eq_nil_of_length_eq_zero (by omega)
        subst none_
        exact ⟨[], by simpa using here.symm⟩
    rw [same]
    exact covers.append_left gap

end Windows
