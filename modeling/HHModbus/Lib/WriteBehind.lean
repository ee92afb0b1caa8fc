import Mathlib.Logic.Function.Basic
import Mathlib.Data.List.Basic

/-!
# A store behind a FIFO queue of writes

Requests are put on a queue, taken off one at a time and executed against a store; a
request is the list of assignments `writes` reads off it. `settled` is what the store
will hold once everything already requested has been executed, and the lemmas say how
each action moves it.
-/
namespace WriteBehind

variable {κ ν ρ : Type*} [DecidableEq κ]

/-- Carry out assignments in order. -/
def assign (s : κ → ν) (w : List (κ × ν)) : κ → ν :=
  w.foldl (fun s kv => Function.update s kv.1 kv.2) s

@[simp] theorem assign_nil (s : κ → ν) : assign s [] = s := rfl

@[simp] theorem assign_cons (s : κ → ν) (kv : κ × ν) (w : List (κ × ν)) :
    assign s (kv :: w) = assign (Function.update s kv.1 kv.2) w := rfl

/-- A key no assignment names keeps its value. -/
theorem assign_of_notMem (s : κ → ν) (w : List (κ × ν)) (k : κ) (h : k ∉ w.map Prod.fst) :
    assign s w k = s k := by
  induction w generalizing s with
  | nil => rfl
  | cons kv w ih =>
    simp only [List.map_cons, List.mem_cons, not_or] at h
    rw [assign_cons, ih _ h.2, Function.update_of_ne h.1]

/-- An assigned key gets its assigned value, when it is named once. -/
theorem assign_of_mem (s : κ → ν) (w : List (κ × ν)) (nodup : (w.map Prod.fst).Nodup)
    (k : κ) (v : ν) (h : (k, v) ∈ w) : assign s w k = v := by
  induction w generalizing s with
  | nil => cases h
  | cons kv w ih =>
    simp only [List.map_cons, List.nodup_cons] at nodup
    rcases List.mem_cons.mp h with rfl | h
    · -- The first assignment is the key's, and no later one names it.
      rw [assign_cons, assign_of_notMem _ _ _ nodup.1, Function.update_self]
    · exact ih _ nodup.2 h

/-- What the one executor of the queue is doing. -/
inductive Executing (ρ : Type*) where
  | idle
  | taken (r : ρ)
  | answered (r : ρ) (accepted : Bool)
  deriving DecidableEq, Repr

/-- The store, the requests still queued and the request being executed. -/
structure Queue (κ ν ρ : Type*) where
  store : κ → ν
  pending : List ρ
  executing : Executing ρ

inductive Action (ρ : Type*) where
  | put (r : ρ)
  | take
  | frame (accepted : Bool)
  | finish
  deriving DecidableEq, Repr

namespace Queue

variable (writes : ρ → List (κ × ν))

/-- One action of the queue: a request is taken off it, executed (the store accepts it or
rejects it as a whole) and done with before the next one is taken. -/
def step (q : Queue κ ν ρ) : Action ρ → Option (Queue κ ν ρ)
  | .put r => some { q with pending := q.pending ++ [r] }
  | .take =>
    match q.executing, q.pending with
    -- One executor: nothing is taken while a request is being executed.
    | .idle, r :: rest => some { q with pending := rest, executing := .taken r }
    | _, _ => none
  | .frame accepted =>
    match q.executing with
    | .taken r =>
      some { q with
        store := if accepted then assign q.store (writes r) else q.store
        executing := .answered r accepted }
    | _ => none
  | .finish =>
    match q.executing with
    | .answered _ _ => some { q with executing := .idle }
    | _ => none

/-- The requests the store has not seen yet, in the order in which it will see them. -/
def waiting (q : Queue κ ν ρ) : List ρ :=
  match q.executing with
  | .taken r => r :: q.pending
  | _ => q.pending

/-- What the store holds once every request already made has been accepted. -/
def settled (q : Queue κ ν ρ) : κ → ν :=
  q.waiting.foldl (fun s r => assign s (writes r)) q.store

/-- Nothing is queued and nothing is being executed. -/
def Drained (q : Queue κ ν ρ) : Prop := q.pending = [] ∧ q.executing = .idle

instance [DecidableEq ρ] (q : Queue κ ν ρ) : Decidable q.Drained :=
  inferInstanceAs (Decidable (_ ∧ _))

/-- An executor with an empty queue. -/
def start (store : κ → ν) : Queue κ ν ρ := ⟨store, [], .idle⟩

/-- Add a request at the end of the queue. -/
def put (q : Queue κ ν ρ) (r : ρ) : Queue κ ν ρ := { q with pending := q.pending ++ [r] }

omit [DecidableEq κ] in
@[simp] theorem put_store (q : Queue κ ν ρ) (r : ρ) : (q.put r).store = q.store := rfl

omit [DecidableEq κ] in
@[simp] theorem put_executing (q : Queue κ ν ρ) (r : ρ) :
    (q.put r).executing = q.executing := rfl

omit [DecidableEq κ] in
@[simp] theorem waiting_put (q : Queue κ ν ρ) (r : ρ) : (q.put r).waiting = q.waiting ++ [r] := by
  cases h : q.executing <;> simp [waiting, put, h]

variable {writes}

/-- What one action of the executor can do. -/
theorem step_cases {q t : Queue κ ν ρ} {a : Action ρ} (h : q.step writes a = some t) :
    (∃ r, a = .put r ∧ t = q.put r) ∨
    (∃ r rest, a = .take ∧ q.executing = .idle ∧ q.pending = r :: rest ∧
      t = { q with pending := rest, executing := .taken r }) ∨
    (∃ r accepted, a = .frame accepted ∧ q.executing = .taken r ∧
      t = { q with
        store := if accepted then assign q.store (writes r) else q.store
        executing := .answered r accepted }) ∨
    (∃ r accepted, a = .finish ∧ q.executing = .answered r accepted ∧
      t = { q with executing := .idle }) := by
  cases a with
  | put r => exact .inl ⟨r, rfl, by simpa [step, put] using h.symm⟩
  | take =>
    simp only [step] at h
    split at h
    next r rest idle queued => exact .inr (.inl ⟨r, rest, rfl, idle, queued, by simpa using h.symm⟩)
    next => cases h
  | frame accepted =>
    simp only [step] at h
    split at h
    next r taken =>
      exact .inr (.inr (.inl ⟨r, accepted, rfl, taken, by simpa using h.symm⟩))
    next => cases h
  | finish =>
    simp only [step] at h
    split at h
    next r accepted answered =>
      exact .inr (.inr (.inr ⟨r, accepted, rfl, answered, by simpa using h.symm⟩))
    next => cases h

@[simp] theorem settled_start (s : κ → ν) : (start s : Queue κ ν ρ).settled writes = s := rfl

theorem settled_of_drained {q : Queue κ ν ρ} (h : q.Drained) : q.settled writes = q.store := by
  simp only [settled, waiting, h.1, h.2, List.foldl_nil]

@[simp] theorem settled_put (q : Queue κ ν ρ) (r : ρ) :
    (q.put r).settled writes = assign (q.settled writes) (writes r) := by
  simp only [settled, waiting_put, put_store, List.foldl_append, List.foldl_cons, List.foldl_nil]

/-- Putting a request that does not name a key leaves the key's outcome alone. -/
theorem settled_put_of_notMem (q : Queue κ ν ρ) (r : ρ) (k : κ)
    (h : k ∉ (writes r).map Prod.fst) : (q.put r).settled writes k = q.settled writes k := by
  rw [settled_put, assign_of_notMem _ _ _ h]

omit [DecidableEq κ] in
theorem waiting_foldl_put (rs : List ρ) (q : Queue κ ν ρ) :
    (rs.foldl put q).waiting = q.waiting ++ rs := by
  induction rs generalizing q with
  | nil => simp
  | cons r rs ih => rw [List.foldl_cons, ih, waiting_put, List.append_assoc, List.singleton_append]

omit [DecidableEq κ] in
theorem foldl_put_frame (rs : List ρ) (q : Queue κ ν ρ) :
    (rs.foldl put q).store = q.store ∧ (rs.foldl put q).executing = q.executing := by
  induction rs generalizing q with
  | nil => exact ⟨rfl, rfl⟩
  | cons r rs ih => exact ih (q.put r)

theorem settled_foldl_put (rs : List ρ) (q : Queue κ ν ρ) :
    (rs.foldl put q).settled writes = rs.foldl (fun s r => assign s (writes r)) (q.settled writes) := by
  induction rs generalizing q with
  | nil => rfl
  | cons r rs ih => rw [List.foldl_cons, ih, settled_put, List.foldl_cons]

/-- When every request is accepted, executing requests changes no outcome. -/
theorem settled_step {q t : Queue κ ν ρ} {a : Action ρ} (h : q.step writes a = some t)
    (noPut : ∀ r, a ≠ .put r) (accepts : a ≠ .frame false) :
    t.settled writes = q.settled writes := by
  obtain ⟨r, rfl, -⟩ | ⟨r, rest, rfl, idle, queued, rfl⟩ | ⟨r, accepted, rfl, taken, rfl⟩ |
    ⟨r, accepted, rfl, answered, rfl⟩ := step_cases h
  · exact absurd rfl (noPut r)
  · simp only [settled, waiting, idle, queued]
  · cases accepted with
    | false => exact absurd rfl accepts
    -- The request moves from the waiting ones to the store, where it already counted.
    | true => simp only [settled, waiting, taken, List.foldl_cons, if_true]
  · simp only [settled, waiting, answered]

/-- Apart from requests being put, an action leaves the waiting requests and the store
alone, or it takes the first of them to the store. -/
theorem waiting_step {q t : Queue κ ν ρ} {a : Action ρ} (h : q.step writes a = some t)
    (noPut : ∀ r, a ≠ .put r) :
    (t.waiting = q.waiting ∧ t.store = q.store) ∨
    ∃ r accepted, a = .frame accepted ∧ q.executing = .taken r ∧ q.waiting = r :: t.waiting ∧
      t.store = if accepted then assign q.store (writes r) else q.store := by
  obtain ⟨r, rfl, -⟩ | ⟨r, rest, rfl, idle, queued, rfl⟩ | ⟨r, accepted, rfl, taken, rfl⟩ |
    ⟨r, accepted, rfl, answered, rfl⟩ := step_cases h
  · exact absurd rfl (noPut r)
  · left
    simp only [waiting, idle, queued, and_self]
  · right
    exact ⟨r, accepted, rfl, taken, by simp only [waiting, taken], rfl⟩
  · left
    simp only [waiting, answered, and_self]

/-- A key that no waiting request names keeps its value through every executor action. -/
theorem store_step_of_notMem {q t : Queue κ ν ρ} {a : Action ρ} (h : q.step writes a = some t)
    (k : κ) (quiet : ∀ r ∈ q.waiting, k ∉ (writes r).map Prod.fst) : t.store k = q.store k := by
  obtain ⟨r, rfl, rfl⟩ | ⟨r, rest, rfl, idle, queued, rfl⟩ | ⟨r, accepted, rfl, taken, rfl⟩ |
    ⟨r, accepted, rfl, answered, rfl⟩ := step_cases h
  · rfl
  · rfl
  · cases accepted with
    | false => rfl
    | true =>
      have own : k ∉ (writes r).map Prod.fst := quiet r (by simp [waiting, taken])
      simp only [if_true, assign_of_notMem _ _ _ own]
  · rfl

end Queue

end WriteBehind
