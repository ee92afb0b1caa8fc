import HHModbus.Lib.Cooperative
import HHModbus.Lib.Tables
import HHModbus.Lib.Transition
import Mathlib.Data.List.Dedup

/-!
# Teardowns of a serial proxy port

`SerialProxyClient.close()` tears a link down in a task of its own. The task stands in a slot of
the client and in one of the port, where the next `close()` replaces it; connection attempts and
register requests look at the two slots once and wait for what they find there. The model is one
port with all the clients it ever gets and all the calls they make.
-/
namespace HHModbus

open Transition Cooperative Tables

inductive ProxyUse where
  | connect
  | request
  deriving DecidableEq, Repr

/-- A call in `_await_teardown`, with the teardowns it still has to wait for. -/
structure ProxyWait (ι : Type*) where
  client : ι
  use : ProxyUse
  tasks : List Nat

/-- A call that went on to the link, with the teardowns running at that moment. -/
structure ProxyStart (ι : Type*) where
  client : ι
  use : ProxyUse
  running : List Nat
  deriving DecidableEq

/-- What comes of waiting for some teardowns in turn. -/
inductive AwaitOutcome where
  | proceed
  /-- A teardown ended with an exception, which is raised in the call too. -/
  | raise
  | wait (tasks : List Nat)
  deriving DecidableEq, Repr

/-- The teardown tasks are numbered in the order in which they are created. -/
structure ProxyPort (ι κ : Type*) where
  created : Nat
  /-- Whether a task has ended, and whether with an exception. -/
  ended : Nat → Option Bool
  owner : Nat → Option ι
  /-- `_teardown` of each client. -/
  teardown : ι → Option Nat
  /-- `_PENDING_TEARDOWNS` of the port. -/
  pending : Option Nat
  waiting : κ → Option (ProxyWait ι)
  starts : List (ProxyStart ι)

inductive ProxyAction (ι κ : Type*) where
  | close (i : ι)
  /-- `connect()` or a request; the order in which the set is gone through is open. -/
  | call (j : κ) (i : ι) (use : ProxyUse) (portFirst : Bool)
  | finish (k : Nat) (raised : Bool)
  | teardownDone (k : Nat)
  | resume (j : κ)
  | cancel (j : κ)

namespace ProxyPort

variable {ι κ : Type*} [DecidableEq ι] [DecidableEq κ]

def start : ProxyPort ι κ where
  created := 0
  ended := fun _ => none
  owner := fun _ => none
  teardown := fun _ => none
  pending := none
  waiting := fun _ => none
  starts := []

/-- A disconnect task that has been created and has not ended. -/
def Running (s : ProxyPort ι κ) (k : Nat) : Prop := k < s.created ∧ s.ended k = none

def runningTasks (s : ProxyPort ι κ) : List Nat :=
  (List.range s.created).filter fun k => (s.ended k).isNone

/-- The set that `_await_teardown` goes through. -/
def awaited (s : ProxyPort ι κ) (i : ι) (portFirst : Bool) : List Nat :=
  let tasks := ((s.teardown i).toList ++ s.pending.toList).dedup
  if portFirst then tasks.reverse else tasks

/-- The loop of `_await_teardown`. A task that has ended is passed without suspending. -/
def awaitTasks (s : ProxyPort ι κ) : List Nat → AwaitOutcome
  | [] => .proceed
  | k :: rest =>
    match s.ended k with
    | none => .wait (k :: rest)
    | some true => .raise
    | some false => s.awaitTasks rest

/-- The call goes on as far as it can. -/
def goOn (s : ProxyPort ι κ) (j : κ) (w : ProxyWait ι) : ProxyPort ι κ :=
  match s.awaitTasks w.tasks with
  | .proceed =>
    { s with
      waiting := Function.update s.waiting j none
      starts := s.starts ++ [⟨w.client, w.use, s.runningTasks⟩] }
  | .raise => { s with waiting := Function.update s.waiting j none }
  | .wait tasks => { s with waiting := Function.update s.waiting j (some { w with tasks }) }

def step (s : ProxyPort ι κ) : ProxyAction ι κ → Option (ProxyPort ι κ)
  | .close i =>
    some { s with
      created := s.created + 1
      owner := Function.update s.owner s.created (some i)
      teardown := Function.update s.teardown i (some s.created)
      pending := some s.created }
  | .call j i use portFirst =>
    match s.waiting j with
    | none => some (s.goOn j ⟨i, use, s.awaited i portFirst⟩)
    | some _ => none
  | .finish k raised =>
    if k < s.created ∧ s.ended k = none then
      some { s with ended := Function.update s.ended k (some raised) }
    else none
  | .teardownDone k =>
    match s.ended k with
    | none => none
    | some _ =>
      some { s with
        teardown := fun i =>
          if s.owner k = some i ∧ s.teardown i = some k then none else s.teardown i
        pending := if s.pending = some k then none else s.pending }
  -- Before the end of the task it waits for this changes nothing.
  | .resume j => (s.waiting j).map (s.goOn j)
  | .cancel j => some { s with waiting := Function.update s.waiting j none }

/-- No call went on to the link alongside a teardown. -/
def Clean (s : ProxyPort ι κ) : Prop := ∀ r ∈ s.starts, r.running = []

/-- Nothing is closed while a call waits, and a call that looks for the teardowns of the port finds
all that are running. -/
def Visible (s : ProxyPort ι κ) : ProxyAction ι κ → Prop
  | .close _ => ∀ j, s.waiting j = none
  | .call _ i _ _ => ∀ k, s.Running k → s.teardown i = some k ∨ s.pending = some k
  | _ => True

omit [DecidableEq ι] [DecidableEq κ] in
theorem mem_runningTasks (s : ProxyPort ι κ) (k : Nat) : k ∈ s.runningTasks ↔ s.Running k := by
  simp [runningTasks, Running]

omit [DecidableEq ι] [DecidableEq κ] in
theorem mem_awaited (s : ProxyPort ι κ) (i : ι) (portFirst : Bool) (k : Nat) :
    k ∈ s.awaited i portFirst ↔ s.teardown i = some k ∨ s.pending = some k := by
  unfold awaited
  cases portFirst <;> simp

omit [DecidableEq ι] [DecidableEq κ] in
theorem ended_of_proceed {s : ProxyPort ι κ} {tasks : List Nat}
    (proceeds : s.awaitTasks tasks = .proceed) : ∀ k ∈ tasks, s.ended k ≠ none := by
  induction tasks with
  | nil => simp
  | cons k rest ih =>
    rw [awaitTasks] at proceeds
    split at proceeds
    next => cases proceeds
    next => cases proceeds
    next done =>
      intro l member
      rcases List.mem_cons.mp member with rfl | later
      · simp [done]
      · exact ih proceeds l later

omit [DecidableEq ι] [DecidableEq κ] in
theorem mem_of_wait {s : ProxyPort ι κ} {tasks left : List Nat}
    (waits : s.awaitTasks tasks = .wait left) {k : Nat} (member : k ∈ tasks)
    (open_ : s.ended k = none) : k ∈ left := by
  induction tasks with
  | nil => cases member
  | cons l rest ih =>
    rw [awaitTasks] at waits
    split at waits
    next =>
      cases waits
      exact member
    next => cases waits
    next done =>
      rcases List.mem_cons.mp member with rfl | later
      · rw [done] at open_
        cases open_
      · exact ih waits later

omit [DecidableEq ι] [DecidableEq κ] in
theorem subset_of_wait {s : ProxyPort ι κ} {tasks left : List Nat}
    (waits : s.awaitTasks tasks = .wait left) : left ⊆ tasks := by
  induction tasks with
  | nil => cases waits
  | cons l rest ih =>
    rw [awaitTasks] at waits
    split at waits
    next =>
      cases waits
      exact fun _ member => member
    next => cases waits
    next => exact fun k member => List.mem_cons_of_mem l (ih waits member)

/-- A task that is still running after the end of another one was running before. -/
theorem ended_update_eq_none {ended : Nat → Option Bool} {k l : Nat} {raised : Bool} :
    Function.update ended k (some raised) l = none ↔ l ≠ k ∧ ended l = none := by
  rw [Function.update_apply]
  split
  next same => simp [same]
  next other => simp [other]

/-! ### Where the condition is met -/

/-- Whoever waits waits for every teardown that is running. -/
structure Covered (s : ProxyPort ι κ) : Prop where
  waits : ∀ j w, s.waiting j = some w → ∀ k, s.Running k → k ∈ w.tasks
  clean : s.Clean

namespace Covered

variable {s : ProxyPort ι κ}

omit [DecidableEq ι] [DecidableEq κ] in
theorem start : (ProxyPort.start : ProxyPort ι κ).Covered where
  waits _ _ waiting := by cases waiting
  clean _ member := by cases member

omit [DecidableEq ι] in
theorem goOn (covered : s.Covered) (j : κ) (w : ProxyWait ι)
    (all : ∀ k, s.Running k → k ∈ w.tasks) : (s.goOn j w).Covered := by
  unfold ProxyPort.goOn
  split
  next proceeds =>
    refine ⟨every_update (fun j w _ => covered.waits j w) (by simp), fun r member => ?_⟩
    rcases List.mem_append.mp member with earlier | new
    · exact covered.clean r earlier
    · -- All that it waited for have ended, and it waited for all that are running.
      rw [List.mem_singleton.mp new, List.eq_nil_iff_forall_not_mem]
      intro k running
      have runs := (s.mem_runningTasks k).mp running
      exact ended_of_proceed proceeds k (all k runs) runs.2
  next => exact ⟨every_update (fun j w _ => covered.waits j w) (by simp), covered.clean⟩
  next left waits =>
    refine ⟨every_update (fun j w _ => covered.waits j w) ?_, covered.clean⟩
    intro w' same k running
    cases same
    exact mem_of_wait waits (all k running) running.2

theorem step {a : ProxyAction ι κ} {t : ProxyPort ι κ} (covered : s.Covered) (visible : s.Visible a)
    (h : s.step a = some t) : t.Covered := by
  cases a with
  | close i =>
    cases h
    -- Nobody is waiting who could miss the new teardown.
    refine ⟨fun j w waiting => ?_, covered.clean⟩
    change s.waiting j = some w at waiting
    rw [visible j] at waiting
    cases waiting
  | call j i use portFirst =>
    simp only [ProxyPort.step] at h
    split at h
    next =>
      cases h
      exact covered.goOn j _ fun k running => (s.mem_awaited i portFirst k).mpr (visible k running)
    next => cases h
  | finish k raised =>
    simp only [ProxyPort.step] at h
    split at h
    next =>
      cases h
      refine ⟨fun j w waiting l running => covered.waits j w waiting l ?_, covered.clean⟩
      exact ⟨running.1, (ended_update_eq_none.mp running.2).2⟩
    next => cases h
  | teardownDone k =>
    simp only [ProxyPort.step] at h
    split at h
    next => cases h
    next =>
      cases h
      exact ⟨covered.waits, covered.clean⟩
  | resume j =>
    obtain ⟨w, waiting, rfl⟩ := Option.map_eq_some_iff.mp h
    exact covered.goOn j w (covered.waits j w waiting)
  | cancel j =>
    cases h
    exact ⟨every_update (fun j w _ => covered.waits j w) (by simp), covered.clean⟩

end Covered

/-! ### Where it is not -/

/-- Only teardowns that have been created end, stand in a slot or are waited for. -/
structure Known (s : ProxyPort ι κ) : Prop where
  ended : ∀ k, s.ended k ≠ none → k < s.created
  teardown : ∀ i k, s.teardown i = some k → k < s.created
  pending : ∀ k, s.pending = some k → k < s.created
  waits : ∀ j w, s.waiting j = some w → ∀ k ∈ w.tasks, k < s.created

namespace Known

variable {s : ProxyPort ι κ}

omit [DecidableEq ι] [DecidableEq κ] in
theorem start : (ProxyPort.start : ProxyPort ι κ).Known where
  ended _ done := absurd rfl done
  teardown _ _ slot := by cases slot
  pending _ slot := by cases slot
  waits _ _ waiting := by cases waiting

omit [DecidableEq ι] in
theorem goOn (known : s.Known) (j : κ) (w : ProxyWait ι) (all : ∀ k ∈ w.tasks, k < s.created) :
    (s.goOn j w).Known := by
  have waits {o : Option (ProxyWait ι)} (fits : ∀ w', o = some w' → w'.tasks ⊆ w.tasks) :=
    every_update (P := fun w => ∀ k ∈ w.tasks, k < s.created) (i := j) (fun j w _ => known.waits j w)
      fun w' new k member => all k (fits w' new member)
  unfold ProxyPort.goOn
  split
  next => exact ⟨known.ended, known.teardown, known.pending, waits (by simp)⟩
  next => exact ⟨known.ended, known.teardown, known.pending, waits (by simp)⟩
  next left waits_ =>
    refine ⟨known.ended, known.teardown, known.pending, waits ?_⟩
    intro w' same
    cases same
    exact subset_of_wait waits_

theorem step {a : ProxyAction ι κ} {t : ProxyPort ι κ} (known : s.Known) (h : s.step a = some t) :
    t.Known := by
  cases a with
  | close i =>
    cases h
    refine ⟨fun k done => Nat.lt_succ_of_lt (known.ended k done), fun i' k slot => ?_,
      fun k slot => ?_, fun j w waiting k member => ?_⟩
    · change Function.update s.teardown i (some s.created) i' = some k at slot
      rw [Function.update_apply, ite_eq_iff] at slot
      rcases slot with ⟨-, new⟩ | ⟨-, old⟩
      · cases new
        exact Nat.lt_succ_self _
      · exact Nat.lt_succ_of_lt (known.teardown i' k old)
    · cases slot
      exact Nat.lt_succ_self _
    · exact Nat.lt_succ_of_lt (known.waits j w waiting k member)
  | call j i use portFirst =>
    simp only [ProxyPort.step] at h
    split at h
    next =>
      cases h
      refine known.goOn j _ fun k member => ?_
      rcases (s.mem_awaited i portFirst k).mp member with own | port
      · exact known.teardown i k own
      · exact known.pending k port
    next => cases h
  | finish k raised =>
    simp only [ProxyPort.step] at h
    split at h
    next open_ =>
      cases h
      refine ⟨fun l done => ?_, known.teardown, known.pending, known.waits⟩
      by_cases same : l = k
      · exact same ▸ open_.1
      · exact known.ended l fun running => done (ended_update_eq_none.mpr ⟨same, running⟩)
    next => cases h
  | teardownDone k =>
    simp only [ProxyPort.step] at h
    split at h
    next => cases h
    next =>
      cases h
      refine ⟨known.ended, fun i l slot => ?_, fun l slot => ?_, known.waits⟩
      · dsimp only at slot
        split at slot
        next => cases slot
        next => exact known.teardown i l slot
      · dsimp only at slot
        split at slot
        next => cases slot
        next => exact known.pending l slot
  | resume j =>
    obtain ⟨w, waiting, rfl⟩ := Option.map_eq_some_iff.mp h
    exact known.goOn j w (known.waits j w waiting)
  | cancel j =>
    cases h
    exact ⟨known.ended, known.teardown, known.pending, every_update (fun j w _ => known.waits j w) (by simp)⟩

theorem run {acts : List (ProxyAction ι κ)} {t : ProxyPort ι κ}
    (run : exec ProxyPort.step ProxyPort.start acts = some t) : t.Known :=
  invariant (fun _ _ _ known h => known.step h) start run

end Known

omit [DecidableEq ι] [DecidableEq κ] in
theorem awaitTasks_of_ended {s : ProxyPort ι κ} {tasks : List Nat}
    (ended : ∀ k ∈ tasks, s.ended k = some false) : s.awaitTasks tasks = .proceed := by
  induction tasks with
  | nil => rfl
  | cons k rest ih =>
    rw [awaitTasks, ended k List.mem_cons_self]
    exact ih fun l member => ended l (List.mem_cons_of_mem k member)

/-- A disconnect can end without an exception, if it has not ended yet. -/
theorem exec_finish_one {s : ProxyPort ι κ} {k : Nat} (known : k < s.created)
    (fine : s.ended k ≠ some true) : ∃ acts u, exec step s acts = some u ∧
      u.created = s.created ∧ u.waiting = s.waiting ∧
      u.ended = Function.update s.ended k (some false) := by
  cases state : s.ended k with
  | none =>
    have ends : s.step (.finish k false) =
        some { s with ended := Function.update s.ended k (some false) } := if_pos ⟨known, state⟩
    exact ⟨[.finish k false], _, exec_cons_iff.mpr ⟨_, ends, rfl⟩, rfl, rfl, rfl⟩
  | some raised =>
    cases raised with
    | false => exact ⟨[], s, rfl, rfl, rfl, (state ▸ Function.update_eq_self k s.ended).symm⟩
    | true => exact absurd state fine

/-- Disconnects can end one after the other, whatever else is still running. -/
theorem exec_finish {s : ProxyPort ι κ} {tasks : List Nat} (known : ∀ k ∈ tasks, k < s.created)
    (fine : ∀ k, s.ended k ≠ some true) : ∃ acts u, exec step s acts = some u ∧
      u.created = s.created ∧ u.waiting = s.waiting ∧
      ∀ k, u.ended k = if k ∈ tasks then some false else s.ended k := by
  induction tasks generalizing s with
  | nil => exact ⟨[], s, rfl, rfl, rfl, fun _ => rfl⟩
  | cons k rest ih =>
    obtain ⟨first, t, run, created, waiting, ended⟩ :=
      exec_finish_one (known k List.mem_cons_self) (fine k)
    have fine' (l : Nat) : t.ended l ≠ some true := by
      rw [ended, Function.update_apply]
      split
      · simp
      · exact fine l
    have known' (l : Nat) (member : l ∈ rest) : l < t.created := by
      rw [created]
      exact known l (List.mem_cons_of_mem k member)
    obtain ⟨more, u, run', created', waiting', ended'⟩ := ih known' fine'
    refine ⟨first ++ more, u, exec_append_iff.mpr ⟨t, run, run'⟩, created'.trans created,
      waiting'.trans waiting, fun l => ?_⟩
    rw [ended' l, ended, Function.update_apply]
    by_cases later : l ∈ rest
    · rw [if_pos later, if_pos (List.mem_cons_of_mem k later)]
    · rw [if_neg later]
      simp only [List.mem_cons, later, or_false]

omit [DecidableEq ι] [DecidableEq κ] in
theorem awaitTasks_ne_raise {s : ProxyPort ι κ} (fine : ∀ k, s.ended k ≠ some true)
    (tasks : List Nat) : s.awaitTasks tasks ≠ .raise := by
  induction tasks with
  | nil => simp [awaitTasks]
  | cons k rest ih =>
    rw [awaitTasks]
    split
    next => simp
    next raised => exact absurd raised (fine k)
    next => exact ih

omit [DecidableEq ι] in
theorem not_clean_of_proceed {s : ProxyPort ι κ} (j : κ) {w : ProxyWait ι}
    (proceeds : s.awaitTasks w.tasks = .proceed) {k : Nat} (running : s.Running k) :
    ¬ (s.goOn j w).Clean := by
  intro clean
  have alone : s.runningTasks = [] :=
    clean ⟨w.client, w.use, s.runningTasks⟩ (by simp [goOn, proceeds])
  have there := (s.mem_runningTasks k).mpr running
  rw [alone] at there
  cases there

/-- A teardown that a waiting call does not wait for may still be running when the call goes on. -/
theorem overlap_of_missed {s : ProxyPort ι κ} {j : κ} {w : ProxyWait ι} (known : s.Known)
    (fine : ∀ k, s.ended k ≠ some true) (waiting : s.waiting j = some w) {k : Nat}
    (running : s.Running k) (missed : k ∉ w.tasks) :
    ∃ more u, exec step s more = some u ∧ ¬ u.Clean := by
  -- What the call waits for ends, the other teardown does not, and the call goes on.
  obtain ⟨acts, u, run, created, waits, ended⟩ := exec_finish (known.waits j w waiting) fine
  have last : u.step (.resume j) = some (u.goOn j w) := by
    simp only [step, waits, waiting, Option.map_some]
  have running' : u.Running k := by
    refine ⟨created ▸ running.1, ?_⟩
    rw [ended k, if_neg missed]
    exact running.2
  have proceeds : u.awaitTasks w.tasks = .proceed :=
    awaitTasks_of_ended fun l member => by rw [ended l, if_pos member]
  exact ⟨acts ++ [.resume j], u.goOn j w,
    exec_append_iff.mpr ⟨u, run, exec_cons_iff.mpr ⟨_, last, rfl⟩⟩,
    not_clean_of_proceed j proceeds running'⟩

/-- A step that hides a teardown from a call can lead to an overlap. -/
theorem overlap_of_hidden {s t : ProxyPort ι κ} {a : ProxyAction ι κ} (known : s.Known)
    (fine : ∀ k, s.ended k ≠ some true) (h : s.step a = some t) (hidden : ¬ s.Visible a) :
    ∃ more u, exec step t more = some u ∧ ¬ u.Clean := by
  have known' := known.step h
  cases a with
  | close i =>
    cases h
    -- The waiting call knows nothing of the new teardown.
    simp only [Visible, not_forall] at hidden
    obtain ⟨j, waits⟩ := hidden
    obtain ⟨w, waiting⟩ := Option.ne_none_iff_exists'.mp waits
    have fresh : s.ended s.created = none := by
      by_contra done
      exact absurd (known.ended _ done) (Nat.lt_irrefl _)
    refine overlap_of_missed (j := j) (w := w) (k := s.created) known' fine waiting
      ⟨Nat.lt_succ_self _, fresh⟩ fun member => ?_
    exact absurd (known.waits j w waiting _ member) (Nat.lt_irrefl _)
  | call j i use portFirst =>
    simp only [Visible, not_forall] at hidden
    obtain ⟨k, running, hidden⟩ := hidden
    have missed : k ∉ s.awaited i portFirst := fun member =>
      hidden ((s.mem_awaited i portFirst k).mp member)
    simp only [step] at h
    split at h
    next =>
      cases h
      -- The call goes on at once, or waits for the teardowns it has found.
      cases outcome : s.awaitTasks (s.awaited i portFirst) with
      | proceed => exact ⟨[], _, rfl, not_clean_of_proceed j outcome running⟩
      | raise => exact absurd outcome (awaitTasks_ne_raise fine _)
      | wait left_ =>
        have goes : s.goOn j ⟨i, use, s.awaited i portFirst⟩ =
            { s with waiting := Function.update s.waiting j (some ⟨i, use, left_⟩) } := by
          simp only [goOn, outcome]
        rw [goes] at known' ⊢
        exact overlap_of_missed (w := ⟨i, use, left_⟩) known' fine (Function.update_self ..) running
          fun member => missed (subset_of_wait outcome member)
    next => cases h
  | finish k raised => exact absurd trivial hidden
  | teardownDone k => exact absurd trivial hidden
  | resume j => exact absurd trivial hidden
  | cancel j => exact absurd trivial hidden

/-- **When teardowns stay clear of new sessions**: in every run in which nothing is closed while a
call waits and every call finds all the running teardowns in the two slots. Any other step can
lead to a call that starts alongside a teardown. -/
theorem starts_alone :
    (∀ (acts : List (ProxyAction ι κ)) (s : ProxyPort ι κ), exec step start acts = some s →
      Along step (fun s a _ => s.Visible a) start acts → s.Clean) ∧
    ∀ (acts : List (ProxyAction ι κ)) (s t : ProxyPort ι κ) (a : ProxyAction ι κ),
      exec step start acts = some s → (∀ k, s.ended k ≠ some true) → s.step a = some t →
        ¬ s.Visible a → ∃ more u, exec step t more = some u ∧ ¬ u.Clean := by
  constructor
  · intro acts s run visible
    have keeps (s : ProxyPort ι κ) (a : ProxyAction ι κ) (t : ProxyPort ι κ) (covered : s.Covered)
        (h : s.step a = some t) (sees : s.Visible a) : t.Covered := covered.step sees h
    exact (invariant_along keeps Covered.start visible run).clean
  · intro acts s t a run fine h hidden
    exact overlap_of_hidden (Known.run run) fine h hidden

end ProxyPort

/-- A connected client is closed twice, then a new client for the port opens the link. -/
def closedTwice : List (ProxyAction Nat Nat) := [
  .call 0 0 .connect false, .close 0, .close 0, .call 1 1 .connect false,
  -- The second disconnect is done first.
  .finish 1 false, .teardownDone 1, .resume 1]

/-- The new client connects while the first disconnect is running. -/
theorem closedTwice_overlap : ∃ s, exec ProxyPort.step ProxyPort.start closedTwice = some s ∧
    s.Running 0 ∧ s.starts = [⟨0, .connect, []⟩, ⟨1, .connect, [0]⟩] ∧ ¬ s.Clean := by
  have outcome : (exec ProxyPort.step ProxyPort.start closedTwice).map
      (fun s => (s.created, s.ended 0, s.starts)) =
        some (2, none, [⟨0, .connect, []⟩, ⟨1, .connect, [0]⟩]) := by decide
  obtain ⟨s, run, same⟩ := Option.map_eq_some_iff.mp outcome
  simp only [Prod.mk.injEq] at same
  obtain ⟨created, ended, starts⟩ := same
  refine ⟨s, run, ⟨created ▸ by decide, ended⟩, starts, fun clean => ?_⟩
  have alone := clean ⟨1, .connect, [0]⟩ (by simp [starts])
  cases alone

end HHModbus
