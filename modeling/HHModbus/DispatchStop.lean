import HHModbus.Dispatch

/-!
# The stop service against calls still in flight

What the dispatch master register settles at after a stop, in any interleaving of the
calls that were issued before it.
-/
namespace HHModbus

open Transition WriteBehind

/-- The call turns the dispatch master on when it queues its blocks. -/
def DispatchCall.enablesMaster : DispatchCall → Bool
  | dispatch _ => true
  | schedule call => call.enabled

namespace Dispatch

/-- The action lets a call queue blocks that turn the master on. -/
def enablesMaster (s : Dispatch) : DispatchAction → Bool
  | .resume i .enqueue => (s.calls[i]?).any fun task => task.call.enablesMaster
  | _ => false

theorem settled_executor {s t : Dispatch} {a : WriteBehind.Action DispatchWrite}
    (h : s.executor a = some t) (noPut : ∀ w, a ≠ .put w) (accepts : a ≠ .frame false) (r : Nat) :
    t.settled r = s.settled r := by
  simp only [executor, Option.map_eq_some_iff] at h
  obtain ⟨queue, hq, rfl⟩ := h
  exact congrFun (Queue.settled_step hq noPut accepts) r

private theorem master_notMem_multiple (start : Nat) (values : List Nat) (above : 44100 < start) :
    dispatchMasterReg ∉ (WriteRequest.multiple start values).writes.map Prod.fst := by
  rw [WriteRequest.registers_multiple, List.mem_range'_1, dispatchMasterReg]
  omega

/-- A call that queues its blocks leaves the master at 1 or as it was. -/
theorem master_enqueued (call : DispatchCall) (head words : List Nat) (d : Nat → Nat) :
    (call.lockedWrites head words ++ call.unlockedWrites).foldl (fun d w => assign d w.writes) d
        dispatchMasterReg =
      if call.enablesMaster then 1 else d dispatchMasterReg := by
  cases call with
  | dispatch call =>
    -- The block of the call itself starts at 44105, so the global block before it decides.
    simp only [DispatchCall.lockedWrites, DispatchCall.unlockedWrites, List.append_nil,
      List.foldl_cons, List.foldl_nil, DispatchCall.enablesMaster, if_true,
      DispatchCall.blockRegister]
    rw [assign_of_notMem _ _ _ (master_notMem_multiple 44105 _ (by omega))]
    apply assign_of_mem _ _ (WriteRequest.nodup_registers _)
    exact WriteRequest.mem_writes_multiple (i := 0) rfl
  | schedule call =>
    have block := master_notMem_multiple (DispatchCall.schedule call).blockRegister (head ++ words)
      (by simp only [DispatchCall.blockRegister]; omega)
    by_cases enabled : call.enabled = true
    · have on : (DispatchCall.schedule call).enablesMaster = true := enabled
      simp [DispatchCall.lockedWrites, DispatchCall.unlockedWrites, on, enabled]
    · have off : (DispatchCall.schedule call).enablesMaster = false := Bool.eq_false_iff.mpr enabled
      simp only [DispatchCall.lockedWrites, DispatchCall.unlockedWrites, if_neg enabled, off,
        List.append_nil, List.foldl_cons, List.foldl_nil, Bool.false_eq_true, if_false]
      exact assign_of_notMem _ _ _ block

theorem master_stop (s : Dispatch) : s.dispatchStop.settled dispatchMasterReg = 0 := by
  rw [dispatchStop, settled_put]
  simp

/-- What one step other than a stop makes of the master's outcome. -/
theorem master_step {s t : Dispatch} {a : DispatchAction} (h : s.step a = some t)
    (accepted : a ≠ .frame false) (running : a ≠ .stop)
    (other : ∀ w, a = .otherWrite w → dispatchMasterReg ∉ w.writes.map Prod.fst) :
    t.settled dispatchMasterReg =
      if s.enablesMaster a then 1 else s.settled dispatchMasterReg := by
  cases a with
  | issue call =>
    cases h
    rfl
  | resume i e =>
    obtain ⟨task, found, enqueues | waits⟩ := resume_cases h
    · obtain ⟨head, words, rfl, ready, rfl⟩ := enqueues
      simp only [settled_put, ready, enqueued, enablesMaster, found, Option.any_some]
      exact master_enqueued task.call head words _
    · obtain ⟨phase, other_, -, rfl⟩ := waits
      have quiet : s.enablesMaster (.resume i e) = false := by
        cases e <;> first | rfl | exact absurd rfl other_
      rw [quiet]
      rfl
  | stop => exact absurd rfl running
  | otherWrite w =>
    simp only [step] at h
    split at h
    next => cases h
    next =>
      cases h
      rw [settled_put]
      exact assign_of_notMem _ _ _ (other w rfl)
  | cacheSave register value =>
    cases h
    rfl
  | take | finish => exact settled_executor h (by simp) (by simp) _
  | frame ok =>
    refine settled_executor h (by simp) ?_ _
    intro rejects
    cases rejects
    exact accepted rfl

theorem master_run {s t : Dispatch} {acts : List DispatchAction} (run : exec step s acts = some t)
    (accepted : .frame false ∉ acts) (running : .stop ∉ acts)
    (others : ∀ w, .otherWrite w ∈ acts → dispatchMasterReg ∉ w.writes.map Prod.fst) :
    t.settled dispatchMasterReg = 0 ↔
      s.settled dispatchMasterReg = 0 ∧ Along step (fun s a _ => s.enablesMaster a = false) s acts := by
  induction acts generalizing s with
  | nil =>
    cases run
    simp
  | cons a rest ih =>
    obtain ⟨m, ha, hr⟩ := exec_cons_iff.mp run
    simp only [List.mem_cons, not_or] at accepted running
    have later := ih hr accepted.2 running.2 fun w member => others w (List.mem_cons_of_mem _ member)
    have now := master_step ha (Ne.symm accepted.1) (Ne.symm running.1)
      fun w same => others w (by simp [same])
    rw [later, along_cons ha, now]
    cases s.enablesMaster a with
    | true => simp
    | false => simp

/-- **Stop wins** exactly when no call queues a block that turns the master on after the last
stop: once the queue is empty the master is then 0, and otherwise it is not. -/
theorem stop_wins_iff (device : Nat → Nat) (cache : Nat → Option Nat)
    (before after : List DispatchAction) (s t : Dispatch)
    (stopped : exec step (start device cache) (before ++ [.stop]) = some s)
    (run : exec step s after = some t) (lastStop : .stop ∉ after) (accepted : .frame false ∉ after)
    (services : ∀ w, .otherWrite w ∈ after → dispatchMasterReg ∉ w.writes.map Prod.fst)
    (drained : t.queue.Drained) :
    t.device dispatchMasterReg = 0 ↔
      Along step (fun s a _ => s.enablesMaster a = false) s after := by
  obtain ⟨m, -, last⟩ := exec_append_iff.mp stopped
  obtain ⟨u, stop, rest⟩ := exec_cons_iff.mp last
  cases stop
  cases rest
  have outcome := master_run run accepted lastStop services
  have same : t.settled dispatchMasterReg = t.device dispatchMasterReg :=
    congrFun (Queue.settled_of_drained drained) _
  rw [same] at outcome
  rw [outcome, and_iff_right (master_stop m)]

/-- A hold call that has to read the capability and the reserve words of the inverter. -/
def holdCall : DispatchCall := .dispatch { mode := .batteryHold }

/-- The executor carries out one write. -/
def execute : List DispatchAction := [.take, .frame true, .finish]

/-- From the capability read to the blocks on the queue, the stop's writes in between. -/
def finishHold : List DispatchAction :=
  [.resume 0 (.capability (some 0xAA55)), .resume 0 .acquire] ++ execute ++ execute ++ execute ++
    [.resume 0 .flush, .resume 0 .readBack, .resume 0 .enqueue] ++ execute ++ execute

theorem stop_wins_iff_holdCall :
    ∃ s t, exec step (start (fun _ => 0) fun _ => none) ([.issue holdCall] ++ [.stop]) = some s ∧
      exec step s finishHold = some t ∧ t.queue.Drained ∧
      (t.device dispatchMasterReg = 0 ↔
        Along step (fun s a _ => s.enablesMaster a = false) s finishHold) := by
  refine ⟨_, _, rfl, rfl, by decide, ?_⟩
  exact stop_wins_iff (fun _ => 0) (fun _ => none) [.issue holdCall] finishHold _ _ rfl rfl
    (by decide) (by decide) (by simp [finishHold, execute]) (by decide)

/-- The stop is issued while the call reads the capability. Both return, the queue is
empty, and dispatch is on. -/
theorem stop_overtaken :
    ∃ t, exec step (start (fun _ => 0) fun _ => none) ([.issue holdCall, .stop] ++ finishHold) = some t ∧
      t.queue.Drained ∧ (∀ task ∈ t.calls, task.phase = .done) ∧ t.device dispatchMasterReg = 1 := by
  refine ⟨_, rfl, by decide, by decide, by decide⟩

end Dispatch

end HHModbus
