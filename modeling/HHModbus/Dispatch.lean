import HHModbus.Lib.Transition
import HHModbus.Controller
import HHModbus.Encoding

/-!
# Remote Dispatch services

The service calls `solis_dispatch`, `solis_dispatch_schedule` and `solis_dispatch_stop` of
one inverter that `_require_hybrid` lets through. A call runs from one suspension point to
the next; the write queue and all other tasks run in between.
-/
namespace HHModbus

open Transition WriteBehind

/-- The fields that `solis_dispatch` and `solis_dispatch_schedule` share. -/
structure DispatchFields where
  mode : DispatchMode
  powerWatts : Nat := 0
  pvShutdown : Option Bool := none
  allowGridCharge : Option Bool := none
  disableDischarge : Option Bool := none
  batteryReserveSoc : Option Nat := none
  /-- `float(pv_limit_percent) * 100`. -/
  pvLimitTimes100 : Option ℚ := none
  deriving DecidableEq

structure RealtimeCall extends DispatchFields where
  socMin : Option Nat := none
  socMax : Option Nat := none
  importLimitWatts : Option Nat := none
  exportLimitWatts : Option Nat := none
  failsafeMinutes : Nat := 30
  deriving DecidableEq

structure ScheduleCall extends DispatchFields where
  /-- Counted from 0; the service field counts from 1. -/
  period : Fin 6
  enabled : Bool
  startTime : String := "00:00"
  endTime : String := "00:00"
  socMin : Nat := 0
  socMax : Nat := 100
  failsafeMinutes : Nat := 1440
  deriving DecidableEq

inductive DispatchCall where
  | dispatch (call : RealtimeCall)
  | schedule (call : ScheduleCall)
  deriving DecidableEq

/-- `DISPATCH_MASTER_REG`. -/
abbrev dispatchMasterReg : Nat := 44100

namespace DispatchFields

/-- The version that `_ensure_dispatch_function_version` asks for. -/
def requiredVersion (f : DispatchFields) : Nat :=
  if f.pvLimitTimes100.isSome then 3
  else if f.mode = .selfConsumption ∨ f.mode = .feedInPriority ∨ f.batteryReserveSoc.isSome ∨
      f.disableDischarge.isSome then 2
  else 1

/-- `_dispatch_function_from_call`. -/
def functionValue (f : DispatchFields) : Nat :=
  dispatchFunctionValue f.pvShutdown f.allowGridCharge f.disableDischarge
    (f.batteryReserveSoc.map fun _ => true) (f.pvLimitTimes100.map fun _ => true)

/-- The words of 44105-44108 and of their copies in a period. -/
def modeWords (f : DispatchFields) : List Nat :=
  f.mode.entry.1 :: s32Words (f.mode.powerRaw f.powerWatts) ++ [f.functionValue]

end DispatchFields

namespace DispatchCall

def fields : DispatchCall → DispatchFields
  | dispatch call => call.toDispatchFields
  | schedule call => call.toDispatchFields

/-- The first register of the block that ends in the two reserve words. -/
def blockRegister : DispatchCall → Nat
  | dispatch _ => 44105
  | schedule call => 44116 + call.period * 14

/-- `register` of `_dispatch_reserve_words`. -/
def reserveRegister : DispatchCall → Nat
  | dispatch _ => 44111
  | schedule call => 44116 + call.period * 14 + 9

/-- The block without the reserve words; `none` when `packed_time` raises. -/
def blockHead : DispatchCall → Option (List Nat)
  | dispatch call => some (call.modeWords ++ [call.socMin.getD 0, call.socMax.getD 100])
  | schedule call => do
    let start ← packedTime call.startTime
    let end_ ← packedTime call.endTime
    return [call.enabled.toNat, start, end_] ++ call.modeWords ++ [call.socMin, call.socMax]

/-- The encoded reserve SOC and PV limit, as far as the caller gave them. -/
def supplied (c : DispatchCall) : Option Nat × Option Nat :=
  (c.fields.batteryReserveSoc, c.fields.pvLimitTimes100.map pvLimitRaw)

/-- What the caller omits is what the inverter holds. -/
def reserveWords (c : DispatchCall) (device : Nat → Nat) : List Nat :=
  [c.supplied.1.getD (device c.reserveRegister), c.supplied.2.getD (device (c.reserveRegister + 1))]

/-- The blocks queued under the lock. -/
def lockedWrites (c : DispatchCall) (head words : List Nat) : List WriteRequest :=
  match c with
  | dispatch call =>
    [.multiple dispatchMasterReg (1 :: call.failsafeMinutes ::
        dispatchSystemLimits call.importLimitWatts call.exportLimitWatts),
      .multiple c.blockRegister (head ++ words)]
  | schedule _ => [.multiple c.blockRegister (head ++ words)]

/-- What a call queues after it has released the lock. -/
def unlockedWrites : DispatchCall → List WriteRequest
  | dispatch _ => []
  | schedule call =>
    if call.enabled then [.single 44101 call.failsafeMinutes, .single dispatchMasterReg 1] else []

end DispatchCall

/-- Where a call is suspended, with what it has computed so far. -/
inductive CallPhase where
  | capabilityRead
  | versionRead
  | lockWait (head : List Nat)
  /-- In `write_queue.join()`, under the lock. -/
  | flushing (head : List Nat)
  /-- The queue has been seen empty; the read-back is next. -/
  | flushed (head : List Nat)
  | ready (head words : List Nat)
  | done
  | raised
  deriving DecidableEq, Repr

def CallPhase.holdsLock : CallPhase → Bool
  | flushing _ | flushed _ | ready _ _ => true
  | _ => false

structure DispatchTask where
  call : DispatchCall
  phase : CallPhase
  deriving DecidableEq

/-- A queued write, with the number of the service call it comes from. -/
structure DispatchWrite where
  write : WriteRequest
  caller : Option Nat
  deriving DecidableEq

def DispatchWrite.writes (w : DispatchWrite) : List (Nat × Nat) := w.write.writes

/-- What lets a suspended call go on. -/
inductive CallEvent where
  | capability (value : Option Nat)
  | version (value : Option Nat)
  | acquire
  | flush
  | flushTimeout
  | readBack
  | readBackFailed
  | enqueue
  deriving DecidableEq, Repr

inductive DispatchAction where
  | issue (call : DispatchCall)
  | resume (i : Nat) (e : CallEvent)
  | stop
  | otherWrite (w : WriteRequest)
  | cacheSave (register value : Nat)
  | take
  | frame (accepted : Bool)
  | finish
  deriving DecidableEq

structure Dispatch where
  queue : Queue Nat Nat DispatchWrite
  cache : Nat → Option Nat
  calls : List DispatchTask
  /-- The call that holds `_dispatch_lock`. -/
  lock : Option Nat
  /-- Everything ever put on the queue. -/
  requested : List DispatchWrite

/-- The reserve words of the realtime block and of the six periods. -/
def isReserveWord (register : Nat) : Bool :=
  register == 44111 || register == 44112 ||
    (List.range 6).any fun p => register == 44116 + p * 14 + 9 || register == 44116 + p * 14 + 10

namespace Dispatch

def start (device : Nat → Nat) (cache : Nat → Option Nat) : Dispatch :=
  ⟨.start device, cache, [], none, []⟩

def device (s : Dispatch) (register : Nat) : Nat := s.queue.store register

def settled (s : Dispatch) (register : Nat) : Nat := s.queue.settled DispatchWrite.writes register

/-- The rest of a call before it asks for the lock. -/
def afterVersion (call : DispatchCall) : CallPhase :=
  match call.blockHead with
  | some head => .lockWait head
  | none => .raised

def versionAllows (call : DispatchCall) (version : Option Nat) : Bool :=
  match version with
  | some v => (v == 1 || v == 2 || v == 3) && call.fields.requiredVersion ≤ v
  | none => false

/-- `_ensure_dispatch_function_version`: base calls need no version, and a cached one needs
no read. -/
def afterCapability (s : Dispatch) (call : DispatchCall) : CallPhase :=
  if call.fields.requiredVersion = 1 then afterVersion call
  else
    match s.cache 34503 with
    | some v => if versionAllows call (some v) then afterVersion call else .raised
    | none => .versionRead

/-- `_ensure_dispatch_capable` at the start of a call. -/
def issued (s : Dispatch) (call : DispatchCall) : CallPhase :=
  match s.cache 34502 with
  | some capability => if capability = 0xAA55 then s.afterCapability call else .raised
  | none => .capabilityRead

/-- What each event makes of a suspended call; `none` when it is not waiting for that. -/
def nextPhase (s : Dispatch) (call : DispatchCall) : CallEvent → CallPhase → Option CallPhase
  | .capability value, .capabilityRead =>
    some (if value = some 0xAA55 then s.afterCapability call else .raised)
  | .version value, .versionRead =>
    some (if versionAllows call value then afterVersion call else .raised)
  | .acquire, .lockWait head =>
    if s.lock = none then
      -- With both words supplied there is nothing to read back, and nothing to flush for.
      some (if call.supplied.1.isSome ∧ call.supplied.2.isSome then
        .ready head (call.reserveWords s.device) else .flushing head)
    else none
  -- `write_queue.join()` returns once everything queued has been executed.
  | .flush, .flushing head => if s.queue.Drained then some (.flushed head) else none
  | .flushTimeout, .flushing _ => some .raised
  | .readBack, .flushed head => some (.ready head (call.reserveWords s.device))
  | .readBackFailed, .flushed _ => some .raised
  | .enqueue, .ready _ _ => some .done
  | _, _ => none

/-- What a call puts on the queue when it is resumed with its reserve words. -/
def enqueued (call : DispatchCall) : CallPhase → List WriteRequest
  | .ready head words => call.lockedWrites head words ++ call.unlockedWrites
  | _ => []

def put (s : Dispatch) (caller : Option Nat) (ws : List WriteRequest) : Dispatch :=
  let requests := ws.map fun w => ⟨w, caller⟩
  { s with
    queue := requests.foldl Queue.put s.queue
    requested := s.requested ++ requests }

def executor (s : Dispatch) (a : WriteBehind.Action DispatchWrite) : Option Dispatch :=
  (s.queue.step DispatchWrite.writes a).map fun queue => { s with queue }

/-- The call moves on; the lock is taken and given back as its phase says. -/
def move (s : Dispatch) (i : Nat) (task : DispatchTask) (phase : CallPhase) : Dispatch :=
  { s with
    calls := s.calls.set i { task with phase }
    lock := if phase.holdsLock then some i else if task.phase.holdsLock then none else s.lock }

/-- `service_dispatch_stop`, which neither waits for anything nor takes the lock. -/
def dispatchStop (s : Dispatch) : Dispatch :=
  s.put none [.single 44105 1, .single 44108 1, .single dispatchMasterReg 0]

def step (s : Dispatch) : DispatchAction → Option Dispatch
  | .issue call => some { s with calls := s.calls ++ [⟨call, s.issued call⟩] }
  | .resume i e =>
    match s.calls[i]? with
    | some task =>
      (s.nextPhase task.call e task.phase).map fun phase =>
        let moved := s.move i task phase
        if e = .enqueue then moved.put (some i) (enqueued task.call task.phase) else moved
    | none => none
  | .stop => some s.dispatchStop
  | .otherWrite w =>
    if w.writes.any fun kv => isReserveWord kv.1 then none else some (s.put none [w])
  | .cacheSave register value =>
    some { s with cache := Function.update s.cache register (some value) }
  | .take => s.executor .take
  | .frame accepted => s.executor (.frame accepted)
  | .finish => s.executor .finish

theorem waiting_put (s : Dispatch) (caller : Option Nat) (ws : List WriteRequest) :
    (s.put caller ws).queue.waiting = s.queue.waiting ++ ws.map fun w => ⟨w, caller⟩ :=
  Queue.waiting_foldl_put _ _

@[simp] theorem put_device (s : Dispatch) (caller : Option Nat) (ws : List WriteRequest) (r : Nat) :
    (s.put caller ws).device r = s.device r :=
  congrFun (Queue.foldl_put_frame _ _).1 r

/-- A resumed call moves to its next phase. It queues its blocks when it has its reserve words
at hand, and only then. -/
theorem resume_cases {s t : Dispatch} {i : Nat} {e : CallEvent} (h : s.step (.resume i e) = some t) :
    ∃ task, s.calls[i]? = some task ∧
      ((∃ head words, e = .enqueue ∧ task.phase = .ready head words ∧
          t = (s.move i task .done).put (some i) (enqueued task.call task.phase)) ∨
        ∃ phase, e ≠ .enqueue ∧ s.nextPhase task.call e task.phase = some phase ∧
          t = s.move i task phase) := by
  simp only [step] at h
  split at h
  next task found =>
    obtain ⟨phase, moves, rfl⟩ := Option.map_eq_some_iff.mp h
    refine ⟨task, found, ?_⟩
    by_cases enqueues : e = .enqueue
    · subst enqueues
      left
      cases waits : task.phase with
      | ready head words =>
        simp only [nextPhase, waits, Option.some.injEq] at moves
        subst moves
        exact ⟨head, words, rfl, rfl, by rw [if_pos rfl]⟩
      | _ => simp [nextPhase, waits] at moves
    · right
      exact ⟨phase, enqueues, moves, by rw [if_neg enqueues]⟩
  next => cases h

/-- The outcome of a register after several writes have been put on the queue. -/
theorem settled_put (s : Dispatch) (caller : Option Nat) (ws : List WriteRequest) (r : Nat) :
    (s.put caller ws).settled r = ws.foldl (fun d w => assign d w.writes) s.settled r := by
  change Queue.settled _ ((ws.map fun w => (⟨w, caller⟩ : DispatchWrite)).foldl Queue.put s.queue) r = _
  rw [Queue.settled_foldl_put, List.foldl_map]
  rfl

end Dispatch

end HHModbus
