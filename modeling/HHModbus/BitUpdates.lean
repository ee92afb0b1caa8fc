import HHModbus.Lib.Transition
import HHModbus.SwitchSensors

/-!
# Bit updates of one holding register

Switch toggles and Storage Mode selections change single bits of a register by a
read-modify-write of its cached value, while polls and the write queue overwrite the
same cache entry. A run interleaves these steps in any order; the link is up and the
inverter accepts every write.
-/
namespace HHModbus

open Transition

/-- A call of one of the two `set_register_bit` methods. -/
inductive BitCall where
  | toggle (d : SwitchDefinition) (value force : Bool)
  | select (o : SelectOption)
  deriving DecidableEq

namespace BitCall

def bitPosition : BitCall → Option Nat
  | toggle d _ _ => d.bitPosition
  | select o => o.bitPosition

def touchedBits : BitCall → List Nat
  | toggle d _ _ => d.touchedBits
  | select o => o.touchedBits

/-- The bit the call is named for ends up with this value. -/
def wanted : BitCall → Bool
  | toggle d value _ => value != d.inverted
  | select _ => true

/-- The call reads and writes bits of this register. -/
def onRegister (register : Nat) : BitCall → Bool
  | toggle d _ _ => d.register == register && d.targetRegister == register && d.bitPosition.isSome
  | select o => o.bitPosition.isSome

def newRegisterValue (current : Nat) : BitCall → Nat
  | toggle d value _ => d.newRegisterValue (some current) value
  | select o => o.bitValue (o.bitPosition.getD 0) current

def setRegisterBit (register : Nat) (c : Controller) (current : Nat) : BitCall → Controller
  | toggle d value force => d.setRegisterBit c true (some current) value force
  | select o => o.setRegisterBit register (o.bitPosition.getD 0) c true current

theorem settled_setRegisterBit {register : Nat} {call : BitCall} {c : Controller} {current : Nat}
    (on : call.onRegister register = true) (fresh : current = c.settled register) :
    (call.setRegisterBit register c current).settled register = call.newRegisterValue current := by
  cases call with
  | toggle d value force =>
    simp only [onRegister, Bool.and_eq_true, beq_iff_eq] at on
    obtain ⟨⟨-, target⟩, -⟩ := on
    have settled := d.settled_setRegisterBit c current value force (by rw [target, fresh])
    rwa [target] at settled
  | select o => exact o.settled_setRegisterBit register _ c current fresh.symm

theorem testBit_newRegisterValue {register bit : Nat} {call : BitCall}
    (on : call.onRegister register = true) (position : call.bitPosition = some bit) (current : Nat) :
    (call.newRegisterValue current).testBit bit = call.wanted := by
  cases call with
  | toggle d value force =>
    have own : d.bitPosition = some bit := position
    simp only [newRegisterValue, SwitchDefinition.newRegisterValue, own]
    exact d.testBit_bitValue bit _ value
  | select o =>
    have own : o.bitPosition = some bit := position
    simp only [newRegisterValue, own, Option.getD_some]
    exact o.testBit_bitValue bit current

theorem testBit_newRegisterValue_of_notMem {register i : Nat} {call : BitCall}
    (on : call.onRegister register = true) (untouched : i ∉ call.touchedBits) (current : Nat) :
    (call.newRegisterValue current).testBit i = current.testBit i := by
  cases call with
  | toggle d value force =>
    simp only [onRegister, Bool.and_eq_true] at on
    obtain ⟨bit, position⟩ := Option.isSome_iff_exists.mp on.2
    simp only [newRegisterValue, SwitchDefinition.newRegisterValue, position]
    exact d.testBit_bitValue_of_notMem position current value i untouched
  | select o =>
    obtain ⟨bit, position⟩ := Option.isSome_iff_exists.mp on
    simp only [newRegisterValue, position, Option.getD_some]
    exact o.testBit_bitValue_of_notMem position current i untouched

end BitCall

/-- Every call's update applied to the initial value, in the order of the list. -/
def updatesInOrder (initial : Nat) (calls : List BitCall) : Nat :=
  calls.foldl (fun v call => call.newRegisterValue v) initial

theorem testBit_updatesInOrder_of_notMem {register i : Nat} (initial : Nat) (calls : List BitCall)
    (on : ∀ call ∈ calls, call.onRegister register = true)
    (untouched : ∀ call ∈ calls, i ∉ call.touchedBits) :
    (updatesInOrder initial calls).testBit i = initial.testBit i := by
  induction calls generalizing initial with
  | nil => rfl
  | cons call calls ih =>
    have rest := ih (call.newRegisterValue initial) (fun c h => on c (by simp [h]))
      (fun c h => untouched c (by simp [h]))
    exact rest.trans
      (BitCall.testBit_newRegisterValue_of_notMem (on call (by simp)) (untouched call (by simp)) _)

/-- A controller with the polls, suspended calls and finished calls of one register. -/
structure BitTraffic where
  controller : Controller
  /-- Calls waiting for a live read; the value once the inverter has answered. -/
  reading : List (BitCall × Option Nat)
  /-- Values that polls have read and not yet saved. -/
  polled : List Nat
  /-- The calls that have computed their new value, in that order. -/
  computed : List BitCall

inductive BitAction where
  | call (c : BitCall)
  | liveRead (i : Nat)
  | resume (i : Nat)
  | liveReadFailed (i : Nat)
  | pollRead
  | pollSave (i : Nat)
  | otherWrite (w : WriteRequest)
  | take
  | frame
  | finish
  deriving DecidableEq

namespace BitTraffic

variable (register : Nat)

def start (device : Nat → Nat) (cache : Nat → Option Nat) : BitTraffic :=
  ⟨.start device cache, [], [], []⟩

def compute (s : BitTraffic) (call : BitCall) (current : Nat) : BitTraffic :=
  { s with
    controller := call.setRegisterBit register s.controller current
    computed := s.computed ++ [call] }

def executor (s : BitTraffic) (a : WriteBehind.Action WriteRequest) : Option BitTraffic :=
  (s.controller.step a).map fun c => { s with controller := c }

def step (s : BitTraffic) : BitAction → Option BitTraffic
  | .call call =>
    if call.onRegister register then
      match s.controller.cacheGet register with
      | some current => some (s.compute register call current)
      -- A cold cache: the call suspends on `async_read_holding_register`.
      | none => some { s with reading := s.reading ++ [(call, none)] }
    else none
  | .liveRead i =>
    match s.reading[i]? with
    | some (call, none) =>
      some { s with reading := s.reading.set i (call, some (s.controller.device register)) }
    | _ => none
  | .resume i =>
    match s.reading[i]? with
    | some (call, some current) =>
      -- The value read is saved before it is used.
      let saved := { s with
        reading := s.reading.eraseIdx i
        controller := s.controller.cacheSave register current }
      some (saved.compute register call current)
    | _ => none
  | .liveReadFailed i =>
    match s.reading[i]? with
    | some (_, none) => some { s with reading := s.reading.eraseIdx i }
    | _ => none
  | .pollRead => some { s with polled := s.polled ++ [s.controller.device register] }
  | .pollSave i =>
    match s.polled[i]? with
    | some value =>
      some { s with
        polled := s.polled.eraseIdx i
        controller := s.controller.cacheSave register value }
    | none => none
  | .otherWrite w =>
    -- Writes of other registers share the queue.
    if register ∈ w.writes.map Prod.fst then none else s.executor (.put w)
  | .take => s.executor .take
  -- Every write is accepted.
  | .frame => s.executor (.frame true)
  | .finish => s.executor .finish

/-- The value a call starts its read-modify-write from, at the step that computes it. -/
def base (s : BitTraffic) : BitAction → Option Nat
  | .call _ => s.controller.cacheGet register
  | .resume i => (s.reading[i]?).bind Prod.snd
  | _ => none

/-- A call that computes its new value starts from the one the register will hold once
the writes already queued have been executed. -/
def FreshBase (s : BitTraffic) (a : BitAction) : Prop :=
  ∀ current ∈ s.base register a, current = s.controller.settled register

instance (s : BitTraffic) (a : BitAction) : Decidable (s.FreshBase register a) :=
  inferInstanceAs (Decidable (∀ current ∈ _, _))

/-- The register will settle at the computed updates' result. -/
structure Kept (initial : Nat) (s : BitTraffic) : Prop where
  on : ∀ call ∈ s.computed, call.onRegister register = true
  reading : ∀ r ∈ s.reading, r.1.onRegister register = true
  settled : s.controller.settled register = updatesInOrder initial s.computed

variable {register}

private theorem Kept.compute {initial current : Nat} {s : BitTraffic} {call : BitCall}
    (kept : Kept register initial s) (on : call.onRegister register = true)
    (fresh : current = s.controller.settled register) :
    Kept register initial (s.compute register call current) where
  on c member := by
    rcases List.mem_append.mp member with old | new
    · exact kept.on c old
    · rw [List.mem_singleton.mp new]
      exact on
  reading := kept.reading
  settled := by
    change (call.setRegisterBit register s.controller current).settled register = _
    rw [BitCall.settled_setRegisterBit on fresh, fresh, kept.settled]
    simp only [BitTraffic.compute, updatesInOrder, List.foldl_append, List.foldl_cons,
      List.foldl_nil]

private theorem Kept.executor {initial : Nat} {s t : BitTraffic}
    {a : WriteBehind.Action WriteRequest} (kept : Kept register initial s)
    (h : s.executor a = some t) (noPut : ∀ w, a ≠ .put w) (accepts : a ≠ .frame false) :
    Kept register initial t := by
  simp only [BitTraffic.executor, Option.map_eq_some_iff] at h
  obtain ⟨c, hc, rfl⟩ := h
  exact ⟨kept.on, kept.reading, (Controller.settled_step hc noPut accepts register).trans kept.settled⟩

/-- One step keeps the outcome in line with the computed updates when its base is fresh. -/
theorem kept_step (initial : Nat) (s : BitTraffic) (a : BitAction) (t : BitTraffic)
    (kept : Kept register initial s) (h : s.step register a = some t)
    (fresh : s.FreshBase register a) : Kept register initial t := by
  cases a with
  | call call =>
    simp only [step] at h
    split at h
    next on =>
      cases cached : s.controller.cacheGet register with
      | some current =>
        simp only [cached, Option.some.injEq] at h
        subst h
        exact kept.compute on (fresh current cached)
      | none =>
        -- The call only suspends, so nothing has been computed yet.
        simp only [cached, Option.some.injEq] at h
        subst h
        refine ⟨kept.on, fun r member => ?_, kept.settled⟩
        rcases List.mem_append.mp member with old | new
        · exact kept.reading r old
        · rw [List.mem_singleton.mp new]
          exact on
    next => cases h
  | liveRead i =>
    simp only [step] at h
    split at h
    next call found =>
      cases h
      refine ⟨kept.on, fun r member => ?_, kept.settled⟩
      rcases List.mem_or_eq_of_mem_set member with old | rfl
      · exact kept.reading r old
      · exact kept.reading (call, none) (List.mem_of_getElem? found)
    next => cases h
  | resume i =>
    simp only [step] at h
    split at h
    next call current found =>
      cases h
      -- Saving the value read touches the cache only, so the outcome is still the old one.
      have saved : Kept register initial { s with
          reading := s.reading.eraseIdx i
          controller := s.controller.cacheSave register current } :=
        ⟨kept.on, fun r member => kept.reading r (List.mem_of_mem_eraseIdx member), kept.settled⟩
      have base : current ∈ s.base register (.resume i) := by simp [BitTraffic.base, found]
      exact saved.compute (kept.reading _ (List.mem_of_getElem? found)) (fresh current base)
    next => cases h
  | liveReadFailed i =>
    simp only [step] at h
    split at h
    next call found =>
      cases h
      exact ⟨kept.on, fun r member => kept.reading r (List.mem_of_mem_eraseIdx member),
        kept.settled⟩
    next => cases h
  | pollRead =>
    cases h
    exact ⟨kept.on, kept.reading, kept.settled⟩
  | pollSave i =>
    simp only [step] at h
    split at h
    next value found =>
      -- A stale value in the cache does no harm until a call starts from it.
      cases h
      exact ⟨kept.on, kept.reading, kept.settled⟩
    next => cases h
  | otherWrite w =>
    simp only [step] at h
    split at h
    next => cases h
    next other =>
      cases h
      exact ⟨kept.on, kept.reading,
        (WriteBehind.Queue.settled_put_of_notMem _ _ _ other).trans kept.settled⟩
  | take => exact kept.executor h (by simp) (by simp)
  | frame => exact kept.executor h (by simp) (by simp)
  | finish => exact kept.executor h (by simp) (by simp)

/-- Once the queue is empty the register holds the result of every computed update. -/
def KeepsEveryUpdate (register : Nat) (device : Nat → Nat) (cache : Nat → Option Nat)
    (acts : List BitAction) : Prop :=
  ∀ t, exec (step register) (start device cache) acts = some t → t.controller.queue.Drained →
    t.controller.device register = updatesInOrder (device register) t.computed

/-- **No lost bit update**, in every run whose calls compute from a fresh base. The second
part is the instance users see: no bit is undone by a later call for a different bit. -/
theorem bit_updates_kept (register : Nat) (device : Nat → Nat) (cache : Nat → Option Nat)
    (acts : List BitAction)
    (fresh : Along (step register) (fun s a _ => s.FreshBase register a) (start device cache) acts) :
    KeepsEveryUpdate register device cache acts ∧
    ∀ t, exec (step register) (start device cache) acts = some t → t.controller.queue.Drained →
      ∀ earlier call later bit, t.computed = earlier ++ call :: later →
        call.bitPosition = some bit → (∀ c ∈ later, bit ∉ c.touchedBits) →
        (t.controller.device register).testBit bit = call.wanted := by
  -- The invariant along the run, and what it says of an empty queue.
  have initial : Kept register (device register) (start device cache) :=
    ⟨by simp [start], by simp [start], rfl⟩
  have kept (t : BitTraffic) (run : exec (step register) (start device cache) acts = some t) :
      Kept register (device register) t :=
    invariant_along (fun s a t => kept_step (device register) s a t) initial fresh run
  have result : KeepsEveryUpdate register device cache acts := by
    intro t run drained
    rw [← Controller.settled_of_drained drained]
    exact (kept t run).settled
  refine ⟨result, ?_⟩
  intro t run drained earlier call later bit order position untouched
  -- No later call touches the bit, so it is as the last call for it left it.
  have on := (kept t run).on
  rw [order] at on
  rw [result t run drained, order, updatesInOrder, List.foldl_append, List.foldl_cons]
  have after := testBit_updatesInOrder_of_notMem (i := bit)
    (call.newRegisterValue (updatesInOrder (device register) earlier)) later
    (fun c member => on c (by simp [member])) untouched
  exact after.trans (BitCall.testBit_newRegisterValue (on call (by simp)) position _)

/-- Toggling the storage mode bits 3 and 5 on, with both writes executed afterwards. -/
def backToBackRun : List BitAction :=
  [.call (.toggle storageModeSwitches[3] true false),
   .call (.toggle storageModeSwitches[5] true false),
   .take, .frame, .finish, .take, .frame, .finish]

theorem bit_updates_kept_backToBack :
    KeepsEveryUpdate 43110 (fun _ => 1) (fun _ => some 1) backToBackRun :=
  (bit_updates_kept 43110 (fun _ => 1) (fun _ => some 1) backToBackRun (by decide)).1

/-- The same with bit 7 toggled on right after the first write was executed: the echo of
that write put the cache back behind the second one, which is still queued. -/
def echoRun : List BitAction :=
  [.call (.toggle storageModeSwitches[3] true false),
   .call (.toggle storageModeSwitches[5] true false),
   .take, .frame, .finish,
   .call (.toggle storageModeSwitches[7] true false),
   .take, .frame, .finish, .take, .frame, .finish]

/-- The run ends with bits 3 and 7 set: bit 5, toggled on in between, is lost. -/
theorem echoRun_loses_update :
    ¬ KeepsEveryUpdate 43110 (fun _ => 1) (fun _ => some 1) echoRun := by
  intro keeps
  have result := keeps _ rfl (by decide)
  revert result
  decide

end BitTraffic

end HHModbus
