import HHModbus.Lib.Transition
import HHModbus.Encoding
import HHModbus.SwitchSensors

/-!
# Commands on the remote-control force register

Register 43135 is written by two switches that keep themselves alive with a timer and by
three services. All of them only queue writes, and only the write executed last counts.
The link is up and the inverter accepts every write.
-/
namespace HHModbus

open Transition

/-- `RC_FORCE_MODE_REG`. -/
abbrev rcForceModeReg : Nat := 43135

inductive ForceSwitch where
  | charge
  | discharge
  deriving DecidableEq, Repr

def ForceSwitch.definition : ForceSwitch → SwitchDefinition
  | charge => rcForceBatteryCharge
  | discharge => rcForceBatteryDischarge

/-- The value the switch writes when it is turned on. -/
def ForceSwitch.mode : ForceSwitch → Nat
  | charge => 1
  | discharge => 2

/-- The register `_force_battery` gets for the power setpoint. -/
def ForceSwitch.powerRegister : ForceSwitch → Nat
  | charge => 43136
  | discharge => 43129

/-- What `_force_battery` and `_require_hybrid` read of `inverter_config`. -/
structure ForceConfig where
  hybrid : Bool
  wattageChosen : Nat

/-- The fields of a force service call. -/
structure ForceCall where
  powerWatts : Option Nat := none
  durationMinutes : Option Nat := none
  deriving DecidableEq, Repr

namespace Controller

/-- `_force_battery`: the mode first, then the setpoint and the timeout the call gives. -/
def forceBattery (c : Controller) (config : ForceConfig) (s : ForceSwitch) (call : ForceCall) :
    Option Controller :=
  if config.hybrid then
    let moded := c.asyncWriteHoldingRegister rcForceModeReg s.mode
    let powered :=
      match call.powerWatts with
      | some watts =>
        -- `wattage_chosen or 60000`.
        let maxWatts := if config.wattageChosen = 0 then 60000 else config.wattageChosen
        moded.asyncWriteHoldingRegister s.powerRegister (roundHalfEven (min watts maxWatts) 10)
      | none => moded
    match call.durationMinutes with
    | some duration => some (powered.asyncWriteHoldingRegister 43282 duration)
    | none => some powered
  else none

def stopForceChargeDischarge (c : Controller) (config : ForceConfig) : Option Controller :=
  if config.hybrid then some (c.asyncWriteHoldingRegister rcForceModeReg 0) else none

end Controller

/-- `_attr_is_on` of a switch, and whether `_keep_alive_unsub` holds a timer. -/
structure SwitchState where
  isOn : Bool
  timer : Bool
  deriving DecidableEq, Repr

structure ForceControl where
  controller : Controller
  switches : ForceSwitch → SwitchState
  /-- What the last user command asked register 43135 to be. -/
  requested : Option Nat

inductive ForceAction where
  | turnOn (s : ForceSwitch)
  | turnOff (s : ForceSwitch)
  | forceBattery (s : ForceSwitch) (call : ForceCall)
  | stop
  | timer (s : ForceSwitch)
  | notify (value : Nat)
  | take
  | frame
  | finish
  deriving DecidableEq

namespace ForceControl

variable (config : ForceConfig)

def start (device : Nat → Nat) (cache : Nat → Option Nat) : ForceControl :=
  ⟨.start device cache, fun _ => ⟨false, false⟩, none⟩

/-- `set_register_bit` of a switch, and its state after it. -/
def setSwitch (c : ForceControl) (s : ForceSwitch) (value force timer : Bool) : ForceControl :=
  { c with
    controller :=
      s.definition.setRegisterBit c.controller true (c.controller.cacheGet rcForceModeReg) value force
    switches := Function.update c.switches s ⟨value, timer⟩ }

/-- Both switches listen to updates of the register. -/
def hear (c : ForceControl) (value : Nat) : ForceControl :=
  { c with switches := fun s =>
    { c.switches s with isOn := s.definition.handleModbusUpdate (c.switches s).isOn value } }

/-- The write queue, with what it announces about the register. -/
def executor (c : ForceControl) (a : WriteBehind.Action WriteRequest) : Option ForceControl :=
  (c.controller.step a).map fun next =>
    let heard := ((c.controller.announced a).filter fun kv => kv.1 == rcForceModeReg).map Prod.snd
    heard.foldl hear { c with controller := next }

def step (c : ForceControl) : ForceAction → Option ForceControl
  | .turnOn s =>
    let forced := !s.definition.companionWrites.isEmpty || s.definition.keepAlive
    some { c.setSwitch s true forced s.definition.keepAlive with requested := some s.mode }
  | .turnOff s => some { c.setSwitch s false false false with requested := some 0 }
  | .forceBattery s call =>
    match c.controller.forceBattery config s call with
    | some queued => some { c with controller := queued, requested := some s.mode }
    | none => some c
  | .stop =>
    match c.controller.stopForceChargeDischarge config with
    | some queued => some { c with controller := queued, requested := some 0 }
    | none => some c
  | .timer s =>
    if (c.switches s).timer then
      -- `is_on` is what the last update of the register said, not what is queued.
      if (c.switches s).isOn then some (c.setSwitch s true true true)
      else some { c with switches := Function.update c.switches s ⟨false, false⟩ }
    else none
  | .notify value =>
    some ({ c with controller := c.controller.cacheSave rcForceModeReg value }.hear value)
  | .take => c.executor .take
  | .frame => c.executor (.frame true)
  | .finish => c.executor .finish

/-- Once the queue is empty the register will hold what the last command asked for. -/
def LastCommandHolds (c : ForceControl) : Prop :=
  ∀ value ∈ c.requested, c.controller.settled rcForceModeReg = value

/-- A refresh re-sends what the last command asked for. -/
def RefreshAgrees (c : ForceControl) : ForceAction → Prop
  | .timer s => (c.switches s).isOn = true → c.requested = some s.mode
  | _ => True

/-- A refresh fires only while its own command is the one the register will settle at, and
a cached 0 that turns `turn_off` into a no-op is not waiting to be overwritten. -/
def InLine (c : ForceControl) : ForceAction → Prop
  | .timer s => (c.switches s).isOn = true → c.controller.settled rcForceModeReg = s.mode
  | .turnOff _ =>
    c.controller.cacheGet rcForceModeReg = some 0 → c.controller.settled rcForceModeReg = 0
  | _ => True

instance (c : ForceControl) (a : ForceAction) : Decidable (c.InLine a) := by
  unfold InLine
  split <;> infer_instance

/-- A pending timer follows some command. -/
def Commanded (c : ForceControl) : Prop :=
  ∀ s, (c.switches s).timer = true → c.requested.isSome = true

theorem newRegisterValue_on (s : ForceSwitch) (current : Option Nat) :
    s.definition.newRegisterValue current true = s.mode := by
  cases s <;> rfl

theorem newRegisterValue_off (s : ForceSwitch) (current : Option Nat) :
    s.definition.newRegisterValue current false = 0 := by
  cases s <;> rfl

theorem targetRegister (s : ForceSwitch) : s.definition.targetRegister = rcForceModeReg := by
  cases s <;> rfl

@[simp] theorem hear_controller (c : ForceControl) (value : Nat) :
    (c.hear value).controller = c.controller := rfl

/-- What the switches hear moves their `is_on` only. -/
theorem foldl_hear (values : List Nat) (c : ForceControl) :
    (values.foldl hear c).controller = c.controller ∧
    (values.foldl hear c).requested = c.requested ∧
    ∀ s, ((values.foldl hear c).switches s).timer = (c.switches s).timer := by
  induction values generalizing c with
  | nil => exact ⟨rfl, rfl, fun _ => rfl⟩
  | cons value values ih => exact ih (c.hear value)

theorem executor_spec {c t : ForceControl} {a : WriteBehind.Action WriteRequest}
    (h : c.executor a = some t) (noPut : ∀ w, a ≠ .put w) (accepts : a ≠ .frame false) :
    t.controller.settled rcForceModeReg = c.controller.settled rcForceModeReg ∧
    t.requested = c.requested ∧ ∀ s, (t.switches s).timer = (c.switches s).timer := by
  simp only [executor, Option.map_eq_some_iff] at h
  obtain ⟨next, hn, rfl⟩ := h
  -- Executing changes no outcome, and what is announced only moves `is_on`.
  have executed := Controller.settled_step hn noPut accepts rcForceModeReg
  obtain ⟨controller, requested, timers⟩ := foldl_hear
    (((c.controller.announced a).filter fun kv => kv.1 == rcForceModeReg).map Prod.snd)
    { c with controller := next }
  exact ⟨by rw [controller, executed], requested, timers⟩

/-- A service that does not raise makes the register settle at its mode. -/
theorem settled_forceBattery {c queued : Controller} {s : ForceSwitch} {call : ForceCall}
    (h : c.forceBattery config s call = some queued) :
    queued.settled rcForceModeReg = s.mode := by
  simp only [Controller.forceBattery] at h
  split at h
  next hybrid =>
    -- The setpoint and the timeout are other registers.
    have power : rcForceModeReg ≠ s.powerRegister := by cases s <;> decide
    have powered (watts : Option Nat) (raw : Nat → Nat) :
        (match watts with
          | some w => (c.asyncWriteHoldingRegister rcForceModeReg s.mode).asyncWriteHoldingRegister
              s.powerRegister (raw w)
          | none => c.asyncWriteHoldingRegister rcForceModeReg s.mode).settled rcForceModeReg =
          s.mode := by
      cases watts with
      | none => simp
      | some w =>
        rw [Controller.settled_asyncWriteHoldingRegister_of_ne _ _ power]
        simp
    split at h
    next duration given =>
      cases h
      rw [Controller.settled_asyncWriteHoldingRegister_of_ne _ _ (by decide)]
      exact powered call.powerWatts _
    next =>
      cases h
      exact powered call.powerWatts _
  next => cases h

theorem settled_setSwitch_on (c : ForceControl) (s : ForceSwitch) (timer : Bool) :
    (c.setSwitch s true true timer).controller.settled rcForceModeReg = s.mode := by
  have written := s.definition.settled_setRegisterBit_of_written c.controller
    (c.controller.cacheGet rcForceModeReg) true true (.inl rfl)
  rwa [targetRegister, newRegisterValue_on] at written

/-- `turn_off` settles the register at 0, unless the cache already says 0. -/
theorem settled_setSwitch_off (c : ForceControl) (s : ForceSwitch) :
    (c.setSwitch s false false false).controller.settled rcForceModeReg = 0 ↔
      (c.controller.cacheGet rcForceModeReg = some 0 → c.controller.settled rcForceModeReg = 0) := by
  by_cases cached : c.controller.cacheGet rcForceModeReg = some 0
  · -- The toggle finds the value it wants and queues nothing.
    have same := s.definition.setRegisterBit_of_same c.controller true _ false
      (cached.trans (by rw [newRegisterValue_off]))
    simp only [setSwitch, same]
    exact ⟨fun settled _ => settled, fun all => all cached⟩
  · have written := s.definition.settled_setRegisterBit_of_written c.controller
      (c.controller.cacheGet rcForceModeReg) false false
      (.inr (by rw [newRegisterValue_off]; exact cached))
    rw [targetRegister, newRegisterValue_off] at written
    exact ⟨fun _ empty => absurd empty cached, fun _ => written⟩

variable {config}

private theorem Commanded.of_same {c t : ForceControl} (commanded : c.Commanded)
    (requested : t.requested = c.requested)
    (timers : ∀ s, (t.switches s).timer = true → (c.switches s).timer = true) : t.Commanded := by
  intro s pending
  rw [requested]
  exact commanded s (timers s pending)

theorem commanded_step (c : ForceControl) (a : ForceAction) (t : ForceControl)
    (commanded : c.Commanded) (h : c.step config a = some t) : t.Commanded := by
  cases a with
  | turnOn s | turnOff s =>
    cases h
    exact fun _ _ => rfl
  | forceBattery | stop =>
    simp only [step] at h
    split at h
    · cases h
      exact fun _ _ => rfl
    · cases h
      exact commanded
  | timer s =>
    simp only [step] at h
    split at h
    next pending =>
      have requested := commanded s pending
      split at h
      · cases h
        exact fun _ _ => requested
      · cases h
        exact fun _ _ => requested
    next => cases h
  | notify value =>
    cases h
    exact commanded.of_same rfl fun _ pending => pending
  | take | frame | finish =>
    obtain ⟨-, requested, timers⟩ := executor_spec h (by simp) (by simp)
    exact commanded.of_same requested fun s pending => (timers s).symm.trans pending

private theorem LastCommandHolds.of_same {c t : ForceControl} (holds : c.LastCommandHolds)
    (settled : t.controller.settled rcForceModeReg = c.controller.settled rcForceModeReg)
    (requested : t.requested = c.requested) : t.LastCommandHolds := by
  intro value given
  rw [settled]
  exact holds value (requested ▸ given)

private theorem lastCommandHolds_iff (t : ForceControl) (value : Nat)
    (requested : t.requested = some value) :
    t.LastCommandHolds ↔ t.controller.settled rcForceModeReg = value := by
  simp only [LastCommandHolds, requested, Option.mem_def, Option.some.injEq, forall_eq']

/-- While the last command is in force, a step leaves it in force exactly when it is in line. -/
theorem inLine_iff (c : ForceControl) (a : ForceAction) (t : ForceControl)
    (commanded : c.Commanded) (holds : c.LastCommandHolds) (h : c.step config a = some t) :
    (t.LastCommandHolds ∧ c.RefreshAgrees a) ↔ c.InLine a := by
  cases a with
  | turnOn s =>
    -- Both switches have companions, so a turn-on is always written.
    cases h
    have forced : (!s.definition.companionWrites.isEmpty || s.definition.keepAlive) = true := by
      cases s <;> rfl
    simp only [RefreshAgrees, and_true, InLine, iff_true, forced]
    apply (lastCommandHolds_iff _ s.mode rfl).mpr
    exact c.settled_setSwitch_on s s.definition.keepAlive
  | turnOff s =>
    -- The one command that may queue nothing.
    cases h
    simp only [RefreshAgrees, and_true, InLine]
    exact (lastCommandHolds_iff _ 0 rfl).trans (c.settled_setSwitch_off s)
  | forceBattery s call =>
    simp only [RefreshAgrees, and_true, InLine, iff_true]
    simp only [step] at h
    split at h
    next queued accepted =>
      cases h
      rw [lastCommandHolds_iff _ _ rfl]
      exact settled_forceBattery config accepted
    next =>
      cases h
      exact holds
  | stop =>
    simp only [RefreshAgrees, and_true, InLine, iff_true]
    simp only [step, Controller.stopForceChargeDischarge] at h
    split at h
    next queued accepted =>
      cases h
      split at accepted
      · cases accepted
        rw [lastCommandHolds_iff _ _ rfl]
        simp
      · cases accepted
    next =>
      cases h
      exact holds
  | timer s =>
    simp only [step] at h
    split at h
    next pending =>
      -- The refresh follows some command, and that command is still in force.
      obtain ⟨last, requested⟩ := Option.isSome_iff_exists.mp (commanded s pending)
      have before := (lastCommandHolds_iff c last requested).mp holds
      split at h
      next on =>
        cases h
        have refreshed := c.settled_setSwitch_on s true
        have after : (c.setSwitch s true true true).requested = some last := requested
        rw [lastCommandHolds_iff _ last after, refreshed]
        simp only [InLine, RefreshAgrees, on, forall_const, requested, before, Option.some.injEq]
        constructor
        · intro both
          exact both.2
        · intro agrees
          exact ⟨agrees.symm, agrees⟩
      next off =>
        cases h
        have off := Bool.eq_false_iff.mpr off
        simp only [InLine, RefreshAgrees, off, Bool.false_eq_true, false_implies, and_true, iff_true]
        exact holds.of_same rfl rfl
    next => cases h
  | notify value =>
    -- Polls and echoes move the cache and the switches, not the queue.
    cases h
    simp only [RefreshAgrees, and_true, InLine, iff_true]
    exact holds.of_same rfl rfl
  | take | frame | finish =>
    simp only [RefreshAgrees, and_true, InLine, iff_true]
    obtain ⟨settled, requested, -⟩ := executor_spec h (by simp) (by simp)
    exact holds.of_same settled requested

/-- Once no command is pending and the queue is empty, the register holds what the last
command asked for. -/
def LastCommandWins (config : ForceConfig) (device : Nat → Nat) (cache : Nat → Option Nat)
    (acts : List ForceAction) : Prop :=
  ∀ t, exec (step config) (start device cache) acts = some t → t.controller.queue.Drained →
    ∀ value ∈ t.requested, t.controller.device rcForceModeReg = value

/-- **Last force command wins**, with no refresh against it, at every step of a run exactly
when every step is in line; the empty queue then leaves the register at that command. -/
theorem last_command_wins (config : ForceConfig) (device : Nat → Nat) (cache : Nat → Option Nat)
    (acts : List ForceAction) :
    (Along (step config) (fun c a t => t.LastCommandHolds ∧ c.RefreshAgrees a)
        (start device cache) acts ↔
      Along (step config) (fun c a _ => c.InLine a) (start device cache) acts) ∧
    (Along (step config) (fun c a _ => c.InLine a) (start device cache) acts →
      LastCommandWins config device cache acts) := by
  have initial : (start device cache).Commanded ∧ (start device cache).LastCommandHolds :=
    ⟨by simp [Commanded, start], by rintro value ⟨⟩⟩
  have kept (c : ForceControl) (a : ForceAction) (t : ForceControl)
      (inv : c.Commanded ∧ c.LastCommandHolds) (h : c.step config a = some t)
      (inLine : c.InLine a) : t.Commanded ∧ t.LastCommandHolds :=
    ⟨commanded_step c a t inv.1 h, ((inLine_iff c a t inv.1 inv.2 h).mpr inLine).1⟩
  constructor
  · apply along_iff (I := fun c => c.Commanded ∧ c.LastCommandHolds) _ _ acts initial
    · intro c a t inv h
      exact inLine_iff c a t inv.1 inv.2 h
    · intro c a t inv h after
      exact ⟨commanded_step c a t inv.1 h, after.1⟩
  · intro inLine t run drained value requested
    have final := invariant_along kept initial inLine run
    rw [← Controller.settled_of_drained drained]
    exact final.2 value requested

/-- Charging is turned on and written; the stop service is queued, and before its write is
executed the keep-alive timer of the switch, which still shows on, fires. -/
def refreshAfterStop : List ForceAction :=
  [.turnOn .charge, .take, .frame, .finish, .stop, .timer .charge,
   .take, .frame, .finish, .take, .frame, .finish]

/-- The inverter is left force-charging. -/
theorem refreshAfterStop_overrides :
    ¬ LastCommandWins ⟨true, 60000⟩ (fun _ => 0) (fun _ => none) refreshAfterStop := by
  intro wins
  have result := wins _ rfl (by decide) 0 (by decide)
  revert result
  decide

end ForceControl

end HHModbus
