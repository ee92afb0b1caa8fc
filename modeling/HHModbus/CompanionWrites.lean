import HHModbus.ForceCommands

/-!
# Setpoints and their companion re-writes

Force commands are followed by a re-write of the cached power and timeout setpoints, while
the number entities and the force services queue new setpoints without touching the cache.
Polls, timers and the write queue run in between; the link is up, the inverter accepts every
write and changes a setpoint only when it is written.
-/
namespace HHModbus

open Transition

/-- The companion registers of the 43135 switches and select. -/
inductive Setpoint where
  | chargePower
  | dischargePower
  | rcTimeout
  deriving DecidableEq, Repr

namespace Setpoint

def register : Setpoint → Nat
  | chargePower => 43136
  | dischargePower => 43129
  | rcTimeout => 43282

/-- The number entity's `multiplier`. -/
def multiplier : Setpoint → ℚ
  | chargePower | dischargePower => 10
  | rcTimeout => 1

/-- `round(value / multiplier)`, as `set_native_value` computes it for these numbers. -/
def registerValue (r : Setpoint) (value : ℚ) : Nat :=
  roundHalfEven (value / r.multiplier).num.toNat (value / r.multiplier).den

/-- `convert_value` of the word a number has received. -/
def nativeValue (r : Setpoint) (word : Nat) : ℚ := word * r.multiplier

theorem register_injective {r s : Setpoint} (h : r.register = s.register) : r = s := by
  cases r <;> cases s <;> first | rfl | (revert h; decide)

theorem register_ne_mode (r : Setpoint) : r.register ≠ rcForceModeReg := by
  cases r <;> decide

end Setpoint

/-- The setpoint whose register a force switch's service writes. -/
def ForceSwitch.setpoint : ForceSwitch → Setpoint
  | charge => .chargePower
  | discharge => .dischargePower

/-- `companion_writes` of the select on 43135. -/
def rcForceSelectCompanions : List Nat := [43136, 43129, 43282]

/-- `SolisSelectEntity._write_companions`. -/
def writeSelectCompanions (c : Controller) : Controller :=
  rcForceSelectCompanions.foldl (fun acc companion =>
    match c.cacheGet companion with
    | some cached => acc.asyncWriteHoldingRegister companion cached
    | none => acc) c

/-- `async_select_option` of an option of the select on 43135: unlike the switches it does not
save the mode into the cache. -/
def Controller.selectForceMode (c : Controller) (onValue : Nat) : Controller :=
  writeSelectCompanions (c.asyncWriteHoldingRegister rcForceModeReg onValue)

structure SetpointTraffic where
  force : ForceControl
  /-- `_attr_native_value` of the number entities. -/
  numbers : Setpoint → Option ℚ
  /-- Updates that polls have read and not yet saved. -/
  polled : List (Nat × Nat)
  /-- What the last user write asked a setpoint to be. -/
  requested : Setpoint → Option Nat

inductive SetpointAction where
  | force (a : ForceAction)
  | select (onValue : Nat)
  | setNativeValue (r : Setpoint) (value : ℚ)
  | pollRead (register : Nat)
  | pollSave (i : Nat)
  deriving DecidableEq

namespace SetpointTraffic

variable (config : ForceConfig)

def start (device : Nat → Nat) (cache : Nat → Option Nat) (numbers : Setpoint → Option ℚ) :
    SetpointTraffic :=
  ⟨.start device cache, numbers, [], fun _ => none⟩

/-- The number entities listen to updates of their own register. -/
def hear (numbers : Setpoint → Option ℚ) (update : Nat × Nat) : Setpoint → Option ℚ := fun r =>
  if update.1 = r.register then some (r.nativeValue update.2) else numbers r

/-- The setpoints a service call asks for. -/
def asked (s : ForceSwitch) (call : ForceCall) (requested : Setpoint → Option Nat) :
    Setpoint → Option Nat := fun r =>
  match r, call.durationMinutes with
  | .rcTimeout, some duration => some duration
  | r, _ =>
    match call.powerWatts with
    | some watts =>
      let maxWatts := if config.wattageChosen = 0 then 60000 else config.wattageChosen
      if r = s.setpoint then some (roundHalfEven (min watts maxWatts) 10) else requested r
    | none => requested r

def step (c : SetpointTraffic) : SetpointAction → Option SetpointTraffic
  | .force a =>
    (c.force.step config a).map fun next =>
      { c with
        force := next
        -- What the executor announces reaches the numbers as well.
        numbers :=
          match a with
          | .finish => (c.force.controller.announced .finish).foldl hear c.numbers
          | _ => c.numbers
        requested :=
          match a with
          | .forceBattery s call => if config.hybrid then asked config s call c.requested else c.requested
          | _ => c.requested }
  | .select onValue =>
    some { c with force := { c.force with controller := c.force.controller.selectForceMode onValue } }
  | .setNativeValue r value =>
    let requested := Function.update c.requested r (some (r.registerValue value))
    -- A value the number already shows is not written.
    if c.numbers r = some value then some { c with requested }
    else
      some { c with
        force := { c.force with
          controller := c.force.controller.asyncWriteHoldingRegister r.register (r.registerValue value) }
        numbers := Function.update c.numbers r (some value)
        requested }
  | .pollRead register =>
    some { c with polled := c.polled ++ [(register, c.force.controller.device register)] }
  | .pollSave i =>
    c.polled[i]?.map fun update =>
      let saved := { c.force with controller := c.force.controller.cacheSave update.1 update.2 }
      { c with
        force := if update.1 = rcForceModeReg then saved.hear update.2 else saved
        numbers := hear c.numbers update
        polled := c.polled.eraseIdx i }

/-- Once the queue is empty the setpoint will be what the last user write asked for. -/
def LastWriteHolds (r : Setpoint) (c : SetpointTraffic) : Prop :=
  ∀ value ∈ c.requested r, c.force.controller.settled r.register = value

/-- The action re-writes the cached companions. -/
def rewrites (c : SetpointTraffic) : SetpointAction → Bool
  | .force (.turnOn _) | .select _ => true
  | .force (.timer s) => (c.force.switches s).isOn
  | _ => false

/-- A re-write sends what the last user write asked for. -/
def RewriteAgrees (r : Setpoint) (c : SetpointTraffic) (a : SetpointAction) : Prop :=
  c.rewrites a = true → ∀ cached ∈ c.force.controller.cacheGet r.register,
    ∀ value ∈ c.requested r, cached = value

/-- Companions are re-written only while the cache has no value of the setpoint or the one it
will settle at, unless no user has written the setpoint; and a number that already shows a
value is asked for it only while the setpoint will settle at that value. -/
def InLine (r : Setpoint) (c : SetpointTraffic) : SetpointAction → Prop
  | .setNativeValue own value =>
    own = r → c.numbers own = some value →
      c.force.controller.settled own.register = own.registerValue value
  | a =>
    c.rewrites a = true → (c.requested r).isSome → ∀ cached ∈ c.force.controller.cacheGet r.register,
      c.force.controller.settled r.register = cached

/-! ### What each action does to a setpoint -/

theorem settled_writeSelectCompanions (c : Controller) (r : Nat) :
    (writeSelectCompanions c).settled r =
      if r ∈ rcForceSelectCompanions then (c.cacheGet r).getD (c.settled r) else c.settled r :=
  settled_rewrite c rcForceSelectCompanions c r

/-- Turning a force switch on re-writes the setpoint. -/
theorem settled_setSwitch_on_setpoint (c : ForceControl) (s : ForceSwitch) (timer : Bool)
    (r : Setpoint) :
    (c.setSwitch s true true timer).controller.settled r.register =
      (c.controller.cacheGet r.register).getD (c.controller.settled r.register) := by
  have companion : r.register ∈ s.definition.companionWrites := by cases r <;> cases s <;> decide
  have apart : r.register ≠ s.definition.targetRegister := by
    rw [ForceControl.targetRegister]
    exact r.register_ne_mode
  simp only [ForceControl.setSwitch, SwitchDefinition.setRegisterBit, Bool.true_or, Bool.true_and,
    if_true]
  rw [SwitchDefinition.settled_writeCompanions, if_pos companion,
    Controller.cacheGet_cacheSave_of_ne _ _ apart,
    Controller.cacheGet_asyncWriteHoldingRegister, Controller.settled_cacheSave,
    Controller.settled_asyncWriteHoldingRegister_of_ne _ _ apart]

/-- Turning it off does not. -/
theorem settled_setSwitch_off_setpoint (c : ForceControl) (s : ForceSwitch) (r : Setpoint) :
    (c.setSwitch s false false false).controller.settled r.register =
      c.controller.settled r.register := by
  have apart : r.register ≠ s.definition.targetRegister := by
    rw [ForceControl.targetRegister]
    exact r.register_ne_mode
  simp only [ForceControl.setSwitch, SwitchDefinition.setRegisterBit, Bool.false_eq_true, if_false]
  split
  · rw [Controller.settled_cacheSave, Controller.settled_asyncWriteHoldingRegister_of_ne _ _ apart]
  · rfl

/-- The select re-writes it as well. -/
theorem settled_selectForceMode (c : Controller) (onValue : Nat) (r : Setpoint) :
    (c.selectForceMode onValue).settled r.register =
      (c.cacheGet r.register).getD (c.settled r.register) := by
  have companion : r.register ∈ rcForceSelectCompanions := by cases r <;> decide
  rw [Controller.selectForceMode, settled_writeSelectCompanions, if_pos companion,
    Controller.cacheGet_asyncWriteHoldingRegister,
    Controller.settled_asyncWriteHoldingRegister_of_ne _ _ r.register_ne_mode]

/-- A service makes the setpoints it is given settle at what it asks for. -/
theorem settled_forceBattery_setpoint {config : ForceConfig} {c queued : Controller} {s : ForceSwitch}
    {call : ForceCall} (h : c.forceBattery config s call = some queued) (r : Setpoint)
    (requested : Setpoint → Option Nat)
    (holds : ∀ value ∈ requested r, c.settled r.register = value) :
    ∀ value ∈ asked config s call requested r, queued.settled r.register = value := by
  have power : s.powerRegister = s.setpoint.register := by cases s <;> rfl
  have mode : ¬ r.register = rcForceModeReg := r.register_ne_mode
  have timeout : (43282 : Nat) = Setpoint.rcTimeout.register := rfl
  have same (t : Setpoint) : r.register = t.register ↔ r = t :=
    ⟨Setpoint.register_injective, congrArg _⟩
  simp only [Controller.forceBattery, power, timeout, Option.mem_def] at h holds ⊢
  split at h
  next hybrid =>
    -- The timeout comes last; the power of the switch is another setpoint.
    have apart : s.setpoint ≠ .rcTimeout := by cases s <;> simp [ForceSwitch.setpoint]
    cases watts : call.powerWatts <;> cases duration : call.durationMinutes <;>
      simp only [watts, duration, Option.some.injEq] at h <;>
      subst h <;>
      cases r <;>
      simp [asked, watts, duration, Controller.settled_asyncWriteHoldingRegister_eq, same, mode,
        Ne.symm apart] <;>
      grind
  next => cases h

private theorem LastWriteHolds.of_same {r : Setpoint} {c t : SetpointTraffic}
    (holds : c.LastWriteHolds r)
    (settled : t.force.controller.settled r.register = c.force.controller.settled r.register)
    (requested : t.requested r = c.requested r) : t.LastWriteHolds r := by
  intro value given
  rw [settled]
  exact holds value (requested ▸ given)

/-- A re-write keeps the last user write in force exactly when it sends it. -/
private theorem rewrite_iff {r : Setpoint} {c t : SetpointTraffic} (holds : c.LastWriteHolds r)
    (settled : t.force.controller.settled r.register =
      (c.force.controller.cacheGet r.register).getD (c.force.controller.settled r.register))
    (requested : t.requested r = c.requested r) :
    (t.LastWriteHolds r ∧ ∀ cached ∈ c.force.controller.cacheGet r.register,
        ∀ value ∈ c.requested r, cached = value) ↔
      ((c.requested r).isSome → ∀ cached ∈ c.force.controller.cacheGet r.register,
        c.force.controller.settled r.register = cached) := by
  unfold LastWriteHolds at holds ⊢
  rw [settled, requested]
  cases inCache : c.force.controller.cacheGet r.register with
  | none => simpa using holds
  | some cached =>
    cases last : c.requested r with
    | none => simp
    | some value =>
      have before : c.force.controller.settled r.register = value := holds value last
      simp [before, eq_comm]

/-- While the last user write is in force, a step leaves it in force, and re-writes nothing
older, exactly when it is in line. -/
theorem inLine_iff (r : Setpoint) (c : SetpointTraffic) (a : SetpointAction) (t : SetpointTraffic)
    (holds : c.LastWriteHolds r) (h : c.step config a = some t) :
    (t.LastWriteHolds r ∧ c.RewriteAgrees r a) ↔ c.InLine r a := by
  have quiet (still : c.rewrites a = false) (line : c.InLine r a) (after : t.LastWriteHolds r) :
      (t.LastWriteHolds r ∧ c.RewriteAgrees r a) ↔ c.InLine r a :=
    iff_of_true ⟨after, by simp [RewriteAgrees, still]⟩ line
  cases a with
  | force a =>
    simp only [step, Option.map_eq_some_iff] at h
    obtain ⟨next, hn, rfl⟩ := h
    cases a with
    | turnOn s =>
      cases hn
      have forced : (!s.definition.companionWrites.isEmpty || s.definition.keepAlive) = true := by
        cases s <;> rfl
      have settled := settled_setSwitch_on_setpoint c.force s s.definition.keepAlive r
      simp only [RewriteAgrees, InLine, rewrites, forall_const, forced]
      exact rewrite_iff holds settled rfl
    | timer s =>
      simp only [ForceControl.step] at hn
      split at hn
      next pending =>
        split at hn
        next on =>
          cases hn
          simp only [RewriteAgrees, InLine, rewrites, on, forall_const]
          exact rewrite_iff holds (settled_setSwitch_on_setpoint c.force s true r) rfl
        next off =>
          cases hn
          have off := Bool.eq_false_iff.mpr off
          exact quiet off (by simp [InLine, rewrites, off]) (holds.of_same rfl rfl)
      next => cases hn
    | turnOff s =>
      cases hn
      exact quiet rfl (by simp [InLine, rewrites])
        (holds.of_same (settled_setSwitch_off_setpoint c.force s r) rfl)
    | forceBattery s call =>
      refine quiet rfl (by simp [InLine, rewrites]) ?_
      simp only [ForceControl.step] at hn
      cases hybrid : config.hybrid with
      | false =>
        -- The service raises before it queues anything.
        simp only [Controller.forceBattery, hybrid, Bool.false_eq_true, if_false] at hn
        cases hn
        exact holds.of_same rfl rfl
      | true =>
        cases accepted : c.force.controller.forceBattery config s call with
        | none =>
          simp only [Controller.forceBattery, hybrid, if_true] at accepted
          split at accepted <;> cases accepted
        | some queued =>
          simp only [accepted] at hn
          cases hn
          simp only [LastWriteHolds, if_true]
          exact settled_forceBattery_setpoint accepted r c.requested holds
    | stop =>
      refine quiet rfl (by simp [InLine, rewrites]) ?_
      simp only [ForceControl.step, Controller.stopForceChargeDischarge] at hn
      cases hybrid : config.hybrid with
      | false =>
        simp only [hybrid, Bool.false_eq_true, if_false] at hn
        cases hn
        exact holds.of_same rfl rfl
      | true =>
        simp only [hybrid, if_true] at hn
        cases hn
        exact holds.of_same
          (Controller.settled_asyncWriteHoldingRegister_of_ne _ _ r.register_ne_mode) rfl
    | notify value =>
      cases hn
      exact quiet rfl (by simp [InLine, rewrites]) (holds.of_same rfl rfl)
    | take | frame | finish =>
      refine quiet rfl (by simp [InLine, rewrites]) (holds.of_same ?_ rfl)
      simp only [ForceControl.step, ForceControl.executor, Option.map_eq_some_iff] at hn
      obtain ⟨executed, he, rfl⟩ := hn
      rw [(ForceControl.foldl_hear _ _).1]
      exact Controller.settled_step he (by simp) (by simp) r.register
  | select onValue =>
    cases h
    simp only [RewriteAgrees, InLine, rewrites, forall_const]
    exact rewrite_iff holds (settled_selectForceMode c.force.controller onValue r) rfl
  | setNativeValue own value =>
    have agrees : c.RewriteAgrees r (.setNativeValue own value) := by simp [RewriteAgrees, rewrites]
    simp only [agrees, and_true, InLine]
    by_cases same : own = r
    · subst same
      simp only [step] at h
      split at h
      next shown =>
        -- Nothing is queued, so the setpoint keeps its outcome.
        cases h
        simp [LastWriteHolds, shown]
      next differs =>
        cases h
        simp [LastWriteHolds, differs]
    · have apart : ¬ r.register = own.register := fun h => same (Setpoint.register_injective h).symm
      refine iff_of_true ?_ fun h => absurd h same
      simp only [step] at h
      split at h
      · cases h
        exact holds.of_same rfl (Function.update_of_ne (Ne.symm same) _ _)
      · cases h
        exact holds.of_same (Controller.settled_asyncWriteHoldingRegister_of_ne _ _ apart)
          (Function.update_of_ne (Ne.symm same) _ _)
  | pollRead register =>
    cases h
    exact quiet rfl (by simp [InLine, rewrites]) (holds.of_same rfl rfl)
  | pollSave i =>
    simp only [step, Option.map_eq_some_iff] at h
    obtain ⟨update, -, rfl⟩ := h
    refine quiet rfl (by simp [InLine, rewrites]) (holds.of_same ?_ rfl)
    dsimp only
    split <;> rfl

/-- Once the queue is empty, the setpoint holds what the last user write asked for. -/
def LastWriteWins (config : ForceConfig) (r : Setpoint) (device : Nat → Nat)
    (cache : Nat → Option Nat) (numbers : Setpoint → Option ℚ) (acts : List SetpointAction) : Prop :=
  ∀ t, exec (step config) (start device cache numbers) acts = some t →
    t.force.controller.queue.Drained →
    ∀ value ∈ t.requested r, t.force.controller.device r.register = value

/-- **The last user write of a setpoint stays in force**, and no re-write of it sends an older
value, at every step of a run exactly when every step is in line; the empty queue then leaves
the setpoint at that write. -/
theorem last_setpoint_wins (config : ForceConfig) (r : Setpoint) (device : Nat → Nat)
    (cache : Nat → Option Nat) (numbers : Setpoint → Option ℚ) (acts : List SetpointAction) :
    (Along (step config) (fun c a t => t.LastWriteHolds r ∧ c.RewriteAgrees r a)
        (start device cache numbers) acts ↔
      Along (step config) (fun c a _ => c.InLine r a) (start device cache numbers) acts) ∧
    (Along (step config) (fun c a _ => c.InLine r a) (start device cache numbers) acts →
      LastWriteWins config r device cache numbers acts) := by
  have initial : (start device cache numbers).LastWriteHolds r := by rintro value ⟨⟩
  constructor
  · apply along_iff (I := LastWriteHolds r) _ _ acts initial
    · intro c a t holds h
      exact inLine_iff config r c a t holds h
    · intro c a t holds h after
      exact after.1
  · intro inLine t run drained value requested
    have final : t.LastWriteHolds r := by
      refine invariant_along (I := LastWriteHolds r) ?_ initial inLine run
      intro c a u holds h line
      exact ((inLine_iff config r c a u holds h).mpr line).1
    rw [← Controller.settled_of_drained drained]
    exact final value requested

/-- The charge power is 300 everywhere. The number entity asks for 5000 W, and before that
write is executed and echoed the charge switch is turned on. -/
def setpointThenForce : List SetpointAction :=
  [.setNativeValue .chargePower 5000, .force (.turnOn .charge),
   .force .take, .force .frame, .force .finish, .force .take, .force .frame, .force .finish,
   .force .take, .force .frame, .force .finish, .force .take, .force .frame, .force .finish,
   .force .take, .force .frame, .force .finish]

/-- The companion re-write puts the charge power back to 300. -/
theorem setpointThenForce_reverts :
    ¬ LastWriteWins ⟨true, 60000⟩ .chargePower (fun _ => 300) (fun _ => some 300)
      (fun _ => some 3000) setpointThenForce := by
  intro wins
  have result := wins _ rfl (by decide +kernel) 500 (by decide +kernel)
  revert result
  decide +kernel

end SetpointTraffic

end HHModbus
