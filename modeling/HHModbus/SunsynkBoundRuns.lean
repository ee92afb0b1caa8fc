import HHModbus.SunsynkBoundSteps

/-!
# The bounds over a run

The steps of the addon, from the commands to the requests, keep the numbers within their bounds.
-/
namespace HHModbus

open Transition

variable {table : List NumberRWSensor} {options : ConnectorOptions} {float : String → Option ℚ} {i : Nat}
  {p : CallbackPhase}

namespace Addon

variable {a a' : Addon}

theorem guarded_setPhase {j : Nat} (guarded : Guarded options float table i a.connector (a.phase i))
    (here : j = i → Guarded options float table i a.connector p) :
    Guarded options float table i (a.setPhase j p).connector ((a.setPhase j p).phase i) := by
  by_cases same : i = j
  · subst same
    simpa [setPhase] using here rfl
  · simpa [setPhase, Function.update_of_ne same] using guarded

@[simp] theorem released_connector (j : Nat) (raised : Bool) :
    (a.released j p raised).connector = a.connector := rfl

@[simp] theorem released_phase_self (j : Nat) (raised : Bool) :
    (a.released j p raised).phase j = p.onward raised a.connector := by
  simp [released, setPhase, CallbackPhase.onward]

theorem released_phase_of_ne {j : Nat} (raised : Bool) (other : i ≠ j) :
    (a.released j p raised).phase i = a.phase i := by
  simp [released, setPhase, Function.update_of_ne other]

theorem guarded_step (own : Function.Injective options.modbusId) (mutual_ : Mutual table) {act : AddonAction}
    (allowed : ∀ s value, a.phase i = .toWrite s value → Allowed float table s)
    (still : ∀ address value, act = .move (options.modbusId i) address value → ∀ x ∈ table, address ≠ x.register)
    (success : ∀ r, act = .reply r → r.Succeeds)
    (guarded : Guarded options float table i a.connector (a.phase i)) (taken : step options a act = some a') :
    Guarded options float table i a'.connector (a'.phase i) := by
  cases moves_of_step taken with
  -- A command is only queued.
  | command j s value => exact guarded
  -- Between its operations a callback has nothing pending.
  | called j idle =>
    apply guarded_setPhase guarded
    rintro rfl
    rw [idle] at guarded
    exact guarded.between rfl (fun _ => id) rfl
  | ignored j => exact guarded
  | connected j reached connecting =>
    apply guarded_setPhase guarded
    rintro rfl
    rw [connecting] at guarded
    apply guarded.between rfl (fun _ => id)
    cases reached <;> rfl
  | popped j due s value flushing last =>
    refine guarded_setPhase (a := { a with queue := _ }) guarded ?_
    rintro rfl
    rw [flushing] at guarded
    exact guarded.between rfl (fun _ => id) rfl
  | drained j due flushing =>
    apply guarded_setPhase guarded
    rintro rfl
    rw [flushing] at guarded
    apply guarded.between rfl (fun _ => id)
    split <;> rfl
  | locked j op c wanted stepped =>
    -- The lock was free, and the operation has made its first step.
    obtain ⟨free, rfl⟩ : a.connector.job = none ∧ c = (a.connector.lockIo options j).start options op := by
      rcases Connector.step_cases stepped with ⟨_, _, same, free, rfl⟩ | ⟨_, _, same, -⟩ | ⟨_, _, _, same, -⟩
      · cases same
        exact ⟨free, rfl⟩
      · cases same
      · cases same
    by_cases same : i = j
    · subst same
      rw [released_phase_self]
      exact guarded_lock mutual_ guarded free wanted allowed
    · -- Another inverter has got the lock.
      have apart := Connector.apart_start options (a.connector.lockIo options j) op
      have unlocked : (a.phase i).holds = false := by
        have turn := guarded.turn
        simpa [free] using turn
      have after := guarded.foreign ((a.connector.lockIo options j).start options op) unlocked
        (fun _ => by rw [apart.serverId, apart.active]; rfl)
        (.inl (by rw [apart.active]; exact fun equal => same equal.symm))
        (apart.states i fun equal => same equal)
        (by funext b; simp [Connector.words, Connector.start_units, Connector.lockIo])
      rw [released_phase_of_ne _ same]
      exact after
  | replied r c raised stepped returned =>
    obtain ⟨job, busy, answered⟩ := Option.bind_eq_some_iff.mp stepped
    by_cases active : a.connector.active = i
    · subst active
      rw [released_phase_self]
      exact guarded_reply mutual_ guarded rfl busy (success r rfl) answered raised returned
    · -- Another inverter's request.
      have apart := Connector.apart_proceed answered
      have held := guarded.held (by simp [busy])
      have unlocked : (a.phase i).holds = false := by
        by_contra holds
        exact active (guarded.turn.mp (by simpa using holds)).2
      -- The request went to the unit of the inverter that has the lock.
      have units : c.units (options.modbusId i) = a.connector.units (options.modbusId i) := by
        apply apart.units
        rw [held]
        exact fun equal => active (own equal).symm
      have after := guarded.foreign c unlocked (fun _ => by rw [apart.serverId, apart.active, held])
        (.inl (by rwa [apart.active])) (apart.states i fun equal => active equal.symm)
        (by funext b; simp [Connector.words, units])
      rw [released_phase_of_ne _ fun equal => active equal.symm]
      exact after
  -- The registers of the numbers do not move by themselves.
  | moved unit address value =>
    apply guarded.moved mutual_
    rintro rfl
    exact still address value rfl

/-- **Settings that bound each other stay within their bounds.** In every run over a connector whose
requests succeed, for commands to all inverters that are given, written and read back in any order:
no number of a table ever passes another one that bounds it, nor a limit, if the run starts with
registers that keep to this and are known to the inverter's state. -/
theorem settings_stay_in_bounds (options : ConnectorOptions) (own : Function.Injective options.modbusId)
    (float : String → Option ℚ) (table : List NumberRWSensor) (mutual_ : Mutual table) (i : Nat)
    (a a' : Addon) (acts : List AddonAction) (idle : a.Idle)
    (inside : InBounds table (a.connector.words (options.modbusId i)))
    (shown : ∀ x ∈ table, (a.connector.states i).Shows x (a.connector.words (options.modbusId i) x.register))
    (run : exec (step options) a acts = some a')
    (allowed : ∀ j s value, .command j s value ∈ acts →
      (∃ x ∈ table, s = x.setting float) ∨ ∀ x ∈ table, x.register ∉ s.address)
    (still : ∀ address value, .move (options.modbusId i) address value ∈ acts → ∀ x ∈ table, address ≠ x.register)
    (success : ∀ r, .reply r ∈ acts → r.Succeeds) :
    InBounds table (a'.connector.words (options.modbusId i)) := by
  have start : Drawn (Allowed float table) [] a ∧ Guarded options float table i a.connector (a.phase i) := by
    constructor
    · constructor
      · simp [idle.queue]
      · simp [idle.phase]
      · simp [connectorActs]
    · rw [idle.phase i]
      constructor
      · exact inside
      · simp [idle.job]
      · simp [CallbackPhase.holds, idle.job]
      · simp [idle.job]
      · simp [idle.job]
      · simp [idle.job]
      · exact fun x member => ⟨⟨_, shown x member⟩, .inl (shown x member)⟩
  have kept := invariant_observed_of_forall
    (I := fun events b => Drawn (Allowed float table) events b ∧ Guarded options float table i b.connector (b.phase i))
    (P := fun act => act ∈ acts) (fun events b act b' member before taken => by
      obtain ⟨drawn, guarded⟩ := before
      constructor
      · exact drawn_step events b act b' (fun j s value same => allowed j s value (same ▸ member)) drawn taken
      · exact guarded_step own mutual_ (fun s value hand => drawn.hand i s value hand)
          (fun address value same => still address value (same ▸ member))
          (fun r same => success r (same ▸ member)) guarded taken)
    start (fun act member => member) run
  exact kept.2.inside

/-- Shutdown at 10 %, low at 20 %. -/
def capacityAddon : Addon where
  connector := { Connector.idleConnector with
    states := fun _ => { InverterState.initial with
      values := [(numberSensor 217 "Battery shutdown capacity", .num (10 : Nat)),
        (numberSensor 219 "Battery low capacity", .num (20 : Nat))] }
    units := fun _ a => if a = 217 then 10 else 20 }
  queue _ := []
  phase _ := .idle

def capacityText (text : String) : Option ℚ := if text = "30" then some 30 else if text = "5" then some 5 else none

def shutdownCapacity : NumberRWSensor := singlePhaseCapacities.get ⟨0, Nat.zero_lt_two⟩

def lowCapacity : NumberRWSensor := singlePhaseCapacities.get ⟨1, Nat.one_lt_two⟩

/-- Low is to be 5, and shutdown 30. -/
def lowThenShutdown : List AddonAction := [
  .command 0 (lowCapacity.setting capacityText) "5", .command 0 (shutdownCapacity.setting capacityText) "30",
  .call 0, .connected 0 true, .next 0 [], .lock 0, .reply (.returned true), .lock 0, .reply (.words 1),
  .next 0 [], .lock 0, .reply (.returned true), .lock 0, .reply (.words 1)]

theorem lowThenShutdown_runs : (exec (step Connector.twoInverters) capacityAddon lowThenShutdown).isSome = true := by
  decide +kernel

def afterShutdown : Addon :=
  (exec (step Connector.twoInverters) capacityAddon lowThenShutdown).get lowThenShutdown_runs

/-- Both are 20 in the end. -/
theorem settings_stay_in_bounds_capacities :
    InBounds singlePhaseCapacities (afterShutdown.connector.words 1) ∧
      afterShutdown.connector.words 1 217 = 20 ∧ afterShutdown.connector.words 1 219 = 20 := by
  have idle : capacityAddon.Idle := ⟨rfl, fun _ => rfl, fun _ => rfl⟩
  have inside : InBounds singlePhaseCapacities (capacityAddon.connector.words 1) := by
    intro x member
    simp only [singlePhaseCapacities, List.mem_cons, List.not_mem_nil, or_false] at member
    rcases member with rfl | rfl <;> (constructor <;> decide +kernel)
  have shown : ∀ x ∈ singlePhaseCapacities,
      (capacityAddon.connector.states 0).Shows x (capacityAddon.connector.words 1 x.register) := by
    intro x member
    simp only [singlePhaseCapacities, List.mem_cons, List.not_mem_nil, or_false] at member
    rcases member with rfl | rfl <;> rfl
  have run : exec (step Connector.twoInverters) capacityAddon lowThenShutdown = some afterShutdown :=
    (Option.some_get lowThenShutdown_runs).symm
  refine ⟨settings_stay_in_bounds Connector.twoInverters (add_left_injective 1) capacityText singlePhaseCapacities
    mutual_singlePhaseCapacities 0 capacityAddon afterShutdown lowThenShutdown idle inside shown run ?_ ?_ ?_, ?_, ?_⟩
  · intro j s value member
    left
    simp only [lowThenShutdown, List.mem_cons, AddonAction.command.injEq, reduceCtorEq, List.not_mem_nil,
      or_false] at member
    rcases member with ⟨-, rfl, -⟩ | ⟨-, rfl, -⟩
    · exact ⟨lowCapacity, List.get_mem .., rfl⟩
    · exact ⟨shutdownCapacity, List.get_mem .., rfl⟩
  · intro address value member
    simp [lowThenShutdown] at member
  · intro r member
    simp only [lowThenShutdown, List.mem_cons, AddonAction.reply.injEq, reduceCtorEq, List.not_mem_nil,
      or_false, false_or] at member
    rcases member with rfl | rfl | rfl | rfl | rfl | rfl <;> simp [DriverReply.Succeeds]
  · decide +kernel
  · decide +kernel

end Addon

end HHModbus
