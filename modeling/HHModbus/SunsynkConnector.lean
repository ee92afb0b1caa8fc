import Mathlib.Data.Nat.Bitwise
import HHModbus.Lib.Transition
import HHModbus.SunsynkGroups
import HHModbus.SunsynkState

/-!
# Inverters on one connector

All inverters on a port share one driver, with its `server_id` and the `state` that it works on. An
inverter takes it for itself with `lock_io` and keeps it for a whole `read_sensors` or
`write_sensor`, over all requests that these wait for.
-/
namespace HHModbus

open Transition

/-- An `RWSensor`. A mask is for a single register. -/
structure Setting extends StateSensor where
  valueToReg : String → InverterState → Option (List Nat)
  nonempty : ∀ value st regs, valueToReg value st = some regs → regs ≠ []
  single : bitmask ≠ 0 → ∃ a, address = [a]
  fits : bitmask < 65536

/-- `RWSensor.reg`: what is outside the mask is cut off. -/
def regWithin (bitmask : Nat) : List Nat → List Nat
  | [] => []
  | r :: rest => if bitmask ≠ 0 ∧ r ≠ r &&& bitmask then (r &&& bitmask) :: rest else r :: rest

def Setting.reg (s : Setting) (regs : List Nat) : List Nat := regWithin s.bitmask regs

def patchBitmask (value patch bitmask : Nat) : Nat :=
  (patch &&& bitmask) + (value &&& (0xFFFF - bitmask))

/-- What an inverter wants of the driver. -/
inductive Operation
  | readSensors (sensors : List StateSensor)
  | writeSensor (s : Setting) (value : String)

/-- Where the holder of the lock waits. -/
inductive Job
  /-- For the first of the groups, in `read_sensors`. -/
  | reading (groups : List (List Nat)) (newRegs : Registers)
  /-- For the register that `write_sensor` is to change some bits of. -/
  | fetching (s : Setting) (regs : List Nat)
  /-- For the first of the registers to be written. -/
  | writing (s : Setting) (left : List (Nat × Nat))

/-- How a request ends. A write that timed out may have been carried out. -/
inductive DriverReply
  | words (count : Nat)
  | failed
  | returned (applied : Bool)
  | raised (applied : Bool)

inductive ConnectorAction
  | lock (inverter : Nat) (op : Operation)
  | reply (r : DriverReply)
  /-- A register changes by itself. -/
  | move (unit address value : Nat)

/-- The driver, the states of the inverters, and the registers of the units. -/
structure Connector where
  serverId : Nat
  /-- The inverter whose state is the driver's `state`. -/
  active : Nat
  states : Nat → InverterState
  units : Nat → Nat → BitVec 16
  job : Option Job

/-- The options of the addon: `modbus_id` of each inverter, and the limits of `group_sensors`. -/
structure ConnectorOptions where
  modbusId : Nat → Nat
  allowGap : Nat
  batchSize : Nat

namespace Connector

/-- The driver's `state`. -/
def state (c : Connector) : InverterState := c.states c.active

def setState (c : Connector) (st : InverterState) : Connector :=
  { c with states := Function.update c.states c.active st }

def setRegister (c : Connector) (unit address value : Nat) : Connector :=
  let registers := Function.update (c.units unit) address (BitVec.ofNat 16 value)
  { c with units := Function.update c.units unit registers }

/-- After a write that may have been carried out. -/
def storing (c : Connector) (address value : Nat) (applied : Bool) : Connector :=
  if applied then c.setRegister c.serverId address value else c

/-- Go on with a job, up to its next request. -/
def settle (c : Connector) : Job → Connector
  -- Only a reading that is complete is given to the state.
  | .reading [] newRegs => { c.setState (c.state.update newRegs) with job := none }
  | .writing _ [] => { c with job := none }
  | job => { c with job := some job }

/-- `register_map` of what the unit answers. -/
def answer (c : Connector) (start count : Nat) : Registers := fun a =>
  if start ≤ a ∧ a < start + count then some (c.units c.serverId a).toNat else none

/-- `lock_io`, once the lock is free. -/
def lockIo (c : Connector) (options : ConnectorOptions) (inverter : Nat) : Connector :=
  { c with serverId := options.modbusId inverter, active := inverter }

/-- Up to the first request. -/
def start (c : Connector) (options : ConnectorOptions) : Operation → Connector
  | .readSensors sensors =>
    let groups := groupSensors options.allowGap options.batchSize (sensors.map (·.address))
    c.settle (.reading groups fun _ => none)
  | .writeSensor s value =>
    match s.valueToReg value c.state with
    -- An exception before the first request gives the lock back.
    | none => c
    | some regs =>
      if s.bitmask ≠ 0 then c.settle (.fetching s (s.reg regs))
      else c.settle (.writing s (s.address.zip regs))

/-- A reply to the request that the job waits for. -/
def proceed (c : Connector) : Job → DriverReply → Option Connector
  | .reading (group :: rest) newRegs, .words count =>
    let regs := c.answer (group.headD 0) (min count (groupLength group))
    some (c.settle (.reading rest (newRegs.update regs)))
  -- `read_sensors` goes on with the next group after an error.
  | .reading (_ :: rest) newRegs, .failed => some (c.settle (.reading rest newRegs))
  | .fetching s regs, .words (_ + 1) =>
    let val0 := (c.units c.serverId (s.address.headD 0)).toNat
    let regs0 := patchBitmask val0 (regs.headD 0) s.bitmask
    some (c.settle (.writing s (s.address.zip (regs0 :: regs.tail))))
  -- Without an old value there is nothing to patch: the write ends here.
  | .fetching _ _, .words 0 | .fetching _ _, .failed => some { c with job := none }
  | .writing s ((address, value) :: left), .returned applied =>
    -- What `write_register` returns is not looked at.
    let c := c.storing address value applied
    some ((c.setState (c.state.noteWritten address value)).settle (.writing s left))
  -- The exception leaves the register unnoted, also where the unit has stored it.
  | .writing _ ((address, value) :: _), .raised applied =>
    some { c.storing address value applied with job := none }
  | _, _ => none

def step (options : ConnectorOptions) (c : Connector) :
    ConnectorAction → Option Connector
  | .lock inverter op =>
    match c.job with
    | some _ => none
    | none => some ((c.lockIo options inverter).start options op)
  | .reply r => c.job.bind fun job => c.proceed job r
  | .move unit address value => some (c.setRegister unit address value)

/-! ### What passes over the connector -/

inductive Exchange
  /-- An operation begins, with the state that its inverter has then. -/
  | begun (inverter : Nat) (op : Operation) (st : InverterState)
  | answered (unit address value : Nat)
  | written (unit : Nat) (s : Setting) (address value : Nat) (applied : Bool)
  | moved (unit address value : Nat)

def observe (c : Connector) : ConnectorAction → List Exchange
  | .lock inverter op => [.begun inverter op (c.states inverter)]
  | .move unit address value => [.moved unit address value]
  | .reply r =>
    match c.job, r with
    | some (.reading (group :: _) _), .words count =>
      (List.range' (group.headD 0) (min count (groupLength group))).map fun a =>
        .answered c.serverId a (c.units c.serverId a).toNat
    | some (.writing s ((address, value) :: _)), .returned applied
    | some (.writing s ((address, value) :: _)), .raised applied =>
      [.written c.serverId s address value applied]
    | _, _ => []

/-- All that passes over the connector in a run. -/
def exchanged (options : ConnectorOptions) (c : Connector) (acts : List ConnectorAction) : List Exchange :=
  observed (step options) observe c acts

variable {options : ConnectorOptions} {c c' : Connector} {seen : List Exchange}

theorem step_cases {a : ConnectorAction} (taken : step options c a = some c') :
    (∃ inverter op, a = .lock inverter op ∧ c.job = none ∧
      c' = (c.lockIo options inverter).start options op) ∨
    (∃ r job, a = .reply r ∧ c.job = some job ∧ c.proceed job r = some c') ∨
    ∃ unit address value, a = .move unit address value ∧ c' = c.setRegister unit address value := by
  cases a with
  | lock inverter op =>
    cases busy : c.job with
    | some job => simp [step, busy] at taken
    | none =>
      simp only [step, busy, Option.some.injEq] at taken
      exact .inl ⟨inverter, op, rfl, rfl, taken.symm⟩
  | reply r =>
    obtain ⟨job, busy, answered⟩ := Option.bind_eq_some_iff.mp taken
    exact .inr (.inl ⟨r, job, rfl, busy, answered⟩)
  | move unit address value =>
    simp only [step, Option.some.injEq] at taken
    exact .inr (.inr ⟨unit, address, value, rfl, taken.symm⟩)

@[simp] theorem storing_states (address value : Nat) (applied : Bool) :
    (c.storing address value applied).states = c.states := by
  cases applied <;> rfl

@[simp] theorem storing_active (address value : Nat) (applied : Bool) :
    (c.storing address value applied).active = c.active := by
  cases applied <;> rfl

@[simp] theorem storing_serverId (address value : Nat) (applied : Bool) :
    (c.storing address value applied).serverId = c.serverId := by
  cases applied <;> rfl

@[simp] theorem storing_state (address value : Nat) (applied : Bool) :
    (c.storing address value applied).state = c.state := by
  cases applied <;> rfl

/-- What a reply can do. -/
inductive Progress (c : Connector) : Job → DriverReply → Connector → Prop
  | read (group : List Nat) (rest : List (List Nat)) (newRegs : Registers) (count : Nat) :
    Progress c (.reading (group :: rest) newRegs) (.words count)
      (c.settle (.reading rest
        (newRegs.update (c.answer (group.headD 0) (min count (groupLength group))))))
  | readFailed (group : List Nat) (rest : List (List Nat)) (newRegs : Registers) :
    Progress c (.reading (group :: rest) newRegs) .failed (c.settle (.reading rest newRegs))
  | fetched (s : Setting) (regs : List Nat) (count : Nat) :
    Progress c (.fetching s regs) (.words (count + 1))
      (c.settle (.writing s (s.address.zip
        (patchBitmask (c.units c.serverId (s.address.headD 0)).toNat (regs.headD 0) s.bitmask ::
          regs.tail))))
  | unfetched (s : Setting) (regs : List Nat) (r : DriverReply) :
    Progress c (.fetching s regs) r { c with job := none }
  | stored (s : Setting) (address value : Nat) (left : List (Nat × Nat)) (applied : Bool) :
    Progress c (.writing s ((address, value) :: left)) (.returned applied)
      (((c.storing address value applied).setState
        ((c.storing address value applied).state.noteWritten address value)).settle (.writing s left))
  | storeRaised (s : Setting) (address value : Nat) (left : List (Nat × Nat)) (applied : Bool) :
    Progress c (.writing s ((address, value) :: left)) (.raised applied)
      { c.storing address value applied with job := none }

theorem progress_of_proceed {job : Job} {r : DriverReply} (answered : c.proceed job r = some c') :
    Progress c job r c' := by
  match job, r, answered with
  | .reading (group :: rest) newRegs, .words count, rfl => exact .read group rest newRegs count
  | .reading (group :: rest) newRegs, .failed, rfl => exact .readFailed group rest newRegs
  | .fetching s regs, .words (count + 1), rfl => exact .fetched s regs count
  | .fetching s regs, .words 0, rfl => exact .unfetched s regs _
  | .fetching s regs, .failed, rfl => exact .unfetched s regs _
  | .writing s ((address, value) :: left), .returned applied, rfl =>
    exact .stored s address value left applied
  | .writing s ((address, value) :: left), .raised applied, rfl =>
    exact .storeRaised s address value left applied

/-! ### Registers come from the own unit -/

/-- The unit has answered with the value, or was sent it to store. -/
def Known (seen : List Exchange) (unit address value : Nat) : Prop :=
  .answered unit address value ∈ seen ∨ ∃ s applied, .written unit s address value applied ∈ seen

theorem Known.mono {more : List Exchange} {unit address value : Nat}
    (known : Known seen unit address value) (sub : seen ⊆ more) : Known more unit address value := by
  rcases known with answered | ⟨s, applied, written⟩
  · exact .inl (sub answered)
  · exact .inr ⟨s, applied, sub written⟩

/-- What the states know of each unit, and what a reading has gathered. -/
structure Sound (options : ConnectorOptions) (seen : List Exchange) (c : Connector) : Prop where
  own : ∀ i a v, (c.states i).registers a = some v → Known seen (options.modbusId i) a v
  gathered : ∀ groups newRegs, c.job = some (.reading groups newRegs) →
    ∀ a v, newRegs a = some v → Known seen c.serverId a v
  held : c.job ≠ none → c.serverId = options.modbusId c.active

theorem Sound.mono {more : List Exchange} (sound : Sound options seen c) (sub : seen ⊆ more) :
    Sound options more c where
  own i a v known := (sound.own i a v known).mono sub
  gathered groups newRegs job a v known := (sound.gathered groups newRegs job a v known).mono sub
  held := sound.held

theorem own_setState {st : InverterState}
    (own : ∀ i a v, (c.states i).registers a = some v → Known seen (options.modbusId i) a v)
    (active : ∀ a v, st.registers a = some v → Known seen (options.modbusId c.active) a v) :
    ∀ i a v, ((c.setState st).states i).registers a = some v →
      Known seen (options.modbusId i) a v := by
  intro i a v known
  by_cases same : i = c.active
  · subst same
    simp only [setState, Function.update_self] at known
    exact active a v known
  · simp only [setState, Function.update_of_ne same] at known
    exact own i a v known

/-- A job goes on soundly if what it has gathered is known. -/
theorem sound_settle {job : Job}
    (own : ∀ i a v, (c.states i).registers a = some v → Known seen (options.modbusId i) a v)
    (held : c.serverId = options.modbusId c.active)
    (gathered : ∀ groups newRegs, job = .reading groups newRegs →
      ∀ a v, newRegs a = some v → Known seen c.serverId a v) :
    Sound options seen (c.settle job) := by
  -- A job that waits for a request has changed nothing.
  have waiting : Sound options seen { c with job := some job } := by
    constructor
    · exact own
    · intro groups newRegs same
      exact gathered groups newRegs (Option.some.inj same)
    · exact fun _ => held
  match job with
  | .reading [] newRegs =>
    constructor
    · apply own_setState own
      intro a v known
      simp only [InverterState.update_registers, Registers.update, Option.or_eq_some_iff] at known
      -- The state takes over what was gathered, for the inverter that holds the lock.
      rcases known with new | ⟨-, old⟩
      · exact held ▸ gathered [] newRegs rfl a v new
      · exact own c.active a v old
    · simp [settle]
    · simp [settle]
  | .writing s [] => exact ⟨own, by simp [settle], by simp [settle]⟩
  | .reading (group :: rest) newRegs => exact waiting
  | .fetching s regs => exact waiting
  | .writing s (next :: left) => exact waiting

theorem sound_start {op : Operation} (idle : c.job = none)
    (own : ∀ i a v, (c.states i).registers a = some v → Known seen (options.modbusId i) a v)
    (held : c.serverId = options.modbusId c.active) : Sound options seen (c.start options op) := by
  cases op with
  | readSensors sensors =>
    apply sound_settle own held
    intro groups newRegs same a v known
    -- A reading starts with nothing gathered.
    cases same
    cases known
  | writeSensor s value =>
    simp only [start]
    split
    · exact ⟨own, by simp [idle], fun _ => held⟩
    · split
      · exact sound_settle own held (by simp)
      · exact sound_settle own held (by simp)

theorem mem_answered {start count a v : Nat} (known : c.answer start count a = some v) :
    .answered c.serverId a v ∈ (List.range' start count).map fun a =>
      Exchange.answered c.serverId a (c.units c.serverId a).toNat := by
  unfold answer at known
  split at known
  case isTrue within =>
    cases known
    exact List.mem_map.mpr ⟨a, by simpa [List.mem_range'_1] using within, rfl⟩
  case isFalse => cases known

theorem sound_step (seen : List Exchange) (c : Connector) (a : ConnectorAction) (c' : Connector)
    (sound : Sound options seen c) (taken : step options c a = some c') :
    Sound options (seen ++ c.observe a) c' := by
  have later := sound.mono (List.subset_append_left seen (c.observe a))
  rcases step_cases taken with ⟨i, op, rfl, idle, rfl⟩ | ⟨r, job, rfl, busy, answered⟩ | ⟨u, ad, v, rfl, rfl⟩
  · exact sound_start idle later.own rfl
  · have held := sound.held (by simp [busy])
    cases progress_of_proceed answered with
    | read group rest newRegs count =>
      apply sound_settle later.own held
      intro groups newRegs' same a v known
      cases same
      simp only [Registers.update, Option.or_eq_some_iff] at known
      -- A register was gathered from this answer, or before.
      rcases known with new | ⟨-, old⟩
      · left
        apply List.mem_append_right
        simpa [observe, busy] using mem_answered new
      · exact later.gathered _ _ busy a v old
    | readFailed group rest newRegs =>
      apply sound_settle later.own held
      intro groups newRegs' same
      cases same
      exact later.gathered _ _ busy
    | fetched s regs count => exact sound_settle later.own held (by simp)
    | unfetched s regs r => exact ⟨later.own, by simp, by simp⟩
    | stored s address value left applied =>
      have noted : Known (seen ++ c.observe (.reply (.returned applied))) c.serverId address value := by
        right
        exact ⟨s, applied, List.mem_append_right _ (by simp [observe, busy])⟩
      apply sound_settle
      · apply own_setState (by simpa using later.own)
        intro a v known
        -- The value that is noted was sent to the unit that the driver is set to.
        by_cases same : a = address
        · subst same
          simp [InverterState.noteWritten] at known
          simpa [known, ← held] using noted
        · simp [InverterState.noteWritten, Function.update_of_ne same] at known
          simpa using later.own c.active a v known
      · simpa [setState] using held
      · simp
    | storeRaised s address value left applied =>
      exact ⟨by simpa using later.own, by simp, by simp⟩
  · exact ⟨later.own, later.gathered, later.held⟩

/-- **No inverter ever holds what another one's unit said.** In every run, over all interleavings of
readings and writes of inverters on one connector and whatever replies fail, each register that an
inverter's state knows was answered by its own unit, or sent to that unit to be stored. -/
theorem registers_from_own_unit (options : ConnectorOptions) (c c' : Connector)
    (acts : List ConnectorAction) (idle : c.job = none)
    (empty : ∀ i a, (c.states i).registers a = none) (run : exec (step options) c acts = some c')
    (i a v : Nat) (known : (c'.states i).registers a = some v) :
    .answered (options.modbusId i) a v ∈ exchanged options c acts ∨
      ∃ s applied, .written (options.modbusId i) s a v applied ∈ exchanged options c acts := by
  -- To begin with, the states know nothing.
  have fresh : Sound options [] c := by
    constructor
    · intro j b w some
      rw [empty j b] at some
      cases some
    · simp [idle]
    · simp [idle]
  have sound := invariant_observed (@sound_step options) fresh run
  simpa [Known, exchanged] using sound.own i a v known

theorem one_lt_word : 1 < 65536 := by decide

/-- The switch "Use Timer" of the single-phase map. -/
def useTimer : Setting where
  address := [248]
  name := "Use Timer"
  bitmask := 1
  discrete := true
  regToValue regs := .bool (regs.headD 0 != 0)
  valueToReg value _ := some [if value = "ON" then 1 else 0]
  nonempty := by simp
  single _ := ⟨248, rfl⟩
  fits := one_lt_word

/-- Two inverters on one connector. -/
def twoInverters : ConnectorOptions := ⟨fun inverter => inverter + 1, 2, 20⟩

def idleConnector : Connector where
  serverId := 0
  active := 0
  states _ := .initial
  units _ _ := 0
  job := none

/-- The second inverter switches its timer on, and the first one tries to. -/
def timersOn : List ConnectorAction := [
  .lock 1 (.writeSensor useTimer "ON"), .reply (.words 1), .reply (.returned true),
  .lock 0 (.writeSensor useTimer "ON"), .reply .failed]

theorem registers_from_own_unit_timers :
    ∃ s applied, .written 2 s 248 1 applied ∈ exchanged twoInverters idleConnector timersOn := by
  have known := registers_from_own_unit twoInverters idleConnector _ timersOn rfl (fun _ _ => rfl) rfl
    1 248 1 rfl
  rcases known with answered | written
  · simp [exchanged, observed, timersOn, step, observe, proceed, settle, lockIo, start, useTimer,
      idleConnector] at answered
  · exact written

end Connector

end HHModbus
