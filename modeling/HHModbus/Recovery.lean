import HHModbus.SensorGroup

/-!
# Recovery after a rejected block read

`_recover_sensor_group_after_modbus_failure` bisects a block for one bad register, disables
the sensors on it, rebuilds the group from the others and reads the new groups, recovering
those that are rejected in turn. What the link and the inverter do is a parameter: it
may change with every attempt.
-/
namespace HHModbus

/-- What the client makes of a request: registers, a Modbus exception, or neither. -/
inductive Reply where
  | values (registers : List Nat)
  | exception (code : Nat)
  | unanswered
  deriving DecidableEq, Repr

/-- The environment at each attempt to read, counted from 0. -/
structure ModbusLink where
  canPoll : Nat → Bool
  connects : Nat → Bool
  reply : (attempt start count : Nat) → (isHolding : Bool) → Reply

/-- A link that stays up to an inverter with these values at each attempt: a block with a
rejected register gets exception 2, any other its registers. -/
def ModbusLink.up (rejects : Nat → Bool) (value : (attempt register : Nat) → Nat) : ModbusLink where
  canPoll _ := true
  connects _ := true
  reply attempt start count _ :=
    if (List.range' start count).any rejects then .exception 2
    else .values ((List.range' start count).map (value attempt))

/-- A link that is lost: every request fails and the polls stop. -/
def ModbusLink.lost : ModbusLink := ⟨fun _ => false, fun _ => false, fun _ _ _ _ => .unanswered⟩

/-- `RECOVERABLE_REGISTER_READ_EXCEPTIONS`. -/
def recoverable (code : Nat) : Bool := code == 2 || code == 3

/-- A request of the bisection, with the group it was made for. -/
structure Probe where
  group : SensorGroup
  start : Nat
  count : Nat
  reply : Reply
  deriving DecidableEq

/-- `_MAX_REGISTER_RECOVERY_DEPTH`. -/
def maxRegisterRecoveryDepth : Nat := 24

structure Recovery where
  /-- `controller._sensor_groups`. -/
  groups : List SensorGroup
  enabled : Nat → Bool
  nextGroup : Nat
  attempts : Nat
  /-- The probes made so far. -/
  probes : List Probe
  /-- The sensors whose `enabled` has been set to `False` so far. -/
  switchedOff : List BaseSensor

/-- The registers that were read, or the code of the exception, or neither. -/
abbrev ReadResult := Option (List Nat) × Option Nat

def Reply.result : Reply → ReadResult
  | values registers => (some registers, none)
  | exception code => (none, some code)
  | unanswered => (none, none)

/-- What `_probe_register_block_quiet` makes of a reply. -/
def Reply.covers (reply : Reply) (count : Nat) : Bool :=
  match reply with
  | values registers => registers.length == count
  | _ => false

namespace Recovery

variable (link : ModbusLink) (isHolding : Bool)

def start (groups : List SensorGroup) (enabled : Nat → Bool) (nextGroup : Nat) : Recovery :=
  ⟨groups, enabled, nextGroup, 0, [], []⟩

/-- An attempt to read has been made. -/
def attempted (s : Recovery) : Recovery := { s with attempts := s.attempts + 1 }

/-- `_read_register_block_with_exception`. -/
def readRegisterBlockWithException (s : Recovery) (g : SensorGroup) : Recovery × ReadResult :=
  if link.canPoll s.attempts && link.connects s.attempts then
    (s.attempted, (link.reply s.attempts g.startRegister g.registrarCount isHolding).result)
  else (s.attempted, (none, none))

/-- `_probe_register_block_quiet`, which neither checks the link nor reconnects. -/
def probeRegisterBlockQuiet (s : Recovery) (g : SensorGroup) (start count : Nat) : Recovery × Bool :=
  if count = 0 then (s, true)
  else
    let reply := link.reply s.attempts start count isHolding
    ({ s with attempts := s.attempts + 1, probes := s.probes ++ [⟨g, start, count, reply⟩] },
      reply.covers count)

/-- The last loop of `_async_isolate_one_bad_register`: each register on its own. -/
def probeEach (s : Recovery) (g : SensorGroup) : List Nat → Recovery × Option Nat
  | [] => (s, none)
  | r :: rest =>
    match s.probeRegisterBlockQuiet link isHolding g r 1 with
    | (next, true) => probeEach next g rest
    | (next, false) => (next, some r)

/-- `_async_isolate_one_bad_register`. The halves are shorter than the block, so `count`
rounds are enough. -/
def isolateOneBadRegister (g : SensorGroup) : (rounds start count : Nat) → Recovery → Recovery × Option Nat
  | 0, _, _, s => (s, none)
  | rounds + 1, start, count, s =>
    if count = 0 then (s, none)
    else if count = 1 then (s, some start)
    else
      -- The left half is the shorter one when the count is odd.
      let mid := if count / 2 < 1 then 1 else count / 2
      match s.probeRegisterBlockQuiet link isHolding g start mid with
      | (left, false) => isolateOneBadRegister g rounds start mid left
      | (left, true) =>
        match left.probeRegisterBlockQuiet link isHolding g (start + mid) (count - mid) with
        | (right, false) => isolateOneBadRegister g rounds (start + mid) (count - mid) right
        -- Both halves are answered, so only the block as a whole is rejected.
        | (right, true) => right.probeEach link isHolding g (List.range' start count)

def disable (s : Recovery) (sensors : List BaseSensor) : Recovery :=
  { s with
    enabled := fun id => s.enabled id && !(sensors.any fun sensor => sensor.id == id)
    switchedOff := s.switchedOff ++ sensors }

/-- One group for each cluster, as new objects. -/
def newGroups (s : Recovery) (g : SensorGroup) (clusters : List (List BaseSensor)) : List SensorGroup :=
  (clusters.zipIdx s.nextGroup).map fun c =>
    SensorGroup.fromSensors c.2 c.1 g.pollSpeed g.identification (some g.registerType)

/-- `replace_sensor_group`: at the index of the old group, if the controller has it. -/
def replaceSensorGroup (s : Recovery) (old : SensorGroup) (new : List SensorGroup) : Recovery :=
  match s.groups.findIdx? fun g => g.id == old.id with
  | some idx => { s with groups := s.groups.take idx ++ new ++ s.groups.drop (idx + 1) }
  | none => s

/-- Read one of the new groups; `nested` recovers it if it is rejected. -/
def readNewGroup (nested : SensorGroup → Recovery → Recovery × List (SensorGroup × List Nat))
    (s : Recovery) (g : SensorGroup) : Recovery × List (SensorGroup × List Nat) :=
  match s.readRegisterBlockWithException link isHolding g with
  | (read, vals, exc) =>
    match vals.filter fun v => v.length == g.registrarCount with
    | some v => (read, [(g, v)])
    -- Only an exception the inverter sent leads to another recovery.
    | none => if exc.any recoverable then nested g read else (read, [])

/-- The loop over the new groups. -/
def readNewGroups (nested : SensorGroup → Recovery → Recovery × List (SensorGroup × List Nat)) :
    List SensorGroup → Recovery → Recovery × List (SensorGroup × List Nat)
  | [], s => (s, [])
  | g :: rest, s =>
    let first := s.readNewGroup link isHolding nested g
    let others := readNewGroups nested rest first.1
    (others.1, first.2 ++ others.2)

/-- `_recover_sensor_group_after_modbus_failure`, `depthLeft` calls before the depth limit.
The empty list stands for `None`. -/
def recover : (depthLeft : Nat) → SensorGroup → Recovery → Recovery × List (SensorGroup × List Nat)
  | 0, _, s => (s, [])
  | depthLeft + 1, g, s =>
    match isolateOneBadRegister link isHolding g g.registrarCount g.startRegister g.registrarCount s with
    | (isolated, none) => (isolated, [])
    | (isolated, some bad) =>
      -- From here on the register counts as bad, whatever made the probes fail.
      let disabledSensors := g.sensors.filter fun sensor => bad ∈ sensor.registrars
      let remaining := g.sensors.filter fun sensor => bad ∉ sensor.registrars
      let disabled := isolated.disable disabledSensors
      let clusters := clusterSensors disabled.enabled remaining
      let groups := disabled.newGroups g clusters
      let replaced :=
        { disabled with nextGroup := disabled.nextGroup + groups.length }.replaceSensorGroup g groups
      readNewGroups link isHolding (recover depthLeft) groups replaced

/-- The call that `get_modbus_updates` makes: depth 0, one above the limit aborts. -/
def recoverSensorGroup (s : Recovery) (g : SensorGroup) : Recovery × List (SensorGroup × List Nat) :=
  recover link isHolding (maxRegisterRecoveryDepth + 1) g s

/-- What the read of a new group leads to: its registers, a nested recovery after a
recoverable exception, or nothing. -/
theorem readNewGroup_cases (nested : SensorGroup → Recovery → Recovery × List (SensorGroup × List Nat))
    (s : Recovery) (g : SensorGroup) :
    (∃ v, link.reply s.attempts g.startRegister g.registrarCount isHolding = .values v ∧
      s.readNewGroup link isHolding nested g = (s.attempted, [(g, v)])) ∨
    (∃ code, link.reply s.attempts g.startRegister g.registrarCount isHolding = .exception code ∧
      recoverable code = true ∧ s.readNewGroup link isHolding nested g = nested g s.attempted) ∨
    s.readNewGroup link isHolding nested g = (s.attempted, []) := by
  unfold readNewGroup readRegisterBlockWithException
  cases link.canPoll s.attempts && link.connects s.attempts with
  | false => exact .inr (.inr rfl)
  | true =>
    cases reply : link.reply s.attempts g.startRegister g.registrarCount isHolding with
    | values v =>
      -- A reply of the wrong length is neither used nor followed by a recovery.
      by_cases full : v.length = g.registrarCount
      · exact .inl ⟨v, rfl, by simp [Reply.result, Option.filter, full]⟩
      · exact .inr (.inr (by simp [Reply.result, Option.filter, full]))
    | exception code =>
      cases recovers : recoverable code with
      | true => exact .inr (.inl ⟨code, rfl, recovers, by simp [Reply.result, recovers]⟩)
      | false => exact .inr (.inr (by simp [Reply.result, recovers]))
    | unanswered => exact .inr (.inr rfl)

end Recovery

end HHModbus
