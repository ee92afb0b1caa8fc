import HHModbus.PollTraffic

/-!
# The connection watchdog

`check_connection` with the slave-ID check that runs first in it, `poll_controller`, which
makes the first check before it registers the timers, and `async_stop`. The polls, the write
task, services and other controllers act on the link between any two steps of a check.
-/
namespace HHModbus

open Transition

inductive InverterType where
  | hybrid
  | string
  | grid
  | energy
  | waveshare
  deriving DecidableEq, Repr

/-- Durations are in microseconds. -/
def second : Nat := 1000000

/-- `_ISSUE_AFTER_FAILURES`. -/
def issueAfterFailures : Nat := 5

/-- `_NIGHT_GRACE`. -/
def nightGrace : Nat := 3600 * second

/-- `_SLAVE_PROBE_AFTER`. -/
def slaveProbeAfter : Nat := 60 * second

/-- What is fixed for the lifetime of a `DataRetrieval`. -/
structure RetrievalConfig where
  brand : InverterBrand
  inverterType : InverterType
  connection : Connection
  deviceId : Nat
  entryId : Option String
  suppressNightIssue : Bool
  fastPoll : Nat
  normalPoll : Nat
  slowPoll : Nat
  /-- `sun.is_up` at the home location. -/
  sunIsUp : Int → Bool

/-- `inverter_config.probe_register`: of the configuration classes only that of Solis has it. -/
def RetrievalConfig.probeRegister (c : RetrievalConfig) : Option Nat :=
  match c.brand with
  | .solis => some (if c.inverterType = .grid ∨ c.inverterType = .string then 3041 else 35000)
  | .sunsynk | .givenergy | .sigenergy | .solaredge | .skyline | .duracell => none

def RetrievalConfig.isSerial (c : RetrievalConfig) : Bool :=
  match c.connection with
  | .tcp _ _ => false
  | .serial _ => true

/-- The controller and the `DataRetrieval` as the checks read and change them. -/
structure Retrieval where
  config : RetrievalConfig
  closed : Bool
  /-- `client.connected`. -/
  connected : Bool
  /-- The manager holds the client for another controller too. -/
  clientShared : Bool
  hasAnswered : Bool
  connectFailures : Nat
  lastModbusSuccess : Int
  issueRaised : Option Bool
  slaveIdChecked : Bool
  slaveIdIssueRaised : Bool
  pollingSince : Option Nat
  firstPoll : Bool
  stopping : Bool
  /-- The repair issues `datalogger_unreachable` and `serial_slave_id` of the entry. -/
  unreachableIssue : Bool
  slaveIdIssue : Bool
  /-- `time.monotonic()`. -/
  monotonic : Nat
  /-- `datetime.now(UTC)`. -/
  wall : Int
  /-- The connection and the slave ID of each other controller. -/
  others : List (String × Nat)

/-- Where a run of `check_connection` is suspended. -/
inductive CheckPhase where
  /-- In the `connect` of `async_unit_answers`. -/
  | unitConnect (phase : DialPhase)
  /-- In the read of this register of unit 1. -/
  | unitRead (register : Nat)
  /-- In `modbus_update_all`. -/
  | firstPoll
  /-- In the `connect` of the reconnect loop. -/
  | connecting (phase : DialPhase)
  | sleeping
  deriving DecidableEq, Repr

inductive CheckEnd where
  | returned
  | raised
  | cancelled
  deriving DecidableEq, Repr

/-- What a check does next once it has run as far as it can. -/
inductive CheckNext where
  | waits (phase : CheckPhase)
  | ends (how : CheckEnd)
  deriving DecidableEq, Repr

/-- What a suspended check waits for. -/
inductive CheckEvent where
  /-- The link's `poll_lock`. -/
  | dialLock
  /-- `client.connect()`. -/
  | dialDone (outcome : DialOutcome)
  | unitReply (reply : Reply)
  | polled
  | woken
  deriving DecidableEq, Repr

/-- What goes on around the checks. -/
inductive Outside where
  | link (connected : Bool)
  /-- Another `connect` of this controller, by a service or the write task, ends. -/
  | otherConnect (outcome : DialOutcome)
  /-- A read of this controller is answered. -/
  | answered
  | tick (elapsed : Nat) (wall : Int)
  | controllers (others : List (String × Nat)) (clientShared : Bool)
  | close

namespace Retrieval

def linkIsStale (d : Retrieval) : Bool :=
  let slowest := max d.config.fastPoll (max d.config.normalPoll d.config.slowPoll)
  decide (((max 120 (slowest * 3) * second : Nat) : Int) < d.wall - d.lastModbusSuccess)

def expectedOfflineAtNight (d : Retrieval) : Bool :=
  d.config.suppressNightIssue &&
    !(d.config.sunIsUp (d.wall - nightGrace) && d.config.sunIsUp (d.wall + nightGrace))

def updateConnectionIssue (d : Retrieval) (unreachable : Bool) : Retrieval :=
  if d.config.entryId = none then d
  else if unreachable then
    if d.expectedOfflineAtNight then
      -- Also clears an issue raised before dusk.
      if d.issueRaised = some false then d
      else { d with unreachableIssue := false, issueRaised := some false }
    else { d with unreachableIssue := true, issueRaised := some true }
  else { d with unreachableIssue := false, issueRaised := some false }

/-- Unit 1 is another inverter configured on this bus. -/
def unitOneTaken (d : Retrieval) : Bool :=
  d.others.any fun other => other.1 == d.config.connection.connectionId && other.2 == 1

/-- `_check_serial_slave_id` up to where it asks unit 1, and whether it does. -/
def checkSerialSlaveId (d : Retrieval) : Retrieval × Bool :=
  if d.slaveIdChecked || d.config.entryId.isNone then (d, false)
  else if !d.config.isSerial || d.config.deviceId == 1 || d.hasAnswered then
    ({ d with slaveIdIssue := false, slaveIdChecked := true }, false)
  else if d.unitOneTaken then
    -- Not settled: that entry may be removed later.
    ({ d with slaveIdIssue := false, slaveIdIssueRaised := false }, false)
  else if d.slaveIdIssueRaised then (d, false)
  else (d, d.pollingSince.any fun since => decide (since + slaveProbeAfter ≤ d.monotonic))

/-- What `connect` returns at once, or once it holds the lock; without it the client is asked. -/
def connectedNow (d : Retrieval) : Option Bool :=
  if d.closed then some false
  else if d.connected then some true
  else none

/-- `_try_connect` once `client.connect()` has ended. -/
def tryConnect (d : Retrieval) : DialOutcome → Retrieval × Bool
  | .raised => ({ d with connected := false, connectFailures := d.connectFailures + 1 }, false)
  | .returned up =>
    if d.closed then ({ d with connected := up && d.clientShared }, false)
    else if up then ({ d with connected := true, connectFailures := 0 }, true)
    else
      -- The log line reads `self.port`, which a serial controller lacks, so it counts twice.
      let failures := if d.config.isSerial then 2 else 1
      ({ d with connected := false, connectFailures := d.connectFailures + failures }, false)

/-- Persistent failure, not a single blip. -/
def reportFailures (d : Retrieval) : Retrieval :=
  if issueAfterFailures ≤ d.connectFailures then d.updateConnectionIssue true else d

/-- The reconnect loop after a `connect` that has returned `False`. -/
def retry (d : Retrieval) : Retrieval × CheckNext :=
  let d := d.reportFailures
  if d.stopping then (d, .ends .returned) else (d, .waits .sleeping)

/-- The reconnect loop once `connect` has returned. -/
def reconnected (d : Retrieval) (result : Bool) : Retrieval × CheckNext :=
  if result then (d.updateConnectionIssue false, .ends .returned) else d.retry

/-- The reconnect loop at its head. -/
def reconnect (d : Retrieval) : Retrieval × CheckNext :=
  if d.connected || d.stopping then (d, .ends .returned)
  else
    match d.connectedNow with
    | some result => d.reconnected result
    | none => (d, .waits (.connecting .waiting))

/-- The test for a half-open link. -/
def testLink (d : Retrieval) : Retrieval × CheckNext :=
  if d.linkIsStale then
    -- `force_close`
    reconnect { d.updateConnectionIssue true with connected := false }
  else (d.updateConnectionIssue false, .ends .returned)

/-- `check_connection` once `_check_serial_slave_id` has returned. -/
def afterSlaveId (d : Retrieval) : Retrieval × CheckNext :=
  if d.connected then
    if d.firstPoll then (d, .waits .firstPoll) else d.testLink
  else d.reconnect

/-- `async_unit_answers` once `connect` has returned. -/
def unitConnected (d : Retrieval) (result : Bool) : Retrieval × CheckNext :=
  if result then
    match d.config.probeRegister with
    | some register => (d, .waits (.unitRead register))
    -- `AttributeError`
    | none => (d, .ends .raised)
  else d.afterSlaveId

/-- `_check_serial_slave_id` once unit 1 has been asked. -/
def unitReplied (d : Retrieval) : Reply → Retrieval × CheckNext
  | .values _ => afterSlaveId { d with slaveIdIssueRaised := true, slaveIdIssue := true }
  | .exception _ => d.afterSlaveId
  -- The read has raised and closed the client.
  | .unanswered => afterSlaveId { d with connected := false }

/-- A check that has passed the re-entrancy guard. -/
def startCheck (d : Retrieval) : Retrieval × CheckNext :=
  let (d, asks) := d.checkSerialSlaveId
  if asks then
    match d.connectedNow with
    | some result => d.unitConnected result
    | none => (d, .waits (.unitConnect .waiting))
  else d.afterSlaveId

/-- What a suspended check does when its event happens. -/
def resume (d : Retrieval) : CheckPhase → CheckEvent → Option (Retrieval × CheckNext)
  | .unitConnect .waiting, .dialLock =>
    match d.connectedNow with
    | some result => some (d.unitConnected result)
    | none => some (d, .waits (.unitConnect .opening))
  | .unitConnect .opening, .dialDone outcome =>
    some ((d.tryConnect outcome).1.unitConnected (d.tryConnect outcome).2)
  | .unitRead _, .unitReply reply => some (d.unitReplied reply)
  -- The first poll may end without having been suspended.
  | .firstPoll, .polled => some (testLink { d with firstPoll := false })
  | .connecting .waiting, .dialLock =>
    match d.connectedNow with
    | some result => some (d.reconnected result)
    | none => some (d, .waits (.connecting .opening))
  | .connecting .opening, .dialDone outcome =>
    some ((d.tryConnect outcome).1.reconnected (d.tryConnect outcome).2)
  | .sleeping, .woken => some d.reconnect
  | _, _ => none

def change (d : Retrieval) : Outside → Retrieval
  | .link connected => { d with connected }
  | .otherConnect outcome => (d.tryConnect outcome).1
  | .answered => { d with lastModbusSuccess := d.wall, hasAnswered := true }
  | .tick elapsed wall => { d with monotonic := d.monotonic + elapsed, wall }
  | .controllers others clientShared => { d with others, clientShared }
  | .close => { d with closed := true, connected := d.connected && d.clientShared }

end Retrieval

/-- Who runs a check. -/
inductive CheckOwner where
  | pollController
  | timer
  deriving DecidableEq, Repr

structure Check where
  owner : CheckOwner
  phase : CheckPhase
  deriving DecidableEq, Repr

/-- `poll_controller`: its listener or its task, and its first check. -/
inductive PollRun where
  | waitingForStarted
  | created
  | checking (asTask : Bool)
  | over
  deriving DecidableEq, Repr

inductive IntervalListener where
  | checkConnection
  | updateFast
  | updateNormal
  | updateSlow
  deriving DecidableEq, Repr

structure Watchdog where
  data : Retrieval
  connectionCheck : Bool
  checks : Nat → Option Check
  nextCheck : Nat
  /-- How the checks that have passed the re-entrancy guard have ended so far. -/
  ends : List CheckEnd
  pollRun : PollRun
  listeners : List IntervalListener
  /-- The `process_write_queue` task is running. -/
  writeTask : Bool

/-- What a `DataRetrieval` finds when it is created; issues of its entry may have survived. -/
structure RetrievalStart where
  config : RetrievalConfig
  connected : Bool
  clientShared : Bool := false
  monotonic : Nat := 0
  wall : Int := 0
  others : List (String × Nat) := []
  unreachableIssue : Bool := false
  slaveIdIssue : Bool := false
  /-- `hass.is_running`. -/
  isRunning : Bool

inductive WatchdogAction where
  /-- The task of `poll_controller` starts. -/
  | begin
  | haStarted
  /-- The timer of `check_connection`. -/
  | fire
  | goOn (i : Nat) (event : CheckEvent)
  | outside (event : Outside)
  | stop

namespace Watchdog

/-- A `DataRetrieval` that has just been created. -/
def start (init : RetrievalStart) : Watchdog where
  data :=
    { config := init.config, closed := false, connected := init.connected
      clientShared := init.clientShared, hasAnswered := false, connectFailures := 0
      lastModbusSuccess := init.wall, issueRaised := none, slaveIdChecked := false
      slaveIdIssueRaised := false, pollingSince := none, firstPoll := true, stopping := false
      unreachableIssue := init.unreachableIssue && init.config.entryId.isSome
      slaveIdIssue := init.slaveIdIssue && init.config.entryId.isSome
      monotonic := init.monotonic, wall := init.wall, others := init.others }
  connectionCheck := false
  checks _ := none
  nextCheck := 0
  ends := []
  pollRun := if init.isRunning then .created else .waitingForStarted
  listeners := []
  writeTask := false

/-- `poll_controller` once its check has ended. -/
def checked (s : Watchdog) (owner : CheckOwner) (how : CheckEnd) : Watchdog :=
  match owner, how with
  | .timer, _ => s
  | .pollController, .returned =>
    { s with
      listeners := s.listeners ++ [.checkConnection, .updateFast, .updateNormal, .updateSlow]
      writeTask := true
      pollRun := .over }
  | .pollController, _ => { s with pollRun := .over }

/-- A check has run as far as it can. -/
def settle (s : Watchdog) (i : Nat) (owner : CheckOwner) (result : Retrieval × CheckNext) : Watchdog :=
  match result.2 with
  | .waits phase =>
    { s with data := result.1, checks := Function.update s.checks i (some ⟨owner, phase⟩) }
  | .ends how =>
    checked
      { s with
        data := result.1
        checks := Function.update s.checks i none
        -- `finally`
        connectionCheck := false
        ends := s.ends ++ [how] } owner how

def checkConnection (s : Watchdog) (owner : CheckOwner) : Watchdog :=
  if s.connectionCheck then s.checked owner .returned
  else
    settle { s with connectionCheck := true, nextCheck := s.nextCheck + 1 } s.nextCheck owner
      s.data.startCheck

def pollController (s : Watchdog) (asTask : Bool) : Watchdog :=
  checkConnection
    { s with
      data := { s.data with pollingSince := some s.data.monotonic }
      pollRun := .checking asTask } .pollController

/-- `async_stop`, which cancels `poll_controller` only if it runs as its own task. -/
def stop (s : Watchdog) : Watchdog :=
  let data := ({ s.data with stopping := true } : Retrieval).updateConnectionIssue false
  let cancels := s.pollRun = .checking true
  { s with
    data := if s.data.config.entryId.isSome then { data with slaveIdIssue := false } else data
    connectionCheck := false
    checks := fun i =>
      if cancels then (s.checks i).filter fun c => c.owner = .timer else s.checks i
    ends := if cancels then s.ends ++ [.cancelled] else s.ends
    pollRun := if s.pollRun = .checking false then .checking false else .over
    listeners := []
    writeTask := false }

def step (s : Watchdog) : WatchdogAction → Option Watchdog
  | .begin => if s.pollRun = .created then some (s.pollController true) else none
  | .haStarted => if s.pollRun = .waitingForStarted then some (s.pollController false) else none
  | .fire => if .checkConnection ∈ s.listeners then some (s.checkConnection .timer) else none
  | .goOn i event =>
    match s.checks i with
    | some c => (s.data.resume c.phase event).map (s.settle i c.owner)
    | none => none
  | .outside event => some { s with data := s.data.change event }
  | .stop => some s.stop

/-- What each action needs and does, as a relation. -/
inductive Stepped (s : Watchdog) : WatchdogAction → Watchdog → Prop where
  | begin (created : s.pollRun = .created) : Stepped s .begin (s.pollController true)
  | haStarted (waiting : s.pollRun = .waitingForStarted) :
    Stepped s .haStarted (s.pollController false)
  | fire (registered : .checkConnection ∈ s.listeners) :
    Stepped s .fire (s.checkConnection .timer)
  | goOn (i : Nat) (event : CheckEvent) (c : Check) (r : Retrieval × CheckNext)
      (present : s.checks i = some c) (resumes : s.data.resume c.phase event = some r) :
    Stepped s (.goOn i event) (s.settle i c.owner r)
  | outside (event : Outside) : Stepped s (.outside event) { s with data := s.data.change event }
  | stop : Stepped s .stop s.stop

theorem stepped (s : Watchdog) (a : WatchdogAction) (t : Watchdog) (h : s.step a = some t) :
    Stepped s a t := by
  cases a with
  | begin =>
    simp only [step, Option.ite_none_right_eq_some] at h
    obtain ⟨created, h⟩ := h
    cases h
    exact .begin created
  | haStarted =>
    simp only [step, Option.ite_none_right_eq_some] at h
    obtain ⟨waiting, h⟩ := h
    cases h
    exact .haStarted waiting
  | fire =>
    simp only [step, Option.ite_none_right_eq_some] at h
    obtain ⟨registered, h⟩ := h
    cases h
    exact .fire registered
  | goOn i event =>
    simp only [step] at h
    split at h
    next c present =>
      obtain ⟨r, resumes, rfl⟩ := Option.map_eq_some_iff.mp h
      exact .goOn i event c r present resumes
    next => cases h
  | outside event =>
    cases h
    exact .outside event
  | stop =>
    cases h
    exact .stop

end Watchdog

end HHModbus
