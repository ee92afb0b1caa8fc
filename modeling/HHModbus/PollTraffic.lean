import Mathlib.Data.Finset.Image
import HHModbus.ClientManager
import HHModbus.LinkLoss
import HHModbus.PollProgram

/-!
# Polls, writes and connects of one controller on a shared link

The poll batches of a `DataRetrieval`, the write-queue task and every call of `connect`, with
the locks they wait for, while timers fire, services queue writes, the link comes and goes,
other controllers share it, and the connection is disabled, stopped or closed.
-/
namespace HHModbus

open Transition Cooperative RefCount

/-- Where a call of `connect` is suspended. -/
inductive DialPhase where
  /-- It waits for the link's `poll_lock`. -/
  | waiting
  /-- It is in `client.connect()` and holds the lock. -/
  | opening
  deriving DecidableEq, Repr

/-- Where a poll batch is suspended. -/
inductive BatchPhase where
  /-- It waits for `DataRetrieval.poll_lock`. -/
  | queued (groups : List SensorGroup)
  | dialing (phase : DialPhase) (k : Bool → Poll Unit)
  /-- A read waits for the link's `poll_lock`. -/
  | asking (q : ReadRequest) (k : Reply → Poll Unit)
  /-- It holds that lock and sleeps in `inter_frame_wait`. -/
  | holding (q : ReadRequest) (k : Reply → Poll Unit)
  /-- The client has been asked. -/
  | sent (q : ReadRequest) (k : Reply → Poll Unit)

/-- A run of `get_modbus_updates`; `inPollTask` if it runs in the task of `poll_controller`. -/
structure Batch where
  speed : PollSpeed
  /-- `group_hash`. -/
  groupHash : Finset Nat
  inPollTask : Bool
  phase : BatchPhase

/-- A call of `connect` by the watchdog or a service. -/
structure ConnectCall where
  inPollTask : Bool
  phase : DialPhase
  deriving DecidableEq, Repr

inductive Dialer where
  | batch (i : Nat)
  | call (j : Nat)
  deriving DecidableEq, Repr

/-- Who holds the link's `poll_lock`. -/
inductive LinkHolder where
  | free
  | batch (i : Nat)
  | writer
  | dialer (d : Dialer)
  /-- A request of the watchdog or a service, or another controller. -/
  | other
  deriving DecidableEq, Repr

/-- `poll_controller`, which starts the write task when its first check has ended. -/
inductive Startup where
  | waitingForStarted
  | running (asTask : Bool)
  | over
  deriving DecidableEq, Repr

/-- Only the block writer calls `_safe_close` when its client call raises. -/
def raisingCloses : WriteRequest → Bool
  | .multiple _ _ => true
  | .single _ _ => false

/-- What the polls and the write task hand to the client. -/
inductive DeviceRequest where
  | read (q : ReadRequest)
  | write (w : WriteRequest)
  deriving DecidableEq, Repr

inductive DialOutcome where
  | returned (connected : Bool)
  | raised
  deriving DecidableEq, Repr

structure PollTraffic where
  connectionId : String
  client : Nat
  /-- The groups and the `enabled` flags of the sensors. -/
  data : Recovery
  stopping : Bool
  enabled : Bool
  closed : Bool
  /-- `client.connected`. -/
  connected : Bool
  manager : ClientManager
  /-- The other controllers that hold a reference for the link. -/
  others : Nat
  pollLock : Option Nat
  linkLock : LinkHolder
  batches : Nat → Option Batch
  nextBatch : Nat
  calls : Nat → Option ConnectCall
  nextCall : Nat
  startup : Startup
  writer : Option WriterPhase
  queue : List WriteRequest
  /-- The calls of `client.connect()` so far. -/
  dialed : List Dialer
  /-- What the calls of `connect` have returned. -/
  returned : List Bool
  /-- What has been handed to the client, and whether the client was connected then. -/
  handed : List (DeviceRequest × Bool)

inductive TrafficAction where
  | fire (speed : PollSpeed) (inPollTask : Bool)
  | begin (i : Nat)
  | takeLink (i : Nat)
  | sendRead (i : Nat)
  | answer (i : Nat) (reply : Reply)
  | call (inPollTask : Bool)
  | dialLock (d : Dialer)
  | dialDone (d : Dialer) (outcome : DialOutcome)
  | otherTakes
  | otherDone (connected : Bool)
  | put (w : WriteRequest)
  | get
  | checkLink
  | writerTakes
  | writerSends
  | writerDone (raised : Bool)
  | haStarted
  | ready
  | link (connected : Bool)
  | disable
  | enable
  | stop
  | close
  | otherOpens
  | otherCloses

namespace PollTraffic

/-- A controller that has just been set up. -/
def start (connectionId : String) (groups : List SensorGroup) (enabledSensors : Nat → Bool)
    (nextGroup : Nat) (connected isRunning : Bool) : PollTraffic :=
  let (manager, client) := (Registry.empty : ClientManager).acquire connectionId
  { connectionId, client, data := Recovery.start groups enabledSensors nextGroup
    stopping := false, enabled := true, closed := false, connected, manager, others := 0
    pollLock := none, linkLock := .free, batches := fun _ => none, nextBatch := 0
    calls := fun _ => none, nextCall := 0
    startup := if isRunning then .running true else .waitingForStarted
    writer := none, queue := [], dialed := [], returned := [], handed := [] }

/-- `_can_poll`. -/
def canPoll (s : PollTraffic) : Bool := !s.stopping && s.enabled && s.connected

/-- The groups that `modbus_update_fast`, `_normal` and `_slow` poll. -/
def groupsOf (s : PollTraffic) (speed : PollSpeed) : List SensorGroup :=
  s.data.groups.filter fun g =>
    match speed with
    | .normal => g.pollSpeed = .normal || g.pollSpeed = .once
    | _ => g.pollSpeed = speed

/-- `group_hash in self.poll_updating[speed]`: each batch keeps its own entry until it ends. -/
def updating (s : PollTraffic) (speed : PollSpeed) (groupHash : Finset Nat) : Bool :=
  (List.range s.nextBatch).any fun i =>
    (s.batches i).any fun b => b.speed == speed && b.groupHash == groupHash

/-- A call of `connect` ends. -/
def returns (s : PollTraffic) (result : Bool) : PollTraffic :=
  { s with returned := s.returned ++ [result] }

def suspend (s : PollTraffic) (i : Nat) (b : Batch) (phase : BatchPhase) : PollTraffic :=
  { s with batches := Function.update s.batches i (some { b with phase }) }

/-- Run the program of a batch up to where it next waits, or to its end. -/
def advance (i : Nat) (b : Batch) : Poll Unit → PollTraffic → PollTraffic
  | .done _, s => { s with batches := Function.update s.batches i none, pollLock := none }
  | .atomic f k, s => advance i b (k (f s.data)) { s with data := f s.data }
  | .test k, s => advance i b (k s.canPoll) s
  | .dial k, s =>
    if s.closed then advance i b (k false) (s.returns false)
    else if s.connected then advance i b (k true) (s.returns true)
    else s.suspend i b (.dialing .waiting k)
  | .request q k, s => s.suspend i b (.asking q k)

/-- A dialler goes on with the result of its `connect`. -/
def resume (s : PollTraffic) (d : Dialer) (result : Bool) : PollTraffic :=
  match d with
  | .call j => { s.returns result with calls := Function.update s.calls j none }
  | .batch i =>
    match s.batches i with
    | some ⟨speed, hash, inPollTask, .dialing _ k⟩ =>
      advance i ⟨speed, hash, inPollTask, .dialing .opening k⟩ (k result) (s.returns result)
    | _ => s

def dialPhase (s : PollTraffic) : Dialer → Option DialPhase
  | .call j => (s.calls j).map ConnectCall.phase
  | .batch i =>
    match s.batches i with
    | some ⟨_, _, _, .dialing phase _⟩ => some phase
    | _ => none

/-- The dialler has the lock and calls `client.connect()`. -/
def opens (s : PollTraffic) (d : Dialer) : PollTraffic :=
  let locked := { s with linkLock := .dialer d, dialed := s.dialed ++ [d] }
  match d with
  | .call j =>
    { locked with calls := Function.update s.calls j ((s.calls j).map fun c => { c with phase := .opening }) }
  | .batch i =>
    match s.batches i with
    | some ⟨speed, hash, inPollTask, .dialing _ k⟩ =>
      { locked with
        batches := Function.update s.batches i (some ⟨speed, hash, inPollTask, .dialing .opening k⟩) }
    | _ => locked

/-- The manager's entry for the link is this controller's client. -/
def managerHolds (s : PollTraffic) : Bool :=
  (s.manager.entries s.connectionId).any fun e => e.resource == s.client

/-- A release of the link's last reference closes the client, if it is this one. -/
def closedByRelease (s : PollTraffic) : Bool :=
  (s.manager.entries s.connectionId).any fun e => e.count - 1 == 0 && e.resource == s.client

def releaseClient (s : PollTraffic) : PollTraffic :=
  { s with
    manager := s.manager.releaseClient s.connectionId
    connected := s.connected && !s.closedByRelease }

/-- How `client.connect()` leaves the client, and what `_try_connect` returns. -/
def tryConnect (s : PollTraffic) : DialOutcome → Bool × Bool
  -- `_safe_close`
  | .raised => (false, false)
  | .returned up =>
    -- `close_if_released`
    if s.closed then (up && s.managerHolds, false) else (up, up)

/-- `async_stop` cancels the task of `poll_controller`, if it is one, and the write task. -/
def stop (s : PollTraffic) : PollTraffic :=
  let batches i := (s.batches i).filter fun b => !b.inPollTask
  let calls j := (s.calls j).filter fun c => !c.inPollTask
  { s with
    stopping := true
    batches
    calls
    writer := none
    pollLock := s.pollLock.filter fun i => (batches i).isSome
    -- A cancelled task gives the lock back.
    linkLock :=
      match s.linkLock with
      | .batch i | .dialer (.batch i) => if (batches i).isSome then s.linkLock else .free
      | .dialer (.call j) => if (calls j).isSome then s.linkLock else .free
      | .writer => .free
      | holder => holder
    startup :=
      match s.startup with
      -- The listener for the start of Home Assistant is removed, but one that runs goes on.
      | .running false => .running false
      | _ => .over }

def step (s : PollTraffic) : TrafficAction → Option PollTraffic
  | .fire speed inPollTask =>
    let groups := s.groupsOf speed
    let groupHash := (groups.map SensorGroup.startRegister).toFinset
    if speed = .once ∨ speed = .startup ∨ (inPollTask ∧ s.startup ≠ .running true) then none
    else if !s.canPoll || s.updating speed groupHash then some s
    else some
      { s with
        batches := Function.update s.batches s.nextBatch
          (some ⟨speed, groupHash, inPollTask, .queued groups⟩)
        nextBatch := s.nextBatch + 1 }
  | .begin i =>
    match s.batches i, s.pollLock with
    | some ⟨speed, hash, inPollTask, .queued groups⟩, none =>
      some (advance i ⟨speed, hash, inPollTask, .queued groups⟩ (Poll.updateGroups groups [])
        { s with pollLock := some i })
    | _, _ => none
  | .takeLink i =>
    match s.batches i, s.linkLock with
    | some ⟨speed, hash, inPollTask, .asking q k⟩, .free =>
      some { s with
        batches := Function.update s.batches i (some ⟨speed, hash, inPollTask, .holding q k⟩)
        linkLock := .batch i }
    | _, _ => none
  | .sendRead i =>
    match s.batches i with
    | some ⟨speed, hash, inPollTask, .holding q k⟩ =>
      some { s with
        batches := Function.update s.batches i (some ⟨speed, hash, inPollTask, .sent q k⟩)
        handed := s.handed ++ [(.read q, s.connected)] }
    | _ => none
  | .answer i reply =>
    match s.batches i with
    | some ⟨speed, hash, inPollTask, .sent q k⟩ =>
      -- A read that raises closes the client.
      some (advance i ⟨speed, hash, inPollTask, .sent q k⟩ (k reply)
        { s with linkLock := .free, connected := s.connected && reply != .unanswered })
    | _ => none
  | .call inPollTask =>
    if inPollTask ∧ s.startup ≠ .running true then none
    else if s.closed then some (s.returns false)
    else if s.connected then some (s.returns true)
    else some { s with
      calls := Function.update s.calls s.nextCall (some ⟨inPollTask, .waiting⟩)
      nextCall := s.nextCall + 1 }
  | .dialLock d =>
    match s.dialPhase d, s.linkLock with
    | some .waiting, .free =>
      if s.closed then some (s.resume d false)
      else if s.connected then some (s.resume d true)
      else some (s.opens d)
    | _, _ => none
  | .dialDone d outcome =>
    match s.dialPhase d with
    | some .opening =>
      let (connected, result) := s.tryConnect outcome
      some ({ s with linkLock := .free, connected }.resume d result)
    | _ => none
  | .otherTakes => if s.linkLock = .free then some { s with linkLock := .other } else none
  | .otherDone connected =>
    if s.linkLock = .other then some { s with linkLock := .free, connected } else none
  | .put w => some { s with queue := s.queue ++ [w] }
  | .get =>
    match s.writer, s.queue with
    | some .idle, w :: rest => some { s with queue := rest, writer := some (.waiting w) }
    | _, _ => none
  | .checkLink =>
    match s.writer with
    | some (.waiting w) =>
      -- Nothing runs between this check and the one in `connect`.
      if s.connected then some { s.returns (!s.closed) with writer := some (.armed w) } else some s
    | _ => none
  | .writerTakes =>
    match s.writer, s.linkLock with
    | some (.armed w), .free => some { s with writer := some (.holding w), linkLock := .writer }
    | _, _ => none
  | .writerSends =>
    match s.writer with
    | some (.holding w) =>
      some { s with writer := some (.sent w), handed := s.handed ++ [(.write w, s.connected)] }
    | _ => none
  | .writerDone raised =>
    match s.writer with
    | some (.sent w) =>
      some { s with
        writer := some .idle
        linkLock := .free
        connected := s.connected && !(raised && raisingCloses w) }
    | _ => none
  | .haStarted =>
    if s.startup = .waitingForStarted then some { s with startup := .running false } else none
  | .ready =>
    match s.startup with
    | .running _ => some { s with startup := .over, writer := some .idle }
    | _ => none
  | .link connected => some { s with connected }
  | .disable => some { s with enabled := false }
  | .enable => some { s with enabled := true }
  | .stop => some s.stop
  | .close => if s.closed then none else some { s.releaseClient with closed := true }
  | .otherOpens =>
    some { s with manager := (s.manager.acquire s.connectionId).1, others := s.others + 1 }
  | .otherCloses => if s.others = 0 then none else some { s.releaseClient with others := s.others - 1 }

/-- What each action needs and does, as a relation. -/
inductive Stepped (s : PollTraffic) : TrafficAction → PollTraffic → Prop where
  | skipped (speed : PollSpeed) (inPollTask : Bool) : Stepped s (.fire speed inPollTask) s
  | fired (speed : PollSpeed) (inPollTask : Bool) (b : Batch) (groups : List SensorGroup)
      (phase : b.phase = .queued groups) (open_ : s.canPoll = true) :
    Stepped s (.fire speed inPollTask)
      { s with batches := Function.update s.batches s.nextBatch (some b), nextBatch := s.nextBatch + 1 }
  | begin (i : Nat) (b : Batch) (groups : List SensorGroup) (present : s.batches i = some b)
      (phase : b.phase = .queued groups) :
    Stepped s (.begin i) (advance i b (Poll.updateGroups groups []) { s with pollLock := some i })
  | takeLink (i : Nat) (b : Batch) (q : ReadRequest) (k : Reply → Poll Unit)
      (present : s.batches i = some b) (phase : b.phase = .asking q k) (free : s.linkLock = .free) :
    Stepped s (.takeLink i)
      { s with
        batches := Function.update s.batches i (some { b with phase := .holding q k })
        linkLock := .batch i }
  | sendRead (i : Nat) (b : Batch) (q : ReadRequest) (k : Reply → Poll Unit)
      (present : s.batches i = some b) (phase : b.phase = .holding q k) :
    Stepped s (.sendRead i)
      { s with
        batches := Function.update s.batches i (some { b with phase := .sent q k })
        handed := s.handed ++ [(.read q, s.connected)] }
  | answer (i : Nat) (b : Batch) (q : ReadRequest) (k : Reply → Poll Unit) (reply : Reply)
      (present : s.batches i = some b) (phase : b.phase = .sent q k) :
    Stepped s (.answer i reply)
      (advance i b (k reply)
        { s with linkLock := .free, connected := s.connected && reply != .unanswered })
  | called (inPollTask : Bool) : Stepped s (.call inPollTask) (s.returns !s.closed)
  | dials (inPollTask : Bool) :
    Stepped s (.call inPollTask)
      { s with
        calls := Function.update s.calls s.nextCall (some ⟨inPollTask, .waiting⟩)
        nextCall := s.nextCall + 1 }
  | dialReturns (d : Dialer) (phase : s.dialPhase d = some .waiting) (free : s.linkLock = .free) :
    Stepped s (.dialLock d) (s.resume d !s.closed)
  | dialOpens (d : Dialer) (phase : s.dialPhase d = some .waiting) (free : s.linkLock = .free)
      (open_ : s.closed = false) : Stepped s (.dialLock d) (s.opens d)
  | dialDone (d : Dialer) (outcome : DialOutcome) (phase : s.dialPhase d = some .opening) :
    Stepped s (.dialDone d outcome)
      ({ s with linkLock := .free, connected := (s.tryConnect outcome).1 }.resume d
        (s.tryConnect outcome).2)
  | otherTakes (free : s.linkLock = .free) : Stepped s .otherTakes { s with linkLock := .other }
  | otherDone (connected : Bool) (held : s.linkLock = .other) :
    Stepped s (.otherDone connected) { s with linkLock := .free, connected }
  | put (w : WriteRequest) : Stepped s (.put w) { s with queue := s.queue ++ [w] }
  | get (w : WriteRequest) (rest : List WriteRequest) (idle : s.writer = some .idle) :
    Stepped s .get { s with queue := rest, writer := some (.waiting w) }
  | checkUp (w : WriteRequest) (waiting : s.writer = some (.waiting w)) (up : s.connected = true) :
    Stepped s .checkLink { s.returns (!s.closed) with writer := some (.armed w) }
  | checkDown (w : WriteRequest) (waiting : s.writer = some (.waiting w)) (down : s.connected = false) :
    Stepped s .checkLink s
  | writerTakes (w : WriteRequest) (armed : s.writer = some (.armed w)) (free : s.linkLock = .free) :
    Stepped s .writerTakes { s with writer := some (.holding w), linkLock := .writer }
  | writerSends (w : WriteRequest) (holding : s.writer = some (.holding w)) :
    Stepped s .writerSends
      { s with writer := some (.sent w), handed := s.handed ++ [(.write w, s.connected)] }
  | writerDone (w : WriteRequest) (raised : Bool) (sent : s.writer = some (.sent w)) :
    Stepped s (.writerDone raised)
      { s with
        writer := some .idle
        linkLock := .free
        connected := s.connected && !(raised && raisingCloses w) }
  | haStarted (waiting : s.startup = .waitingForStarted) :
    Stepped s .haStarted { s with startup := .running false }
  | ready (asTask : Bool) (running : s.startup = .running asTask) :
    Stepped s .ready { s with startup := .over, writer := some .idle }
  | link (connected : Bool) : Stepped s (.link connected) { s with connected }
  | disable : Stepped s .disable { s with enabled := false }
  | enable : Stepped s .enable { s with enabled := true }
  | stop : Stepped s .stop s.stop
  | close (open_ : s.closed = false) : Stepped s .close { s.releaseClient with closed := true }
  | otherOpens :
    Stepped s .otherOpens
      { s with manager := (s.manager.acquire s.connectionId).1, others := s.others + 1 }
  | otherCloses (some_ : s.others ≠ 0) :
    Stepped s .otherCloses { s.releaseClient with others := s.others - 1 }

theorem stepped (s : PollTraffic) (a : TrafficAction) (t : PollTraffic) (h : s.step a = some t) :
    Stepped s a t := by
  cases a with
  | fire speed inPollTask =>
    simp only [step] at h
    split at h
    · cases h
    · split at h
      · cases h
        exact .skipped speed inPollTask
      next poll =>
        cases h
        have open_ : s.canPoll = true := by
          simp only [Bool.or_eq_true, Bool.not_eq_true', not_or, Bool.not_eq_false] at poll
          exact poll.1
        exact .fired speed inPollTask _ _ rfl open_
  | begin i =>
    simp only [step] at h
    split at h
    next present _ =>
      cases h
      exact .begin i _ _ present rfl
    next => cases h
  | takeLink i =>
    simp only [step] at h
    split at h
    next present free =>
      cases h
      exact .takeLink i _ _ _ present rfl free
    next => cases h
  | sendRead i =>
    simp only [step] at h
    split at h
    next present =>
      cases h
      exact .sendRead i _ _ _ present rfl
    next => cases h
  | answer i reply =>
    simp only [step] at h
    split at h
    next present =>
      cases h
      exact .answer i _ _ _ reply present rfl
    next => cases h
  | call inPollTask =>
    simp only [step] at h
    split at h
    · cases h
    · split at h
      next shut =>
        cases h
        have result := Stepped.called (s := s) inPollTask
        rwa [shut] at result
      next open_ =>
        split at h
        · cases h
          have result := Stepped.called (s := s) inPollTask
          rwa [Bool.not_eq_true _ |>.mp open_] at result
        · cases h
          exact .dials inPollTask
  | dialLock d =>
    simp only [step] at h
    split at h
    next phase free =>
      split at h
      next shut =>
        cases h
        have result := Stepped.dialReturns d phase free
        rwa [shut] at result
      next open_ =>
        have open_ := Bool.not_eq_true _ |>.mp open_
        split at h
        · cases h
          have result := Stepped.dialReturns d phase free
          rwa [open_] at result
        · cases h
          exact .dialOpens d phase free open_
    next => cases h
  | dialDone d outcome =>
    simp only [step] at h
    split at h
    next phase =>
      cases h
      exact .dialDone d outcome phase
    next => cases h
  | put w =>
    cases h
    exact .put w
  | get =>
    simp only [step] at h
    split at h
    next w rest idle _ =>
      cases h
      exact .get w rest idle
    next => cases h
  | checkLink =>
    simp only [step] at h
    split at h
    next w waiting =>
      split at h
      next up =>
        cases h
        exact .checkUp w waiting up
      next down =>
        cases h
        exact .checkDown w waiting (Bool.not_eq_true _ |>.mp down)
    next => cases h
  | writerTakes =>
    simp only [step] at h
    split at h
    next w armed free =>
      cases h
      exact .writerTakes w armed free
    next => cases h
  | writerSends =>
    simp only [step] at h
    split at h
    next w holding =>
      cases h
      exact .writerSends w holding
    next => cases h
  | writerDone raised =>
    simp only [step] at h
    split at h
    next w sent =>
      cases h
      exact .writerDone w raised sent
    next => cases h
  | haStarted =>
    simp only [step] at h
    split at h
    next waiting =>
      cases h
      exact .haStarted waiting
    next => cases h
  | ready =>
    simp only [step] at h
    split at h
    next asTask running =>
      cases h
      exact .ready asTask running
    next => cases h
  | link connected =>
    cases h
    exact .link connected
  | disable =>
    cases h
    exact .disable
  | enable =>
    cases h
    exact .enable
  | stop =>
    cases h
    exact .stop
  | close =>
    simp only [step] at h
    split at h
    · cases h
    next open_ =>
      cases h
      exact .close (Bool.not_eq_true _ |>.mp open_)
  | otherOpens =>
    cases h
    exact .otherOpens
  | otherTakes =>
    simp only [step] at h
    split at h
    next free =>
      cases h
      exact .otherTakes free
    next => cases h
  | otherDone connected =>
    simp only [step] at h
    split at h
    next held =>
      cases h
      exact .otherDone connected held
    next => cases h
  | otherCloses =>
    simp only [step] at h
    split at h
    · cases h
    next some_ =>
      cases h
      exact .otherCloses some_

end PollTraffic

end HHModbus
