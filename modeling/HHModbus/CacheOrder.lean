import HHModbus.CacheDiscipline
import HHModbus.PollTraffic

/-!
# Does the cache ever go back?

The poll batches, the cold-cache reads of switches and selects and the write queue of one
controller on its link, with what they read, write and save.
-/
namespace HHModbus

open Transition Cooperative Tables

/-- Where a task is suspended. -/
inductive AskerPhase where
  /-- In `connect`, waiting for the link's `poll_lock`. -/
  | dialing (k : Bool → CachePoll Unit)
  /-- In `client.connect()`, with the lock. -/
  | opening (k : Bool → CachePoll Unit)
  | asking (q : ReadRequest) (k : StampedReply → CachePoll Unit)
  /-- It holds the lock and sleeps in `inter_frame_wait`. -/
  | holding (q : ReadRequest) (k : StampedReply → CachePoll Unit)
  /-- The client has been asked; `readAt` if the inverter has read the registers. -/
  | sent (q : ReadRequest) (k : StampedReply → CachePoll Unit) (readAt : Option Nat)

inductive LinkUser where
  | free
  | task (a : Asker)
  | writer
  /-- A request of the watchdog or a service, or another controller. -/
  | other
  deriving DecidableEq, Repr

structure CacheTraffic where
  memory : CacheMemory
  /-- `controller.enabled`. -/
  enabled : Bool
  linkLock : LinkUser
  /-- The batches that wait for `DataRetrieval.poll_lock`. -/
  queued : List (PollSpeed × List SensorGroup)
  /-- The batch that holds it. -/
  running : Option (PollSpeed × List SensorGroup)
  tasks : Asker → Option AskerPhase
  nextReader : Nat

inductive CacheAction where
  | fire (speed : PollSpeed)
  | begin (n : Nat)
  | setBit (register : Nat) (call : BitCall)
  | dialLock (a : Asker)
  | dialDone (a : Asker) (up : Bool)
  | takeLink (a : Asker)
  | sendRead (a : Asker)
  | inverterReads (a : Asker)
  | answer (a : Asker) (reply : Reply)
  | otherTakes
  | otherDone (connected : Bool)
  | put (w : WriteRequest)
  | take
  | writerTakes
  | frame (accepted : Bool)
  | finish (answered : Bool)
  | link (connected : Bool)
  | enable (enabled : Bool)

/-- The call reads this register before it sets a bit. -/
def BitCall.readsBit (register : Nat) : BitCall → Bool
  | .toggle d _ _ => d.register == register && d.bitPosition.isSome
  | .select o => o.bitPosition.isSome

namespace CacheTraffic

variable (c : ModbusController)

/-- A controller at the end of its first check. -/
def start (memory : CacheMemory) : CacheTraffic :=
  { memory, enabled := true, linkLock := .free, queued := [], running := none
    tasks := fun _ => none, nextReader := 0 }

/-- `_can_poll`, until the polls are stopped. -/
def canPoll (s : CacheTraffic) : Bool := s.enabled && s.memory.connected

/-- The groups that `modbus_update_fast`, `_normal` and `_slow` poll. -/
def groupsOf (s : CacheTraffic) (speed : PollSpeed) : List SensorGroup :=
  s.memory.data.groups.filter fun g =>
    match speed with
    | .normal => g.pollSpeed = .normal || g.pollSpeed = .once
    | _ => g.pollSpeed = speed

/-- `group_hash in self.poll_updating[speed]`. -/
def updating (s : CacheTraffic) (speed : PollSpeed) (groups : List SensorGroup) : Bool :=
  (s.running.toList ++ s.queued).any fun b =>
    b.1 == speed &&
      (b.2.map SensorGroup.startRegister).toFinset == (groups.map SensorGroup.startRegister).toFinset

def suspend (s : CacheTraffic) (a : Asker) (phase : AskerPhase) : CacheTraffic :=
  { s with tasks := Function.update s.tasks a (some phase) }

/-- A task ends; a batch gives `poll_lock` back. -/
def ends (s : CacheTraffic) (a : Asker) : CacheTraffic :=
  { s with
    tasks := Function.update s.tasks a none
    running := if a = .batch then none else s.running }

/-- A task goes on up to where it next waits, or to its end. -/
def resume (s : CacheTraffic) (a : Asker) (p : CachePoll Unit) : CacheTraffic :=
  -- `connect` returns at once on a link that is up.
  let connect := if s.memory.connected then some true else none
  let (memory, rest) := p.settle s.canPoll connect s.memory
  let moved := { s with memory }
  match rest with
  | .dial k => moved.suspend a (.dialing k)
  | .request q k => moved.suspend a (.asking q k)
  | _ => moved.ends a

def controllerStep (s : CacheTraffic) (a : WriteBehind.Action WriteRequest) : Option CacheTraffic :=
  (s.memory.controller.step a).map fun controller => { s with memory := { s.memory with controller } }

def step (s : CacheTraffic) : CacheAction → Option CacheTraffic
  | .fire speed =>
    let groups := s.groupsOf speed
    if speed = .once ∨ speed = .startup then none
    else if !s.canPoll || s.updating speed groups then some s
    else some { s with queued := s.queued ++ [(speed, groups)] }
  | .begin n =>
    match s.queued[n]?, s.running with
    | some (speed, groups), none =>
      some ({ s with queued := s.queued.eraseIdx n, running := some (speed, groups) }.resume .batch
        (CachePoll.updateGroups c groups []))
    | _, _ => none
  | .setBit register call =>
    if call.readsBit register then
      match s.memory.controller.cacheGet register with
      | some current => some { s with memory := s.memory.setRegisterBit register current call }
      | none =>
        some ({ s with nextReader := s.nextReader + 1 }.resume (.reader s.nextReader)
          (CachePoll.liveRead register call))
    else none
  | .dialLock a =>
    match s.tasks a, s.linkLock with
    | some (.dialing k), .free =>
      if s.memory.connected then some (s.resume a (k true))
      else some { s.suspend a (.opening k) with linkLock := .task a }
    | _, _ => none
  | .dialDone a up =>
    match s.tasks a with
    | some (.opening k) =>
      some ({ s with linkLock := .free, memory := { s.memory with connected := up } }.resume a (k up))
    | _ => none
  | .takeLink a =>
    match s.tasks a, s.linkLock with
    | some (.asking q k), .free => some { s.suspend a (.holding q k) with linkLock := .task a }
    | _, _ => none
  | .sendRead a =>
    match s.tasks a with
    | some (.holding q k) => some (s.suspend a (.sent q k none))
    | _ => none
  | .inverterReads a =>
    match s.tasks a with
    | some (.sent q k _) => some (s.suspend a (.sent q k (some s.memory.accepted.length)))
    | _ => none
  | .answer a reply =>
    match s.tasks a with
    | some (.sent _ k readAt) =>
      if reply.result.1.isSome && readAt.isNone then none
      else
        let connected := s.memory.connected && reply != .unanswered
        some ({ s with linkLock := .free, memory := { s.memory with connected } }.resume a
          (k (reply, readAt.getD s.memory.accepted.length)))
    | _ => none
  | .otherTakes => if s.linkLock = .free then some { s with linkLock := .other } else none
  | .otherDone connected =>
    if s.linkLock = .other then
      some { s with linkLock := .free, memory := { s.memory with connected } }
    else none
  | .put w => s.controllerStep (.put w)
  | .take => s.controllerStep .take
  | .writerTakes =>
    match s.memory.controller.queue.executing, s.linkLock with
    | .taken _, .free => some { s with linkLock := .writer }
    | _, _ => none
  | .frame accepted =>
    match s.memory.controller.queue.executing, s.linkLock with
    | .taken w, .writer =>
      (s.controllerStep (.frame accepted)).map fun t =>
        let log := if accepted then s.memory.accepted ++ [w] else s.memory.accepted
        { t with memory := { t.memory with accepted := log } }
    | _, _ => none
  | .finish answered =>
    match s.memory.controller.queue.executing, s.linkLock with
    | .answered w _, .writer =>
      if answered then (s.controllerStep .finish).map fun t => { t with linkLock := .free }
      else
        -- The call has raised; nothing is saved.
        let controller := s.memory.controller
        some { s with
          linkLock := .free
          memory := { s.memory with
            controller := { controller with queue := { controller.queue with executing := .idle } }
            connected := s.memory.connected && !raisingCloses w } }
    | _, _ => none
  | .link connected => some { s with memory := { s.memory with connected } }
  | .enable enabled => some { s with enabled }

end CacheTraffic

namespace AskerPhase

/-- What is left of the task's program. -/
def program : AskerPhase → CachePoll Unit
  | dialing k | opening k => .dial k
  | asking q k | holding q k | sent q k _ => .request q k

def holdsLink : AskerPhase → Bool
  | opening _ | holding _ _ | sent _ _ _ => true
  | _ => false

def readAt : AskerPhase → Option Nat
  | sent _ _ readAt => readAt
  | _ => none

theorem suspended (phase : AskerPhase) : phase.program.Suspended := by
  cases phase <;> trivial

end AskerPhase

theorem Asker.Tidy.relies {a : Asker} {phase : AskerPhase} {m t : CacheMemory}
    (tidy : a.Tidy phase.program m) (relies : a.relies m t) (ordered : t.Ordered) :
    a.Tidy phase.program t := by
  refine ⟨tidy.orderly.rely ?_ phase.suspended relies ordered, tidy.guarantees⟩
  intro m t u first second batch
  rw [second batch, first batch]

namespace CacheTraffic

/-- The other tasks than `a`, with what they have of the link. -/
structure OthersTidy (s : CacheTraffic) (a : Asker) : Prop where
  tidy : ∀ b phase, b ≠ a → s.tasks b = some phase → b.Tidy phase.program s.memory
  locked : ∀ b phase, b ≠ a → s.tasks b = some phase → phase.holdsLink = true → s.linkLock = .task b
  stamped : ∀ b phase n, b ≠ a → s.tasks b = some phase → phase.readAt = some n →
    n = s.memory.accepted.length

/-- The invariant of every run. -/
structure InOrder (s : CacheTraffic) : Prop where
  ordered : s.memory.Ordered
  tidy : ∀ a phase, s.tasks a = some phase → a.Tidy phase.program s.memory
  locked : ∀ a phase, s.tasks a = some phase → phase.holdsLink = true → s.linkLock = .task a
  stamped : ∀ a phase n, s.tasks a = some phase → phase.readAt = some n →
    n = s.memory.accepted.length

theorem inOrder_start {m : CacheMemory} (ordered : m.Ordered) : (start m).InOrder where
  ordered := ordered
  tidy _ _ present := by cases present
  locked _ _ present := by cases present
  stamped _ _ _ present := by cases present

theorem InOrder.others {s : CacheTraffic} (inOrder : s.InOrder) (a : Asker) : s.OthersTidy a where
  tidy b phase _ := inOrder.tidy b phase
  locked b phase _ := inOrder.locked b phase
  stamped b phase n _ := inOrder.stamped b phase n

/-- A task that has the link is the only one that does. -/
theorem InOrder.alone {s : CacheTraffic} (inOrder : s.InOrder) {a b : Asker} {phase phase' : AskerPhase}
    (present : s.tasks a = some phase) (holds : phase.holdsLink = true)
    (present' : s.tasks b = some phase') (holds' : phase'.holdsLink = true) : b = a := by
  have own := inOrder.locked a phase present holds
  rw [inOrder.locked b phase' present' holds'] at own
  exact LinkUser.task.inj own

theorem readAt_holdsLink {phase : AskerPhase} {n : Nat} (stamp : phase.readAt = some n) :
    phase.holdsLink = true := by
  cases phase with
  | sent q k readAt => rfl
  | _ => cases stamp

/-- A task that is suspended again, in a phase that fits the lock. -/
theorem OthersTidy.suspend {s : CacheTraffic} {a : Asker} (others : s.OthersTidy a)
    (ordered : s.memory.Ordered) {phase : AskerPhase} (tidy : a.Tidy phase.program s.memory)
    (locked : phase.holdsLink = true → s.linkLock = .task a)
    (stamped : ∀ n, phase.readAt = some n → n = s.memory.accepted.length) :
    (s.suspend a phase).InOrder := by
  refine ⟨ordered, fun b phase' present => ?_, fun b phase' present holds => ?_,
    fun b phase' n present stamp => ?_⟩
  · rcases present_update present with ⟨rfl, own⟩ | ⟨other, old⟩
    · cases own
      exact tidy
    · exact others.tidy b phase' other old
  · rcases present_update present with ⟨rfl, own⟩ | ⟨other, old⟩
    · cases own
      exact locked holds
    · exact others.locked b phase' other old holds
  · rcases present_update present with ⟨rfl, own⟩ | ⟨other, old⟩
    · cases own
      exact stamped n stamp
    · exact others.stamped b phase' n other old stamp

theorem OthersTidy.ends {s : CacheTraffic} {a : Asker} (others : s.OthersTidy a)
    (ordered : s.memory.Ordered) : (s.ends a).InOrder := by
  have old (b : Asker) (phase : AskerPhase) (present : (s.ends a).tasks b = some phase) :
      b ≠ a ∧ s.tasks b = some phase := by
    rcases present_update present with ⟨-, own⟩ | other
    · cases own
    · exact other
  refine ⟨ordered, fun b phase present => ?_, fun b phase present => ?_,
    fun b phase n present => ?_⟩
  · exact others.tidy b phase (old b phase present).1 (old b phase present).2
  · exact others.locked b phase (old b phase present).1 (old b phase present).2
  · exact others.stamped b phase n (old b phase present).1 (old b phase present).2

/-- The memory changes as the tasks other than `a` rely on. -/
theorem OthersTidy.moved {s : CacheTraffic} {a : Asker} (others : s.OthersTidy a) {m : CacheMemory}
    (guarantees : a.guarantees s.memory m) (ordered : m.Ordered) :
    { s with memory := m }.OthersTidy a := by
  refine ⟨fun b phase other present => ?_, others.locked, fun b phase n other present stamp => ?_⟩
  · exact (others.tidy b phase other present).relies (Asker.relies_of_guarantees other guarantees)
      ordered
  · rw [others.stamped b phase n other present stamp]
    exact congrArg List.length guarantees.1.symm

/-- **A tidy task goes on.** -/
theorem OthersTidy.resume {s : CacheTraffic} {a : Asker} {p : CachePoll Unit}
    (others : s.OthersTidy a) (tidy : a.Tidy p s.memory) : (s.resume a p).InOrder := by
  unfold CacheTraffic.resume
  dsimp only
  generalize (if s.memory.connected = true then some true else none) = connect
  have orderly := tidy.orderly.settle s.canPoll connect fun _ _ => rfl
  have guarantees := tidy.guarantees.settle s.canPoll connect
    (fun _ => ⟨rfl, fun _ => rfl⟩)
    (fun first second => ⟨second.1.trans first.1, fun other => (second.2 other).trans (first.2 other)⟩)
    s.memory
  rcases Program.settled s.canPoll connect p s.memory with ⟨_, ended⟩ | waits
  · -- Nothing is left of the program.
    rw [ended] at orderly ⊢
    exact (others.moved guarantees.1 orderly).ends orderly
  · generalize (p.settle s.canPoll connect s.memory).2 = rest at orderly guarantees waits ⊢
    generalize (p.settle s.canPoll connect s.memory).1 = m at orderly guarantees ⊢
    cases rest with
    | dial k =>
      exact (others.moved guarantees.1 orderly.1).suspend orderly.1
        ⟨orderly, guarantees.2⟩ (fun holds => by cases holds) (fun n stamp => by cases stamp)
    | request q k =>
      exact (others.moved guarantees.1 orderly.1).suspend orderly.1
        ⟨orderly, guarantees.2⟩ (fun holds => by cases holds) (fun n stamp => by cases stamp)
    | done a => cases waits
    | atomic f k => cases waits
    | test k => cases waits

/-- The lock changes hands between `a` and those that are not tasks. -/
theorem OthersTidy.relock {s : CacheTraffic} {a : Asker} (others : s.OthersTidy a)
    (unlocked : ∀ b, b ≠ a → s.linkLock ≠ .task b) (user : LinkUser) :
    { s with linkLock := user }.OthersTidy a := by
  refine ⟨others.tidy, fun b phase other present holds => ?_, others.stamped⟩
  exact absurd (others.locked b phase other present holds) (unlocked b other)

theorem OthersTidy.unlock {s : CacheTraffic} {a : Asker} (others : s.OthersTidy a)
    (own : s.linkLock = .task a) : { s with linkLock := .free }.OthersTidy a := by
  refine others.relock (fun b other held => ?_) .free
  rw [own] at held
  exact other (LinkUser.task.inj held).symm

theorem OthersTidy.lock {s : CacheTraffic} {a : Asker} (others : s.OthersTidy a)
    (free : s.linkLock = .free) : { s with linkLock := .task a }.OthersTidy a := by
  refine others.relock (fun b _ held => ?_) (.task a)
  rw [free] at held
  cases held

section Lock

variable {s : CacheTraffic} {a : Asker} {phase next : AskerPhase}

/-- A suspended task takes the link. -/
theorem InOrder.lockTaken (inOrder : s.InOrder) (present : s.tasks a = some phase)
    (free : s.linkLock = .free) (same : next.program = phase.program) (unread : next.readAt = none) :
    { s.suspend a next with linkLock := .task a }.InOrder := by
  have tidy : a.Tidy next.program s.memory := same ▸ inOrder.tidy a phase present
  refine ((inOrder.others a).lock free).suspend inOrder.ordered tidy (fun _ => rfl) fun n stamp => ?_
  rw [unread] at stamp
  cases stamp

/-- The task that has the link goes on to its next suspension with it. -/
theorem InOrder.lockKept (inOrder : s.InOrder) (present : s.tasks a = some phase)
    (holds : phase.holdsLink = true) (same : next.program = phase.program)
    (stamped : ∀ n, next.readAt = some n → n = s.memory.accepted.length) :
    (s.suspend a next).InOrder := by
  have tidy : a.Tidy next.program s.memory := same ▸ inOrder.tidy a phase present
  have own := inOrder.locked a phase present holds
  exact (inOrder.others a).suspend inOrder.ordered tidy (fun _ => own) stamped

/-- The task gives the link back and goes on. -/
theorem InOrder.lockGivenBack (inOrder : s.InOrder) (present : s.tasks a = some phase)
    (holds : phase.holdsLink = true) {m : CacheMemory} (accepted : m.accepted = s.memory.accepted)
    (collected : m.collected = s.memory.collected) (ordered : m.Ordered) {p : CachePoll Unit}
    (tidy : a.Tidy p m) : ({ s with linkLock := .free, memory := m }.resume a p).InOrder := by
  have own := inOrder.locked a phase present holds
  have others := (inOrder.others a).moved ⟨accepted, fun _ => collected⟩ ordered
  exact (others.unlock own).resume tidy

end Lock

/-- A step of something else than a task. -/
theorem InOrder.alter {s t : CacheTraffic} (inOrder : s.InOrder) (tasks : t.tasks = s.tasks)
    (collected : t.memory.collected = s.memory.collected) (ordered : t.memory.Ordered)
    (held : ∀ a, s.linkLock = .task a →
      t.linkLock = .task a ∧ t.memory.accepted = s.memory.accepted) : t.InOrder := by
  refine ⟨ordered, fun a phase present => ?_, fun a phase present holds => ?_,
    fun a phase n present stamp => ?_⟩
  · rw [tasks] at present
    exact (inOrder.tidy a phase present).relies (fun _ => collected) ordered
  · rw [tasks] at present
    exact (held a (inOrder.locked a phase present holds)).1
  · rw [tasks] at present
    have own := inOrder.locked a phase present (readAt_holdsLink stamp)
    rw [(held a own).2]
    exact inOrder.stamped a phase n present stamp

/-- Nor does a step take the link from a task, if none has it. -/
theorem InOrder.alter_unlocked {s t : CacheTraffic} (inOrder : s.InOrder)
    (unlocked : ∀ a, s.linkLock ≠ .task a) (tasks : t.tasks = s.tasks)
    (collected : t.memory.collected = s.memory.collected) (ordered : t.memory.Ordered) :
    t.InOrder :=
  inOrder.alter tasks collected ordered fun a held => absurd held (unlocked a)

theorem InOrder.withMemory {s : CacheTraffic} (inOrder : s.InOrder) {m : CacheMemory}
    (accepted : m.accepted = s.memory.accepted) (collected : m.collected = s.memory.collected)
    (saved : m.saved = s.memory.saved) : { s with memory := m }.InOrder :=
  inOrder.alter rfl collected (inOrder.ordered.congr accepted collected saved)
    fun _ held => ⟨held, accepted⟩

theorem InOrder.controllerStep {s t : CacheTraffic} {a : WriteBehind.Action WriteRequest}
    (inOrder : s.InOrder) (h : s.controllerStep a = some t) :
    t.InOrder ∧ ∃ controller, t = { s with memory := { s.memory with controller } } := by
  obtain ⟨controller, -, rfl⟩ := Option.map_eq_some_iff.mp h
  exact ⟨inOrder.withMemory rfl rfl rfl, controller, rfl⟩

/-- An accepted write spares what is collected. -/
def SparesCollected (s : CacheTraffic) : CacheAction → Prop
  | .frame true =>
    match s.memory.controller.queue.executing with
    | .taken w => s.memory.Spares w
    | _ => True
  | _ => True

instance (s : CacheTraffic) (a : CacheAction) : Decidable (s.SparesCollected a) := by
  unfold SparesCollected
  split
  · split <;> infer_instance
  · infer_instance

variable {c : ModbusController}

/-- **Each step keeps the cache in order**, if an accepted write spares what is collected. -/
theorem inOrder_step (s : CacheTraffic) (a : CacheAction) (t : CacheTraffic) (inOrder : s.InOrder)
    (h : s.step c a = some t) (spares : s.SparesCollected a) : t.InOrder := by
  cases a with
  | fire speed =>
    simp only [step] at h
    split at h
    · cases h
    · split at h
      · cases h
        exact inOrder
      · cases h
        exact inOrder.alter rfl rfl inOrder.ordered fun _ held => ⟨held, rfl⟩
  | begin n =>
    simp only [step] at h
    split at h
    next speed groups _ _ =>
      cases h
      -- The batch is not among the others, so only its own program has to be tidy.
      have others := inOrder.others .batch
      refine OthersTidy.resume ⟨others.tidy, others.locked, others.stamped⟩ ?_
      exact ⟨CachePoll.orderly_updateGroups groups [] s.memory inOrder.ordered,
        CachePoll.guarantees_updateGroups groups []⟩
    next => cases h
  | setBit register call =>
    simp only [step] at h
    split at h
    · split at h
      · -- A cached value: the write is queued at once.
        cases h
        exact inOrder.withMemory rfl rfl rfl
      · -- A cold cache: a new task reads the register first.
        cases h
        have others := inOrder.others (.reader s.nextReader)
        refine OthersTidy.resume ⟨others.tidy, others.locked, others.stamped⟩ ?_
        exact ⟨CachePoll.orderly_liveRead register call s.nextReader s.memory inOrder.ordered,
          CachePoll.guarantees_liveRead register call _⟩
    · cases h
  | dialLock a =>
    simp only [step] at h
    split at h
    next k present free =>
      split at h
      · -- Another task has opened the link in the meantime.
        cases h
        have tidy := inOrder.tidy a _ present
        exact (inOrder.others a).resume (tidy.dialled true (fun _ => rfl) inOrder.ordered)
      · cases h
        exact inOrder.lockTaken present free rfl rfl
    next => cases h
  | dialDone a up =>
    simp only [step] at h
    split at h
    next k present =>
      cases h
      let m : CacheMemory := { s.memory with connected := up }
      have ordered : m.Ordered := inOrder.ordered.congr rfl rfl rfl
      have tidy := (inOrder.tidy a _ present).dialled (t := m) up (fun _ => rfl) ordered
      exact inOrder.lockGivenBack (m := m) present rfl rfl rfl ordered tidy
    next => cases h
  | takeLink a =>
    simp only [step] at h
    split at h
    next q k present free =>
      cases h
      exact inOrder.lockTaken present free rfl rfl
    next => cases h
  | sendRead a =>
    simp only [step] at h
    split at h
    next q k present =>
      cases h
      exact inOrder.lockKept present rfl rfl fun n stamp => by cases stamp
    next => cases h
  | inverterReads a =>
    simp only [step] at h
    split at h
    next q k _ present =>
      cases h
      exact inOrder.lockKept present rfl rfl fun n stamp => (Option.some.inj stamp).symm
    next => cases h
  | answer a reply =>
    simp only [step] at h
    split at h
    next q k readAt present =>
      split at h
      · cases h
      · cases h
        let m : CacheMemory :=
          { s.memory with connected := s.memory.connected && reply != .unanswered }
        have ordered : m.Ordered := inOrder.ordered.congr rfl rfl rfl
        -- Nothing has been accepted since the inverter has read: the task has had the link.
        have justRead : JustRead (reply, readAt.getD s.memory.accepted.length) m := by
          cases stamp : readAt with
          | none => rfl
          | some n => exact inOrder.stamped a _ n present stamp
        have tidy := (inOrder.tidy a _ present).answered (t := m) _ (fun _ => rfl) ordered justRead
        exact inOrder.lockGivenBack (m := m) present rfl rfl rfl ordered tidy
    next => cases h
  | otherTakes =>
    simp only [step] at h
    split at h
    next free =>
      cases h
      exact inOrder.alter_unlocked (by simp [free]) rfl rfl inOrder.ordered
    next => cases h
  | otherDone connected =>
    simp only [step] at h
    split at h
    next other =>
      cases h
      exact inOrder.alter_unlocked (by simp [other]) rfl rfl (inOrder.ordered.congr rfl rfl rfl)
    next => cases h
  | put w => exact (inOrder.controllerStep h).1
  | take => exact (inOrder.controllerStep h).1
  | writerTakes =>
    simp only [step] at h
    split at h
    next free =>
      cases h
      exact inOrder.alter_unlocked (by simp [free]) rfl rfl inOrder.ordered
    next => cases h
  | frame accepted =>
    simp only [step] at h
    split at h
    next w taken writer =>
      obtain ⟨u, stepped, rfl⟩ := Option.map_eq_some_iff.mp h
      obtain ⟨-, controller, rfl⟩ := inOrder.controllerStep stepped
      refine inOrder.alter_unlocked (by simp [writer]) rfl rfl ?_
      cases accepted with
      | false => exact inOrder.ordered.congr rfl rfl rfl
      | true =>
        -- The log grows: only here what has been read and not saved could become old.
        simp only [SparesCollected, taken] at spares
        exact (inOrder.ordered.accept spares).congr rfl rfl rfl
    next => cases h
  | finish answered =>
    simp only [step] at h
    split at h
    next w _ _ writer =>
      have unlocked (a : Asker) : s.linkLock ≠ .task a := by simp [writer]
      split at h
      · obtain ⟨u, stepped, rfl⟩ := Option.map_eq_some_iff.mp h
        obtain ⟨-, controller, rfl⟩ := inOrder.controllerStep stepped
        exact inOrder.alter_unlocked unlocked rfl rfl (inOrder.ordered.congr rfl rfl rfl)
      · cases h
        exact inOrder.alter_unlocked unlocked rfl rfl (inOrder.ordered.congr rfl rfl rfl)
    next => cases h
  | link connected =>
    cases h
    exact inOrder.withMemory rfl rfl rfl
  | enable enabled =>
    cases h
    exact inOrder.alter rfl rfl inOrder.ordered fun _ held => ⟨held, rfl⟩

/-- **The cache never goes back** in a run whose accepted writes all spare what a recovery under
way has read and not yet saved: whatever is saved for a holding register has been read after the
last write of it that the inverter has accepted. -/
theorem cache_never_back (groups : List SensorGroup) (enabledSensors : Nat → Bool)
    (nextGroup : Nat) (device : Nat → Nat) (cache : Nat → Option Nat) (connected : Bool)
    (acts : List CacheAction) (t : CacheTraffic)
    (spares : Along (step c) (fun s a _ => s.SparesCollected a)
      (start (.start groups enabledSensors nextGroup device cache connected)) acts)
    (run : exec (step c)
      (start (.start groups enabledSensors nextGroup device cache connected)) acts = some t) :
    t.memory.NeverBack := by
  have initial := inOrder_start
    (CacheMemory.ordered_start groups enabledSensors nextGroup device cache connected)
  exact (invariant_along inOrder_step initial spares run).ordered.neverBack

/-- A group of four holding registers. -/
def storageGroup : SensorGroup where
  id := 0
  sensors := [43110, 43111, 43112, 43113].map BaseSensor.single
  pollSpeed := .normal
  registerType := .holding

/-- The storage mode is 33 when the polls begin. -/
def beforeRecovery : CacheTraffic :=
  start (.start [storageGroup] (fun _ => true) 1
    (fun register => if register = 43110 then 33 else 0) (fun _ => none) true)

/-- The batch makes a request, and this is the reply. -/
def batchAsks (reply : Reply) : List CacheAction :=
  [.takeLink .batch, .sendRead .batch, .inverterReads .batch, .answer .batch reply]

/-- The recovery of a bad register, with a write between its replacement blocks. -/
def recoveryRun (w : WriteRequest) : List CacheAction :=
  [.fire .normal, .begin 0] ++
    -- The block, its left half, and the registers of that one.
    batchAsks (.exception 2) ++ batchAsks (.exception 2) ++ batchAsks (.values [33]) ++
    batchAsks (.exception 2) ++
    batchAsks (.values [33]) ++
    [.put w, .take, .writerTakes, .frame true, .finish true] ++
    batchAsks (.values [0, 0])

def hybridLink : ModbusController := ⟨"192.168.1.50:502", 1, false, 5000⟩

theorem cache_never_back_otherRegister :
    (∃ t, exec (step hybridLink) beforeRecovery (recoveryRun (.single 43012 1)) = some t) ∧
    ∀ t, exec (step hybridLink) beforeRecovery (recoveryRun (.single 43012 1)) = some t →
      t.memory.NeverBack := by
  refine ⟨Option.isSome_iff_exists.mp (by decide +kernel), fun t run => ?_⟩
  exact cache_never_back [storageGroup] (fun _ => true) 1 _ _ true _ t (by decide +kernel) run

/-- The write of a register that the recovery has already read is taken back in the cache. -/
theorem recovery_goes_back :
    ∃ t, exec (step hybridLink) beforeRecovery (recoveryRun (.single 43110 35)) = some t ∧
      ¬ t.memory.NeverBack ∧ t.memory.controller.device 43110 = 35 ∧
      t.memory.controller.cacheGet 43110 = some 33 := by
  have outcome : (exec (step hybridLink) beforeRecovery (recoveryRun (.single 43110 35))).map
      (fun t => (decide t.memory.NeverBack, t.memory.controller.device 43110,
        t.memory.controller.cacheGet 43110)) = some (false, 35, some 33) := by
    decide +kernel
  obtain ⟨t, run, values⟩ := Option.map_eq_some_iff.mp outcome
  simp only [Prod.mk.injEq, decide_eq_false_iff_not] at values
  exact ⟨t, run, values.1, values.2.1, values.2.2⟩

end CacheTraffic

end HHModbus
