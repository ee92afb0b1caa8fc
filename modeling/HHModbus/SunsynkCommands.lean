import HHModbus.SunsynkSettings

/-!
# Commands for the inverters

A command from Home Assistant waits in the `write_queue` of its inverter, where a newer one for the
same sensor takes its place. The inverter's callback empties the queue before it reads: it writes a
sensor, reads it back and looks into the queue again.
-/
namespace HHModbus

open Transition

/-- Where `callback_sensor` of an inverter is. -/
inductive CallbackPhase
  | idle
  | connecting
  /-- At the head of `while ist.write_queue`. -/
  | flushing
  | toWrite (s : Setting) (value : String)
  | writing (s : Setting)
  | toReadBack (s : Setting)
  | readingBack (failed : Bool)
  | toPoll (due : List StateSensor)
  | polling (failed : Bool)

namespace CallbackPhase

/-- What the callback waits for the lock for. -/
def operation : CallbackPhase → Option Operation
  | .toWrite s value => some (.writeSensor s value)
  | .toReadBack s => some (.readSensors [s.toStateSensor])
  | .toPoll due => some (.readSensors due)
  | _ => none

def locked : CallbackPhase → CallbackPhase
  | .toWrite s _ => .writing s
  | .toReadBack _ => .readingBack false
  | .toPoll _ => .polling false
  | p => p

/-- A request of a reading has failed. -/
def noting (r : DriverReply) (p : CallbackPhase) : CallbackPhase :=
  match r, p with
  | .failed, .readingBack _ => .readingBack true
  | .failed, .polling _ => .polling true
  | _, p => p

/-- When the operation is over. What it raises ends the callback. -/
def unlocked (raised : Bool) : CallbackPhase → CallbackPhase
  | .writing s => if raised then .idle else .toReadBack s
  | .readingBack failed => if failed then .idle else .flushing
  | .polling _ => .idle
  | p => p

end CallbackPhase

/-- `write_queue[sensor] = val`. -/
def enqueue (queue : List (Setting × String)) (s : Setting) (value : String) : List (Setting × String) :=
  -- A dictionary keeps a key where it is and takes the new value.
  if queue.any fun entry => entry.1.key = s.key then
    queue.map fun entry => if entry.1.key = s.key then (entry.1, value) else entry
  else queue ++ [(s, value)]

/-- The inverters on a connector, each with its queue and its callback. -/
structure Addon where
  connector : Connector
  queue : Nat → List (Setting × String)
  phase : Nat → CallbackPhase

inductive AddonAction
  /-- `on_change`. -/
  | command (inverter : Nat) (s : Setting) (value : String)
  /-- The timer calls the callback. -/
  | call (inverter : Nat)
  | connected (inverter : Nat) (success : Bool)
  /-- The callback goes on at the head of its loop; `due` is what it is to read afterwards. -/
  | next (inverter : Nat) (due : List StateSensor)
  | lock (inverter : Nat)
  | reply (r : DriverReply)
  | move (unit address value : Nat)

namespace Addon

def setPhase (a : Addon) (inverter : Nat) (p : CallbackPhase) : Addon :=
  { a with phase := Function.update a.phase inverter p }

/-- An operation that raises before it has made a request. -/
def raisesAtOnce (st : InverterState) : Operation → Bool
  | .writeSensor s value => (s.valueToReg value st).isNone
  | .readSensors _ => false

/-- The holder of the lock goes on, if its operation is over. -/
def released (a : Addon) (holder : Nat) (p : CallbackPhase) (raised : Bool) : Addon :=
  a.setPhase holder (if a.connector.job.isNone then p.unlocked raised else p)

def step (options : ConnectorOptions) (a : Addon) : AddonAction → Option Addon
  | .command i s value => some { a with queue := Function.update a.queue i (enqueue (a.queue i) s value) }
  | .call i =>
    match a.phase i with
    -- A callback that is still running is not called again.
    | .idle => some (a.setPhase i .connecting)
    | _ => some a
  | .connected i success =>
    match a.phase i with
    | .connecting => some (a.setPhase i (if success then .flushing else .idle))
    | _ => none
  | .next i due =>
    match a.phase i, (a.queue i).getLast? with
    -- `popitem` takes what was inserted last.
    | .flushing, some (s, value) =>
      some ({ a with queue := Function.update a.queue i (a.queue i).dropLast }.setPhase i (.toWrite s value))
    -- Commands that come while the polled sensors are read wait for the next call.
    | .flushing, none => some (a.setPhase i (if due.isEmpty then .idle else .toPoll due))
    | _, _ => none
  | .lock i =>
    (a.phase i).operation.bind fun op =>
      (a.connector.step options (.lock i op)).map fun c =>
        { a with connector := c }.released i (a.phase i).locked (raisesAtOnce (a.connector.states i) op)
  | .reply r =>
    (a.connector.step options (.reply r)).map fun c =>
      let holder := a.connector.active
      -- A write ends with what the driver returns, or it raises.
      let raised := match r with
        | .returned _ => false
        | _ => true
      { a with connector := c }.released holder ((a.phase holder).noting r) raised
  | .move unit address value =>
    (a.connector.step options (.move unit address value)).map fun c => { a with connector := c }

/-! ### What happens in a run -/

/-- A command, or something that happens at the connector. -/
inductive AddonEvent
  | command (inverter : Nat) (s : Setting) (value : String)
  | passed (act : ConnectorAction)

def observe (a : Addon) : AddonAction → List AddonEvent
  | .command i s value => [.command i s value]
  | .lock i => ((a.phase i).operation.map fun op => AddonEvent.passed (.lock i op)).toList
  | .reply r => [.passed (.reply r)]
  | .move unit address value => [.passed (.move unit address value)]
  | .call _ | .connected _ _ | .next _ _ => []

def happened (options : ConnectorOptions) (a : Addon) (acts : List AddonAction) : List AddonEvent :=
  observed (step options) observe a acts

/-- What the connector is asked and told. -/
def connectorActs (events : List AddonEvent) : List ConnectorAction :=
  events.filterMap fun
    | .passed act => some act
    | .command _ _ _ => none

/-- The commands for a sensor of an inverter. -/
def commandsOf (inverter : Nat) (key : SensorKey) (events : List AddonEvent) : List String :=
  events.filterMap fun
    | .command i s value => if i = inverter ∧ s.key = key then some value else none
    | .passed _ => none

/-- The writes of a sensor of an inverter that have begun. -/
def issuedOf (inverter : Nat) (key : SensorKey) (acts : List ConnectorAction) : List String :=
  acts.filterMap fun
    | .lock i (.writeSensor s value) => if i = inverter ∧ s.key = key then some value else none
    | .lock _ (.readSensors _) | .reply _ | .move _ _ _ => none

/-- What is queued for a sensor. -/
def queuedFor (key : SensorKey) (queue : List (Setting × String)) : List String :=
  queue.filterMap fun entry => if entry.1.key = key then some entry.2 else none

/-- What has been taken from the queue and is still to be written. -/
def inHand (key : SensorKey) : CallbackPhase → List String
  | .toWrite s value => if s.key = key then [value] else []
  | _ => []

/-- The commands for a sensor that have not been written yet, the oldest first. -/
def waiting (a : Addon) (inverter : Nat) (key : SensorKey) : List String :=
  inHand key (a.phase inverter) ++ queuedFor key (a.queue inverter)

variable {options : ConnectorOptions} {a a' : Addon} {key : SensorKey} {i j : Nat}

/-- What a step can do. -/
inductive Moves (options : ConnectorOptions) (a : Addon) : AddonAction → Addon → Prop
  | command (i : Nat) (s : Setting) (value : String) : Moves options a (.command i s value)
      { a with queue := Function.update a.queue i (enqueue (a.queue i) s value) }
  | called (i : Nat) (idle : a.phase i = .idle) : Moves options a (.call i) (a.setPhase i .connecting)
  | ignored (i : Nat) : Moves options a (.call i) a
  | connected (i : Nat) (success : Bool) (connecting : a.phase i = .connecting) :
    Moves options a (.connected i success) (a.setPhase i (if success then .flushing else .idle))
  | popped (i : Nat) (due : List StateSensor) (s : Setting) (value : String) (flushing : a.phase i = .flushing)
      (last : (a.queue i).getLast? = some (s, value)) : Moves options a (.next i due)
      ({ a with queue := Function.update a.queue i (a.queue i).dropLast }.setPhase i (.toWrite s value))
  | drained (i : Nat) (due : List StateSensor) (flushing : a.phase i = .flushing) :
    Moves options a (.next i due) (a.setPhase i (if due.isEmpty then .idle else .toPoll due))
  | locked (i : Nat) (op : Operation) (c : Connector) (wanted : (a.phase i).operation = some op)
      (stepped : a.connector.step options (.lock i op) = some c) : Moves options a (.lock i)
      ({ a with connector := c }.released i (a.phase i).locked (raisesAtOnce (a.connector.states i) op))
  | replied (r : DriverReply) (c : Connector) (raised : Bool)
      (stepped : a.connector.step options (.reply r) = some c)
      (returned : ∀ applied, r = .returned applied → raised = false) : Moves options a (.reply r)
      ({ a with connector := c }.released a.connector.active ((a.phase a.connector.active).noting r) raised)
  | moved (unit address value : Nat) : Moves options a (.move unit address value)
      { a with connector := a.connector.setRegister unit address value }

theorem moves_of_step {act : AddonAction} (taken : step options a act = some a') : Moves options a act a' := by
  cases act with
  | command i s value =>
    cases taken
    exact .command i s value
  | call i =>
    simp only [step] at taken
    split at taken
    case h_1 idle =>
      cases taken
      exact .called i idle
    case h_2 =>
      cases taken
      exact .ignored i
  | connected i success =>
    simp only [step] at taken
    split at taken
    case h_1 connecting =>
      cases taken
      exact .connected i success connecting
    case h_2 => cases taken
  | next i due =>
    simp only [step] at taken
    split at taken
    case h_1 s value flushing last =>
      cases taken
      exact .popped i due s value flushing last
    case h_2 flushing _ =>
      cases taken
      exact .drained i due flushing
    case h_3 => cases taken
  | lock i =>
    obtain ⟨op, wanted, locked⟩ := Option.bind_eq_some_iff.mp taken
    obtain ⟨c, stepped, rfl⟩ := Option.map_eq_some_iff.mp locked
    exact .locked i op c wanted stepped
  | reply r =>
    obtain ⟨c, stepped, rfl⟩ := Option.map_eq_some_iff.mp taken
    refine .replied r c _ stepped ?_
    rintro applied rfl
    rfl
  | move unit address value =>
    cases taken
    exact .moved unit address value

/-! ### The newest command is written last -/

/-- Some of the commands in their order, and the last of them. -/
structure KeepsNewest (some_ all : List String) : Prop where
  sublist : some_.Sublist all
  newest : some_.getLast? = all.getLast?

theorem KeepsNewest.replace {first rest all : List String} (keeps : KeepsNewest (first ++ rest) all)
    (value : String) : KeepsNewest (first ++ [value]) (all ++ [value]) where
  sublist := ((List.sublist_append_left first rest).trans keeps.sublist).append_right [value]
  newest := by simp

@[simp] theorem keys_enqueue (queue : List (Setting × String)) (s : Setting) (value : String) :
    ((enqueue queue s value).map fun entry => entry.1.key) =
      if queue.any fun entry => entry.1.key = s.key then queue.map fun entry => entry.1.key
      else (queue.map fun entry => entry.1.key) ++ [s.key] := by
  unfold enqueue
  split
  case isTrue =>
    rw [List.map_map]
    apply List.map_congr_left
    intro entry _
    simp only [Function.comp_apply]
    split <;> rfl
  case isFalse => simp

theorem keys_nodup_enqueue {queue : List (Setting × String)} (s : Setting) (value : String)
    (distinct : (queue.map fun entry => entry.1.key).Nodup) :
    ((enqueue queue s value).map fun entry => entry.1.key).Nodup := by
  rw [keys_enqueue]
  split
  case isTrue => exact distinct
  case isFalse new =>
    rw [← List.concat_eq_append]
    apply distinct.concat
    simpa using new

theorem queuedFor_of_notMem {queue : List (Setting × String)}
    (unknown : key ∉ queue.map fun entry => entry.1.key) : queuedFor key queue = [] := by
  apply List.filterMap_eq_nil_iff.mpr
  intro entry member
  rw [if_neg]
  rintro rfl
  exact unknown (List.mem_map_of_mem member)

theorem queuedFor_enqueue {queue : List (Setting × String)} (s : Setting) (value : String)
    (distinct : (queue.map fun entry => entry.1.key).Nodup) :
    queuedFor key (enqueue queue s value) =
      if s.key = key then [value] else queuedFor key queue := by
  unfold enqueue
  split
  case isFalse new =>
    -- A key that is new goes to the end.
    have unknown : s.key ∉ queue.map fun entry => entry.1.key := by simpa using new
    split
    case isTrue same =>
      subst same
      have none_ := queuedFor_of_notMem unknown
      simp only [queuedFor] at none_
      simp [queuedFor, none_]
    case isFalse other => simp [queuedFor, other]
  case isTrue known =>
    -- Where the first entry with the key stands, its value is replaced.
    induction queue with
    | nil => simp at known
    | cons entry rest ih =>
      simp only [List.map_cons, List.nodup_cons] at distinct
      by_cases here : entry.1.key = s.key
      · -- The others have other keys.
        have unknown : s.key ∉ rest.map fun entry => entry.1.key := here ▸ distinct.1
        have kept : (rest.map fun entry => if entry.1.key = s.key then (entry.1, value) else entry) = rest := by
          refine Eq.trans (List.map_congr_left ?_) (List.map_id rest)
          intro other member
          apply if_neg
          intro same
          exact unknown (same ▸ List.mem_map_of_mem member)
        rw [List.map_cons, kept, if_pos here]
        split
        case isTrue same =>
          have none_ := queuedFor_of_notMem (same ▸ unknown)
          simp only [queuedFor] at none_
          simp [queuedFor, here, same, none_]
        case isFalse other => simp [queuedFor, here, other]
      · have later := ih distinct.2 (by simpa [here] using known)
        rw [List.map_cons, if_neg here]
        by_cases same : s.key = key
        · subst same
          simpa [queuedFor, here] using later
        · simp only [same, if_false, queuedFor] at later ⊢
          rw [List.filterMap_cons, later, List.filterMap_cons]

@[simp] theorem inHand_noting (r : DriverReply) (p : CallbackPhase) :
    inHand key (p.noting r) = inHand key p := by
  cases r <;> cases p <;> rfl

@[simp] theorem inHand_unlocked (raised : Bool) (p : CallbackPhase) :
    inHand key (p.unlocked raised) = inHand key p := by
  cases p with
  | writing s => cases raised <;> rfl
  | readingBack failed => cases failed <;> rfl
  | _ => rfl

theorem waiting_setPhase {p : CallbackPhase} (same : inHand key p = inHand key (a.phase i)) :
    (a.setPhase i p).waiting j key = a.waiting j key := by
  by_cases here : j = i
  · subst here
    simp [waiting, setPhase, same]
  · simp [waiting, setPhase, here]

theorem waiting_released {holder : Nat} {p : CallbackPhase} (raised : Bool)
    (same : inHand key p = inHand key (a.phase holder)) :
    (a.released holder p raised).waiting j key = a.waiting j key := by
  apply waiting_setPhase
  split
  · rw [inHand_unlocked, same]
  · exact same

@[simp] theorem connectorActs_append (events more : List AddonEvent) :
    connectorActs (events ++ more) = connectorActs events ++ connectorActs more := List.filterMap_append

@[simp] theorem commandsOf_append (events more : List AddonEvent) :
    commandsOf i key (events ++ more) = commandsOf i key events ++ commandsOf i key more :=
  List.filterMap_append

@[simp] theorem issuedOf_append (acts more : List ConnectorAction) :
    issuedOf i key (acts ++ more) = issuedOf i key acts ++ issuedOf i key more := List.filterMap_append

@[simp] theorem queuedFor_append (queue more : List (Setting × String)) :
    queuedFor key (queue ++ more) = queuedFor key queue ++ queuedFor key more := List.filterMap_append

@[simp] theorem queuedFor_singleton (s : Setting) (value : String) :
    queuedFor key [(s, value)] = if s.key = key then [value] else [] := by
  by_cases same : s.key = key <;> simp [queuedFor, same]

/-- What has been begun and what waits are commands in their order, the newest among them. -/
structure Orderly (events : List AddonEvent) (a : Addon) : Prop where
  distinct : ∀ i, ((a.queue i).map fun entry => entry.1.key).Nodup
  newest : ∀ i key, KeepsNewest (issuedOf i key (connectorActs events) ++ a.waiting i key)
    (commandsOf i key events)

/-- A step without a command moves some of what waits to what has been begun. -/
theorem Orderly.moved {events more : List AddonEvent} (orderly : Orderly events a)
    (distinct : ∀ i, ((a'.queue i).map fun entry => entry.1.key).Nodup)
    (silent : ∀ i key, commandsOf i key more = [])
    (same : ∀ i key, issuedOf i key (connectorActs more) ++ a'.waiting i key = a.waiting i key) :
    Orderly (events ++ more) a' where
  distinct := distinct
  newest i key := by
    have before := orderly.newest i key
    rw [← same i key] at before
    simpa [silent i key] using before

theorem orderly_command {events : List AddonEvent} (orderly : Orderly events a) (i : Nat) (s : Setting)
    (value : String) : Orderly (events ++ [.command i s value])
      { a with queue := Function.update a.queue i (enqueue (a.queue i) s value) } where
  distinct j := by
    by_cases here : j = i
    · subst here
      simpa using keys_nodup_enqueue s value (orderly.distinct j)
    · simpa [here] using orderly.distinct j
  newest j key := by
    have before := orderly.newest j key
    by_cases here : j = i
    · subst here
      by_cases same : s.key = key
      · -- The command takes the place of the one that was queued.
        have replaced := (List.append_assoc .. ▸ before : KeepsNewest
          ((issuedOf j key (connectorActs events) ++ inHand key (a.phase j)) ++
            queuedFor key (a.queue j)) _).replace value
        simpa [connectorActs, commandsOf, waiting, queuedFor_enqueue s value (orderly.distinct j), same]
          using replaced
      · simpa [connectorActs, commandsOf, waiting, queuedFor_enqueue s value (orderly.distinct j), same]
          using before
    · have other : ¬(i = j ∧ s.key = key) := fun both => here both.1.symm
      simpa [connectorActs, commandsOf, waiting, here, other] using before

theorem orderly_pop {events : List AddonEvent} (orderly : Orderly events a) {i : Nat} {s : Setting}
    {value : String} (flushing : a.phase i = .flushing) (last : (a.queue i).getLast? = some (s, value)) :
    Orderly events ({ a with queue := Function.update a.queue i (a.queue i).dropLast }.setPhase i
      (.toWrite s value)) := by
  have whole : (a.queue i).dropLast ++ [(s, value)] = a.queue i :=
    List.dropLast_append_getLast? _ (by simp [last])
  have distinct := orderly.distinct i
  -- The entries that stay have other keys than the one that is taken.
  rw [← whole, List.map_append, List.nodup_append] at distinct
  rw [← List.append_nil events]
  refine orderly.moved ?_ (fun _ _ => rfl) ?_
  · intro j
    by_cases here : j = i
    · subst here
      simpa [setPhase] using distinct.1
    · simpa [setPhase, here] using orderly.distinct j
  · intro j key
    by_cases here : j = i
    · subst here
      have before : a.waiting j key = queuedFor key ((a.queue j).dropLast ++ [(s, value)]) := by
        simp [waiting, flushing, inHand, whole]
      rw [before]
      by_cases same : s.key = key
      · -- No other entry has the key.
        have none_ : queuedFor key (a.queue j).dropLast = [] := by
          apply queuedFor_of_notMem
          intro member
          exact distinct.2.2 key member s.key (by simp) same.symm
        simp [connectorActs, issuedOf, waiting, setPhase, inHand, same, none_]
      · simp [connectorActs, issuedOf, waiting, setPhase, inHand, same]
    · simp [connectorActs, issuedOf, waiting, setPhase, here]

theorem orderly_lock {events : List AddonEvent} (orderly : Orderly events a) {i : Nat} {op : Operation}
    (wanted : (a.phase i).operation = some op) (c : Connector) (raised : Bool) :
    Orderly (events ++ [.passed (.lock i op)])
      (({ a with connector := c } : Addon).released i (a.phase i).locked raised) := by
  refine orderly.moved ?_ (fun _ _ => rfl) ?_
  · exact orderly.distinct
  intro j key
  by_cases here : j = i
  · subst here
    -- What is in hand is what the write begins with.
    have begun : issuedOf j key [.lock j op] ++ inHand key (a.phase j).locked = inHand key (a.phase j) := by
      cases phase : a.phase j with
      | toWrite s value =>
        rw [phase] at wanted
        cases wanted
        by_cases same : s.key = key <;> simp [issuedOf, inHand, CallbackPhase.locked, same]
      -- What is read back was written before: nothing is in hand.
      | toReadBack s =>
        rw [phase] at wanted
        cases wanted
        rfl
      | toPoll due =>
        rw [phase] at wanted
        cases wanted
        rfl
      | _ =>
        rw [phase] at wanted
        cases wanted
    have now : (({ a with connector := c } : Addon).released j (a.phase j).locked raised).waiting j key =
        inHand key (a.phase j).locked ++ queuedFor key (a.queue j) := by
      simp only [waiting, released, setPhase, Function.update_self]
      split
      · rw [inHand_unlocked]
      · rfl
    rw [now, ← List.append_assoc]
    exact congrArg (· ++ queuedFor key (a.queue j)) begun
  · have other : issuedOf j key [.lock i op] = [] := by
      cases op with
      | readSensors sensors => rfl
      | writeSensor s value => simp [issuedOf, Ne.symm here]
    simp [connectorActs, other, waiting, released, setPhase, here]

theorem orderly_step (events : List AddonEvent) (a : Addon) (act : AddonAction) (a' : Addon)
    (orderly : Orderly events a) (taken : step options a act = some a') :
    Orderly (events ++ a.observe act) a' := by
  -- A change of phase that leaves what is in hand.
  have rephased {i : Nat} {p : CallbackPhase} (same : ∀ key, inHand key p = inHand key (a.phase i)) :
      Orderly (events ++ []) (a.setPhase i p) :=
    orderly.moved orderly.distinct (fun _ _ => rfl) fun j key => waiting_setPhase (same key)
  cases moves_of_step taken with
  | command i s value => exact orderly_command orderly i s value
  | called i idle => exact rephased fun key => by rw [idle]; rfl
  | ignored i => simpa [observe] using orderly
  -- Nothing has been taken from the queue yet, whether the connection succeeds or not.
  | connected i success connecting =>
    apply rephased
    intro key
    rw [connecting]
    cases success <;> rfl
  | popped i due s value flushing last => simpa [observe] using orderly_pop orderly flushing last
  | drained i due flushing =>
    apply rephased
    intro key
    rw [flushing]
    split <;> rfl
  | locked i op c wanted => simpa [observe, wanted] using orderly_lock orderly wanted c _
  -- A write counts as begun from when it got the lock, however its requests end.
  | replied r c raised =>
    refine orderly.moved ?_ (fun _ _ => rfl) ?_
    · exact orderly.distinct
    · intro j key
      apply waiting_released (a := { a with connector := c })
      exact inHand_noting r _
  | moved unit address value =>
    refine orderly.moved ?_ (fun _ _ => rfl) ?_
    · exact orderly.distinct
    · exact fun j key => rfl

/-- Nothing is queued, and no callback runs. -/
structure Idle (a : Addon) : Prop where
  job : a.connector.job = none
  queue : ∀ i, a.queue i = []
  phase : ∀ i, a.phase i = .idle

theorem orderly_run {acts : List AddonAction} (idle : a.Idle) (run : exec (step options) a acts = some a') :
    Orderly (happened options a acts) a' := by
  -- At the start nothing was commanded, waits or has begun.
  have start : Orderly [] a := by
    constructor
    · simp [idle.queue]
    · intro i key
      constructor <;> simp [connectorActs, issuedOf, commandsOf, waiting, inHand, queuedFor, idle.queue,
        idle.phase]
  exact invariant_observed orderly_step start run

/-- **No command overtakes another.** In every run, over all inverters of a connector, all commands
and all failing requests: the writes that have been begun for a sensor of an inverter, and what still
waits for it, are commands for this sensor in the order in which they were given, and end with the
newest of them. -/
theorem newest_command_last (options : ConnectorOptions) (a a' : Addon) (acts : List AddonAction)
    (idle : a.Idle) (run : exec (step options) a acts = some a') (i : Nat) (key : SensorKey) :
    KeepsNewest (issuedOf i key (connectorActs (happened options a acts)) ++ a'.waiting i key)
      (commandsOf i key (happened options a acts)) := by
  have orderly := orderly_run idle run
  exact orderly.newest i key

/-- "Use Timer" of the map. -/
def timerSwitch : SwitchRWSensor := singlePhaseSwitches.get ⟨4, by decide⟩

def idleAddon : Addon := ⟨Connector.idleConnector, fun _ => [], fun _ => .idle⟩

/-- The timer is switched off again while it is being switched on. -/
def onThenOff : List AddonAction := [
  .command 0 (timerSwitch.setting "ON") "ON", .call 0, .connected 0 true, .next 0 [], .lock 0,
  .command 0 (timerSwitch.setting "ON") "OFF", .reply (.words 1), .reply (.returned true),
  .lock 0, .reply (.words 1),
  .next 0 [], .lock 0, .reply (.words 1), .reply (.returned true)]

theorem onThenOff_runs : (exec (step Connector.twoInverters) idleAddon onThenOff).isSome = true := by
  decide +kernel

def afterOff : Addon := (exec (step Connector.twoInverters) idleAddon onThenOff).get onThenOff_runs

theorem onThenOff_run : exec (step Connector.twoInverters) idleAddon onThenOff = some afterOff :=
  (Option.some_get onThenOff_runs).symm

theorem idle_idleAddon : idleAddon.Idle := ⟨rfl, fun _ => rfl, fun _ => rfl⟩

theorem newest_command_last_off :
    KeepsNewest (issuedOf 0 ([248], "Use Timer")
      (connectorActs (happened Connector.twoInverters idleAddon onThenOff)) ++
        afterOff.waiting 0 ([248], "Use Timer"))
      (commandsOf 0 ([248], "Use Timer") (happened Connector.twoInverters idleAddon onThenOff)) :=
  newest_command_last Connector.twoInverters idleAddon afterOff onThenOff idle_idleAddon onThenOff_run 0 _

end Addon

end HHModbus
