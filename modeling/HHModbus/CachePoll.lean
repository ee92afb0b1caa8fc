import HHModbus.BitUpdates
import HHModbus.Lib.Suspension
import HHModbus.PollProgram
import HHModbus.SolisSensor

/-!
# Polls that save what they read

The poll batch of `PollProgram` with `_apply_register_read_to_cache`, and the live reads of
switches and selects. Each answer carries how many writes the inverter had accepted when it read
the registers, which the code does not know.
-/
namespace HHModbus

open Cooperative

/-- The values of a block, as a poll or a recovery has got them. -/
structure Reading where
  group : SensorGroup
  values : List Nat
  isHolding : Bool
  /-- The number of writes accepted before the registers were read. -/
  readAt : Nat

/-- A register value from the inverter that was saved in the cache. -/
structure Saving where
  register : Nat
  isHolding : Bool
  value : Nat
  /-- The writes accepted after the register was read. -/
  since : List WriteRequest
  deriving DecidableEq

/-- What the tasks of a controller work on. -/
structure CacheMemory where
  /-- The groups and the `enabled` flags of the sensors. -/
  data : Recovery
  /-- The cache, the write queue and the holding registers. -/
  controller : Controller
  spikeCounter : Nat → Nat
  /-- `client.connected`. -/
  connected : Bool
  /-- The writes that the inverter has accepted. -/
  accepted : List WriteRequest
  /-- What a recovery under way has read and not yet handed to the cache. -/
  collected : List Reading
  saved : List Saving

/-- The registers a write changes. -/
def WriteRequest.registers (w : WriteRequest) : List Nat := w.writes.map Prod.fst

def Reading.registers (r : Reading) : List Nat := List.range' r.group.startRegister r.values.length

namespace CacheMemory

variable (c : ModbusController)

def start (groups : List SensorGroup) (enabledSensors : Nat → Bool) (nextGroup : Nat)
    (device : Nat → Nat) (cache : Nat → Option Nat) (connected : Bool) : CacheMemory where
  data := Recovery.start groups enabledSensors nextGroup
  controller := .start device cache
  spikeCounter _ := 0
  connected
  accepted := []
  collected := []
  saved := []

/-- A value read when so many writes had been accepted is saved. -/
def save (m : CacheMemory) (isHolding : Bool) (readAt register value : Nat) : CacheMemory :=
  { m with
    controller := m.controller.cacheSave register value
    saved := m.saved ++ [⟨register, isHolding, value, m.accepted.drop readAt⟩] }

/-- `spike_filtering`, which sees the cached value and the counter of the register. -/
def spikeFiltering (m : CacheMemory) (register value : Nat) : Nat × Nat :=
  let seen : DataRetrieval :=
    { groups := m.data.groups
      cache := fun key => (m.controller.cacheGet key.register).map fun v => ⟨v, .input⟩
      spikeCounter := m.spikeCounter
      entity := {} }
  let (count, corrected) := seen.spikeFiltering c register ⟨value, .input⟩
  (count, corrected.value)

/-- The loop of `_apply_register_read_to_cache` over the values from `register` on. -/
def applyValues (isHolding : Bool) (readAt : Nat) :
    (register : Nat) → List Nat → CacheMemory → CacheMemory
  | _, [], m => m
  | register, value :: rest, m =>
    let (count, corrected) := m.spikeFiltering c register value
    let counted := { m with spikeCounter := Function.update m.spikeCounter register count }
    applyValues isHolding readAt (register + 1) rest (counted.save isHolding readAt register corrected)

/-- `_apply_register_read_to_cache`. -/
def applyReading (m : CacheMemory) (r : Reading) : CacheMemory :=
  m.applyValues c r.isHolding r.readAt r.group.startRegister r.values

/-- The recovered blocks are saved one after the other, without a break. -/
def applyRecovered (m : CacheMemory) (recovered : List Reading) : CacheMemory :=
  { recovered.foldl (applyReading c) m with collected := [] }

def collect (m : CacheMemory) (r : Reading) : CacheMemory := { m with collected := m.collected ++ [r] }

/-- `set_register_bit` once the live value of the register is known. -/
def setRegisterBit (m : CacheMemory) (register current : Nat) (call : BitCall) : CacheMemory :=
  { m with
    controller :=
      match call with
      | .toggle d value force => d.setRegisterBit m.controller m.connected (some current) value force
      | .select o =>
        o.setRegisterBit register (o.bitPosition.getD 0) m.controller m.connected current }

end CacheMemory

/-- A reply, and how many writes had been accepted when the registers were read. -/
abbrev StampedReply := Reply × Nat

abbrev CachePoll := Program CacheMemory ReadRequest StampedReply

namespace CachePoll

variable (c : ModbusController)

/-- A program that saves nothing. -/
def withoutSaves {α : Type} (p : Poll α) : CachePoll α :=
  p.within CacheMemory.data (fun data m => { m with data }) Prod.fst

/-- `_read_register_block_with_exception`. -/
def readRegisterBlockWithException (isHolding : Bool) (g : SensorGroup) :
    CachePoll (ReadResult × Nat) := do
  let skipped : CachePoll (ReadResult × Nat) := do
    let result ← withoutSaves Poll.skipped
    return (result, 0)
  if ← .test .done then
    if ← .dial .done then
      let (reply, readAt) ← .request ⟨g.startRegister, g.registrarCount, isHolding⟩ .done
      return (reply.result, readAt)
    else skipped
  else skipped

def readNewGroup (isHolding : Bool) (nested : SensorGroup → CachePoll (List Reading))
    (g : SensorGroup) : CachePoll (List Reading) := do
  let ((vals, exc), readAt) ← readRegisterBlockWithException isHolding g
  match vals.filter fun v => v.length == g.registrarCount with
  | some v =>
    Program.modify fun m => m.collect ⟨g, v, isHolding, readAt⟩
    return [⟨g, v, isHolding, readAt⟩]
  | none => if exc.any recoverable then nested g else return []

def readNewGroups (isHolding : Bool) (nested : SensorGroup → CachePoll (List Reading)) :
    List SensorGroup → CachePoll (List Reading)
  | [] => return []
  | g :: rest => do
    let first ← readNewGroup isHolding nested g
    let others ← readNewGroups isHolding nested rest
    return first ++ others

/-- `_recover_sensor_group_after_modbus_failure`, `depthLeft` calls before the depth limit. -/
def recover (isHolding : Bool) : (depthLeft : Nat) → SensorGroup → CachePoll (List Reading)
  | 0, _ => return []
  | depthLeft + 1, g => do
    match ← withoutSaves
      (Poll.isolateOneBadRegister isHolding g g.registrarCount g.startRegister g.registrarCount) with
    | none => return []
    | some bad =>
      let groups := Poll.newGroupsAt g bad (← withoutSaves Program.get)
      withoutSaves (Program.modify (Poll.splitAt g bad))
      readNewGroups isHolding (recover isHolding depthLeft) groups

/-- The body of the loop of `get_modbus_updates`. A block that was read is saved at once, the
blocks of a recovery when all of it has returned. -/
def afterRead (next : (marked : List SensorGroup) → CachePoll Unit) (g : SensorGroup)
    (marked : List SensorGroup) (result : ReadResult) (readAt : Nat) : CachePoll Unit := do
  match result.1 with
  | some values =>
    if values.length ≠ g.registrarCount then next marked
    else
      Program.modify fun m =>
        m.applyReading c ⟨g, values, decide (g.registerType = .holding), readAt⟩
      next (marked ++ Poll.once [g])
  | none =>
    let recovered ←
      if result.2.any recoverable then
        recover (decide (g.registerType = .holding)) (maxRegisterRecoveryDepth + 1) g
      else pure []
    Program.modify fun m => m.applyRecovered c recovered
    let marked := marked ++ Poll.once (recovered.map Reading.group)
    if ← .test .done then next marked else withoutSaves (Poll.removeMarked marked)

/-- The loop, with the groups marked for removal so far. -/
def updateGroups : List SensorGroup → (marked : List SensorGroup) → CachePoll Unit
  | [], marked => withoutSaves (Poll.removeMarked marked)
  | g :: rest, marked => do
    let (result, readAt) ← readRegisterBlockWithException (decide (g.registerType = .holding)) g
    afterRead c (updateGroups rest) g marked result readAt

/-- What is left of a batch when a recovery has returned these blocks, or was not tried. -/
def afterRecovery (rest marked : List SensorGroup) (recovered : List Reading) : CachePoll Unit :=
  (Program.modify fun m => m.applyRecovered c recovered).bind fun _ =>
    .test fun open_ =>
      if open_ then updateGroups c rest (marked ++ Poll.once (recovered.map Reading.group))
      else withoutSaves (Poll.removeMarked (marked ++ Poll.once (recovered.map Reading.group)))

theorem afterRead_none (g : SensorGroup) (rest marked : List SensorGroup) (exc : Option Nat)
    (readAt : Nat) :
    afterRead c (updateGroups c rest) g marked (none, exc) readAt =
      if exc.any recoverable then
        (recover (decide (g.registerType = .holding)) (maxRegisterRecoveryDepth + 1) g).bind
          (afterRecovery c rest marked)
      else afterRecovery c rest marked [] := by
  dsimp only [afterRead]
  split
  · rfl
  · rfl

/-- `set_register_bit` of a switch or a select whose register is not cached. -/
def liveRead (register : Nat) (call : BitCall) : CachePoll Unit := do
  if ← .dial .done then
    let (reply, readAt) ← .request ⟨register, 1, true⟩ .done
    match reply.result.1 with
    | some (current :: _) =>
      Program.modify fun m => m.save true readAt register current
      Program.modify fun m => m.setRegisterBit register current call
    -- The call gives up.
    | _ => return ()
  else return ()

/-! ### The batch without its saves -/

/-- The program is this one of the batch, with the saves added and the answers stamped. -/
abbrev Adds {α β : Type} (same : α → β → Prop) (p : CachePoll α) (q : Poll β) : Prop :=
  Program.Follows CacheMemory.data Prod.fst same p q

/-- What a recovery returns, with the type of the registers and the stamp. -/
def SameBlocks (readings : List Reading) (blocks : List (SensorGroup × List Nat)) : Prop :=
  readings.map (fun r => (r.group, r.values)) = blocks

theorem adds_withoutSaves {α : Type} (p : Poll α) : Adds Eq (withoutSaves p) p :=
  Program.follows_within Prod.fst (fun _ _ => rfl) p

/-- A step that leaves the groups alone. -/
theorem adds_modify {α β : Type} {same : α → β → Prop} {f : CacheMemory → CacheMemory}
    {k : Unit → CachePoll α} {q : Poll β} (untouched : ∀ m, (f m).data = m.data)
    (later : Adds same (k ()) q) : Adds same ((Program.modify f).bind k) q :=
  .silent f _ q untouched fun _ => later

@[simp] theorem applyValues_data (isHolding : Bool) (readAt register : Nat) (values : List Nat)
    (m : CacheMemory) : (m.applyValues c isHolding readAt register values).data = m.data := by
  induction values generalizing register m with
  | nil => rfl
  | cons value rest ih =>
    rw [CacheMemory.applyValues, ih]
    rfl

@[simp] theorem applyRecovered_data (m : CacheMemory) (recovered : List Reading) :
    (m.applyRecovered c recovered).data = m.data := by
  unfold CacheMemory.applyRecovered
  induction recovered generalizing m with
  | nil => rfl
  | cons r rest ih => exact (ih (m.applyReading c r)).trans (applyValues_data c _ _ _ _ m)

theorem adds_readRegisterBlockWithException (isHolding : Bool) (g : SensorGroup) :
    Adds (fun result result' => result.1 = result') (readRegisterBlockWithException isHolding g)
      (Poll.readRegisterBlockWithException isHolding g) := by
  have skips : Adds (fun (result : ReadResult × Nat) result' => result.1 = result')
      ((withoutSaves Poll.skipped).bind fun result => .done (result, 0)) Poll.skipped := by
    refine .atomic _ _ _ _ (fun m => rfl) fun m => ?_
    exact .done _ _ rfl
  refine .test _ _ fun open_ => ?_
  cases open_ with
  | false => exact skips
  | true =>
    refine .dial _ _ fun up => ?_
    cases up with
    | false => exact skips
    | true => exact .request _ _ _ fun r => .done _ _ rfl

theorem adds_readNewGroups (isHolding : Bool) {nested : SensorGroup → CachePoll (List Reading)}
    {nested' : SensorGroup → Poll (List (SensorGroup × List Nat))}
    (adds : ∀ g, Adds SameBlocks (nested g) (nested' g)) (groups : List SensorGroup) :
    Adds SameBlocks (readNewGroups isHolding nested groups)
      (Poll.readNewGroups isHolding nested' groups) := by
  induction groups with
  | nil => exact .done _ _ rfl
  | cons g rest ih =>
    have first : Adds SameBlocks (readNewGroup isHolding nested g)
        (Poll.readNewGroup isHolding nested' g) := by
      refine (adds_readRegisterBlockWithException isHolding g).bind ?_
      rintro ⟨⟨vals, exc⟩, readAt⟩ _ rfl
      dsimp only
      cases vals.filter fun v => v.length == g.registrarCount with
      | some v => exact adds_modify (fun _ => rfl) (.done _ _ rfl)
      | none =>
        dsimp only
        split
        · exact adds g
        · exact .done _ _ rfl
    refine first.bind fun l l' head => ih.bind fun o o' tail => .done _ _ ?_
    rw [SameBlocks, List.map_append, ← head, ← tail]

theorem adds_recover (isHolding : Bool) (depthLeft : Nat) (g : SensorGroup) :
    Adds SameBlocks (recover isHolding depthLeft g) (Poll.recover isHolding depthLeft g) := by
  induction depthLeft generalizing g with
  | zero => exact .done _ _ rfl
  | succ depthLeft ih =>
    refine (adds_withoutSaves _).bind ?_
    rintro bad _ rfl
    cases bad with
    | none => exact .done _ _ rfl
    | some bad =>
      refine (adds_withoutSaves _).bind ?_
      rintro s _ rfl
      refine (adds_withoutSaves _).bind fun _ _ _ => ?_
      exact adds_readNewGroups isHolding ih _

/-- The link as the environment of a program that runs alone. -/
def onLink (link : ModbusLink) : Environment CacheMemory ReadRequest StampedReply where
  test m := link.canPoll m.data.attempts
  dial m := link.connects m.data.attempts
  reply m q := (link.reply m.data.attempts q.start q.count q.isHolding, m.accepted.length)
  replied m := { m with data := m.data.attempted }

/-- Run alone, the program is the recovery of its group. -/
theorem eval_recover (link : ModbusLink) (isHolding : Bool) (depthLeft : Nat) (g : SensorGroup)
    (m : CacheMemory) :
    ((recover isHolding depthLeft g).eval (onLink link) m).1.data =
        (Recovery.recover link isHolding depthLeft g m.data).1 ∧
      SameBlocks ((recover isHolding depthLeft g).eval (onLink link) m).2
        (Recovery.recover link isHolding depthLeft g m.data).2 := by
  rw [← Poll.eval_recover]
  exact (adds_recover isHolding depthLeft g).eval (fun _ => rfl) (fun _ => rfl) (fun _ _ => rfl)
    (fun _ => rfl) m

/-- **The saves change nothing else**: taken out of a batch they leave the batch of
`PollProgram`. -/
theorem adds_updateGroups (groups marked : List SensorGroup) :
    Adds (fun _ _ => True) (updateGroups c groups marked) (Poll.updateGroups groups marked) := by
  have remove (marked : List SensorGroup) : Adds (fun _ _ => True)
      (withoutSaves (Poll.removeMarked marked)) (Poll.removeMarked marked) :=
    .atomic _ _ _ _ (fun m => rfl) fun m => .done _ _ trivial
  induction groups generalizing marked with
  | nil => exact remove marked
  | cons g rest ih =>
    have finishes (recovered : List Reading) (blocks : List (SensorGroup × List Nat))
        (same : SameBlocks recovered blocks) : Adds (fun _ _ => True)
        (afterRecovery c rest marked recovered)
        (.test fun open_ =>
          if open_ then Poll.updateGroups rest (marked ++ Poll.once (blocks.map Prod.fst))
          else Poll.removeMarked (marked ++ Poll.once (blocks.map Prod.fst))) := by
      have marks : Poll.once (recovered.map Reading.group) = Poll.once (blocks.map Prod.fst) := by
        rw [← same, List.map_map]
        rfl
      rw [afterRecovery, marks]
      refine adds_modify (fun m => applyRecovered_data c m recovered) (.test _ _ fun open_ => ?_)
      cases open_ with
      | false => exact remove _
      | true => exact ih _
    refine (adds_readRegisterBlockWithException _ g).bind ?_
    rintro ⟨⟨vals, exc⟩, readAt⟩ _ rfl
    cases vals with
    | some values =>
      dsimp only [afterRead, Poll.afterRead]
      split
      · exact ih _
      · exact adds_modify (fun m => applyValues_data c _ _ _ _ m) (ih _)
    | none =>
      dsimp only [Poll.afterRead]
      rw [afterRead_none]
      by_cases recovers : exc.any recoverable = true
      · rw [if_pos recovers, if_pos recovers]
        exact (adds_recover _ _ g).bind finishes
      · rw [if_neg recovers, if_neg recovers]
        exact finishes [] [] rfl

end CachePoll

end HHModbus
