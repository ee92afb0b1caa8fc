import HHModbus.CachePoll

/-!
# What the polls and the live reads do to the order of the cache

Each saves what it has read before the inverter can accept another write, but for the blocks of
a recovery: those stay in order as long as nobody writes their registers.
-/
namespace HHModbus

open Cooperative

/-- What asks the inverter for registers. -/
inductive Asker where
  /-- The batch that holds `DataRetrieval.poll_lock`. -/
  | batch
  /-- A call of `set_register_bit` with a cold cache. -/
  | reader (j : Nat)
  deriving DecidableEq, Repr

namespace CacheMemory

/-- Every value of a holding register that was saved had been read after the last write of it. -/
def NeverBack (m : CacheMemory) : Prop :=
  ∀ e ∈ m.saved, e.isHolding = true → ∀ w ∈ e.since, e.register ∉ w.registers

instance (m : CacheMemory) : Decidable m.NeverBack :=
  inferInstanceAs (Decidable (∀ e ∈ m.saved, e.isHolding = true → ∀ w ∈ e.since, _))

/-- The write changes nothing that a recovery has read and not yet saved. -/
def Spares (m : CacheMemory) (w : WriteRequest) : Prop :=
  ∀ r ∈ m.collected, r.isHolding = true → ∀ register ∈ w.registers, register ∉ r.registers

instance (m : CacheMemory) (w : WriteRequest) : Decidable (m.Spares w) :=
  inferInstanceAs (Decidable (∀ r ∈ m.collected, _ → ∀ register ∈ w.registers, _))

/-- The registers of the reading have not been written since. -/
def Current (m : CacheMemory) (r : Reading) : Prop :=
  r.isHolding = true →
    ∀ w ∈ m.accepted.drop r.readAt, ∀ register ∈ w.registers, register ∉ r.registers

structure Ordered (m : CacheMemory) : Prop where
  current : ∀ r ∈ m.collected, m.Current r
  neverBack : m.NeverBack

theorem ordered_start (groups : List SensorGroup) (enabledSensors : Nat → Bool) (nextGroup : Nat)
    (device : Nat → Nat) (cache : Nat → Option Nat) (connected : Bool) :
    (start groups enabledSensors nextGroup device cache connected).Ordered :=
  ⟨fun _ member => absurd member List.not_mem_nil, fun _ member => absurd member List.not_mem_nil⟩

/-- What the parts of the memory without readings and writes are does not matter. -/
theorem Ordered.congr {m t : CacheMemory} (ordered : m.Ordered) (accepted : t.accepted = m.accepted)
    (collected : t.collected = m.collected) (saved : t.saved = m.saved) : t.Ordered := by
  obtain ⟨current, neverBack⟩ := ordered
  refine ⟨?_, ?_⟩
  · simpa only [Current, accepted, collected] using current
  · simpa only [NeverBack, saved] using neverBack

theorem Ordered.save {m : CacheMemory} (ordered : m.Ordered) {isHolding : Bool}
    {readAt register : Nat} (value : Nat)
    (unwritten : isHolding = true → ∀ w ∈ m.accepted.drop readAt, register ∉ w.registers) :
    (m.save isHolding readAt register value).Ordered := by
  refine ⟨ordered.current, ?_⟩
  intro e member holding w since
  rcases List.mem_append.mp member with old | new
  · exact ordered.neverBack e old holding w since
  · rw [List.mem_singleton.mp new] at holding since ⊢
    exact unwritten holding w since

/-- A register that has just been read is saved in time. -/
theorem Ordered.save_now {m : CacheMemory} (ordered : m.Ordered) (register value : Nat) :
    (m.save true m.accepted.length register value).Ordered := by
  refine ordered.save value fun _ w since => ?_
  rw [List.drop_length] at since
  cases since

variable {c : ModbusController}

/-- Saving a block leaves the accepted writes and the collected readings alone. -/
theorem applyValues_frame (isHolding : Bool) (readAt register : Nat) (values : List Nat)
    (m : CacheMemory) :
    (m.applyValues c isHolding readAt register values).accepted = m.accepted ∧
      (m.applyValues c isHolding readAt register values).collected = m.collected := by
  induction values generalizing register m with
  | nil => exact ⟨rfl, rfl⟩
  | cons value rest ih => exact ih (register + 1) _

theorem Ordered.applyValues {m : CacheMemory} (ordered : m.Ordered) {isHolding : Bool}
    {readAt register : Nat} {values : List Nat}
    (unwritten : isHolding = true → ∀ w ∈ m.accepted.drop readAt, ∀ r ∈ w.registers,
      r ∉ List.range' register values.length) :
    (m.applyValues c isHolding readAt register values).Ordered := by
  induction values generalizing register m with
  | nil => exact ordered
  | cons value rest ih =>
    -- The filter may save another value than the one read, but for the same register.
    let counted : CacheMemory :=
      { m with
        spikeCounter := Function.update m.spikeCounter register (m.spikeFiltering c register value).1 }
    have first : (counted.save isHolding readAt register (m.spikeFiltering c register value).2).Ordered := by
      refine Ordered.save (ordered.congr (t := counted) rfl rfl rfl) _ ?_
      intro holding w since written
      exact unwritten holding w since register written (by simp [List.mem_range'_1])
    refine ih first fun holding w since r written inside => ?_
    refine unwritten holding w since r written ?_
    simp only [List.mem_range'_1, List.length_cons] at inside ⊢
    omega

theorem Ordered.applyReading {m : CacheMemory} {r : Reading} (ordered : m.Ordered)
    (current : m.Current r) : (m.applyReading c r).Ordered :=
  ordered.applyValues current

/-- What has just been read is current. -/
theorem current_now (m : CacheMemory) (g : SensorGroup) (values : List Nat) (isHolding : Bool) :
    m.Current ⟨g, values, isHolding, m.accepted.length⟩ := by
  intro _ w since
  simp only [List.drop_length] at since
  cases since

theorem Ordered.applyRecovered {m : CacheMemory} {recovered : List Reading} (ordered : m.Ordered)
    (collected : ∀ r ∈ recovered, r ∈ m.collected) : (m.applyRecovered c recovered).Ordered := by
  have all : (recovered.foldl (CacheMemory.applyReading c) m).Ordered := by
    induction recovered generalizing m with
    | nil => exact ordered
    | cons r rest ih =>
      have first := ordered.applyReading (c := c) (ordered.current r (collected r List.mem_cons_self))
      refine ih first fun other member => ?_
      have frame := (applyValues_frame (c := c) r.isHolding r.readAt r.group.startRegister r.values m).2
      change other ∈ (m.applyReading c r).collected
      rw [CacheMemory.applyReading, frame]
      exact collected other (List.mem_cons_of_mem r member)
  -- What is saved is not collected any more.
  exact ⟨fun _ member => absurd member List.not_mem_nil, all.neverBack⟩

theorem Ordered.collect {m : CacheMemory} {r : Reading} (ordered : m.Ordered)
    (current : m.Current r) : (m.collect r).Ordered := by
  refine ⟨fun other member => ?_, ordered.neverBack⟩
  rcases List.mem_append.mp member with old | new
  · exact ordered.current other old
  · rw [List.mem_singleton.mp new]
    exact current

/-- An accepted write keeps the readings current that it spares. -/
theorem Ordered.accept {m : CacheMemory} {w : WriteRequest} (ordered : m.Ordered)
    (spares : m.Spares w) : { m with accepted := m.accepted ++ [w] }.Ordered := by
  refine ⟨fun r member holding other since => ?_, ordered.neverBack⟩
  -- The write is either one of those before or the new one.
  rw [List.drop_append] at since
  rcases List.mem_append.mp since with old | new
  · exact ordered.current r member holding other old
  · rw [List.mem_singleton.mp (List.mem_of_mem_drop new)]
    exact spares r member holding

end CacheMemory

/-! ### What the programs keep -/

/-- What the other tasks leave alone while this one is suspended: only a batch collects. -/
def Asker.relies (a : Asker) (m t : CacheMemory) : Prop := a = .batch → t.collected = m.collected

/-- What a task leaves alone. -/
def Asker.guarantees (a : Asker) (m t : CacheMemory) : Prop :=
  t.accepted = m.accepted ∧ (a ≠ .batch → t.collected = m.collected)

/-- The answer is about the registers as they are. -/
def JustRead (r : StampedReply) (m : CacheMemory) : Prop := r.2 = m.accepted.length

/-- The task keeps the cache in order, whatever the others do. -/
def Asker.Orderly {α : Type} (a : Asker) (post : α → CacheMemory → Prop) (p : CachePoll α)
    (m : CacheMemory) : Prop :=
  p.Keeps CacheMemory.Ordered a.relies JustRead post m

namespace CachePoll

variable {c : ModbusController}

/-- In order, with at least these readings collected. -/
def Holds (readings : List Reading) (m : CacheMemory) : Prop :=
  m.Ordered ∧ ∀ r ∈ readings, r ∈ m.collected

theorem Holds.relied {readings : List Reading} {m t : CacheMemory} (holds : Holds readings m)
    (relies : Asker.batch.relies m t) (ordered : t.Ordered) : Holds readings t := by
  refine ⟨ordered, fun r member => ?_⟩
  rw [relies rfl]
  exact holds.2 r member

theorem orderly_withoutSaves {α : Type} (p : Poll α) {readings : List Reading} {m : CacheMemory}
    (holds : Holds readings m) :
    Asker.batch.Orderly (fun _ => Holds readings) (withoutSaves p) m := by
  refine Program.keeps_within (fun data t holds => ?_) (fun t u holds => holds.relied)
    (fun t holds => holds.1) p holds
  exact ⟨holds.1.congr rfl rfl rfl, holds.2⟩

/-- A block is read with the stamp of the moment. -/
theorem orderly_readRegisterBlockWithException (isHolding : Bool) (g : SensorGroup)
    {readings : List Reading} {m : CacheMemory} (holds : Holds readings m) :
    Asker.batch.Orderly
      (fun result t => Holds readings t ∧ (result.1.1.isSome → result.2 = t.accepted.length))
      (readRegisterBlockWithException isHolding g) m := by
  have skips (t : CacheMemory) (holds : Holds readings t) : Asker.batch.Orderly
      (fun (result : ReadResult × Nat) t =>
        Holds readings t ∧ (result.1.1.isSome → result.2 = t.accepted.length))
      ((withoutSaves Poll.skipped).bind fun result => .done (result, 0)) t :=
    ⟨⟨holds.1.congr rfl rfl rfl, holds.2⟩, fun some_ => by cases some_⟩
  intro open_
  cases open_ with
  | false => exact skips m holds
  | true =>
    refine ⟨holds.1, fun up t relies ordered => ?_⟩
    have holds := holds.relied relies ordered
    cases up with
    | false => exact skips t holds
    | true =>
      refine ⟨ordered, fun r u relies ordered justRead => ?_⟩
      exact ⟨holds.relied relies ordered, fun _ => justRead⟩

theorem orderly_readNewGroup (isHolding : Bool) {nested : SensorGroup → CachePoll (List Reading)}
    (orderly : ∀ g readings m, Holds readings m →
      Asker.batch.Orderly (fun new => Holds (readings ++ new)) (nested g) m)
    (g : SensorGroup) (readings : List Reading) (m : CacheMemory) (holds : Holds readings m) :
    Asker.batch.Orderly (fun new => Holds (readings ++ new)) (readNewGroup isHolding nested g) m := by
  refine (orderly_readRegisterBlockWithException isHolding g holds).bind ?_
  rintro ⟨⟨vals, exc⟩, readAt⟩ t ⟨holds, justRead⟩
  have nothing : Holds (readings ++ []) t := by rwa [List.append_nil]
  dsimp only
  cases fits : vals.filter fun v => v.length == g.registrarCount with
  | some v =>
    -- The block is collected; it is current now, and `Rely` keeps it so until it is saved.
    have stamp : readAt = t.accepted.length := by
      refine justRead ?_
      cases vals with
      | none => cases fits
      | some w => rfl
    subst stamp
    refine ⟨holds.1.collect (CacheMemory.current_now t g v isHolding), fun r member => ?_⟩
    rcases List.mem_append.mp member with old | new
    · exact List.mem_append_left _ (holds.2 r old)
    · exact List.mem_append_right _ new
  | none =>
    dsimp only
    split
    · exact orderly g readings t holds
    · exact nothing

theorem orderly_readNewGroups (isHolding : Bool) {nested : SensorGroup → CachePoll (List Reading)}
    (orderly : ∀ g readings m, Holds readings m →
      Asker.batch.Orderly (fun new => Holds (readings ++ new)) (nested g) m)
    (groups : List SensorGroup) (readings : List Reading) (m : CacheMemory)
    (holds : Holds readings m) :
    Asker.batch.Orderly (fun new => Holds (readings ++ new))
      (readNewGroups isHolding nested groups) m := by
  induction groups generalizing readings m with
  | nil =>
    change Holds (readings ++ []) m
    rwa [List.append_nil]
  | cons g rest ih =>
    refine (orderly_readNewGroup isHolding orderly g readings m holds).bind fun first t holds => ?_
    refine (ih (readings ++ first) t holds).bind fun others u holds => ?_
    change Holds (readings ++ (first ++ others)) u
    rwa [← List.append_assoc]

theorem orderly_recover (isHolding : Bool) (depthLeft : Nat) (g : SensorGroup)
    (readings : List Reading) (m : CacheMemory) (holds : Holds readings m) :
    Asker.batch.Orderly (fun new => Holds (readings ++ new)) (recover isHolding depthLeft g) m := by
  have nothing (t : CacheMemory) (holds : Holds readings t) : Holds (readings ++ []) t := by
    rwa [List.append_nil]
  induction depthLeft generalizing g readings m with
  | zero => exact nothing m holds
  | succ depthLeft ih =>
    refine (orderly_withoutSaves _ holds).bind fun bad t holds => ?_
    cases bad with
    | none => exact nothing t holds
    | some bad =>
      refine (orderly_withoutSaves _ holds).bind fun s u holds => ?_
      refine (orderly_withoutSaves _ holds).bind fun _ v holds => ?_
      refine orderly_readNewGroups isHolding (fun g readings m holds => ?_) _ readings v holds
      exact ih g readings m holds fun t holds => by rwa [List.append_nil]

/-- **A batch keeps the cache in order** if the others leave what it has collected current. -/
theorem orderly_updateGroups (groups marked : List SensorGroup) (m : CacheMemory)
    (ordered : m.Ordered) :
    Asker.batch.Orderly (fun _ t => t.Ordered) (updateGroups c groups marked) m := by
  have nothing (t : CacheMemory) (ordered : t.Ordered) : Holds [] t :=
    ⟨ordered, fun _ member => absurd member List.not_mem_nil⟩
  have remove (marked : List SensorGroup) (t : CacheMemory) (ordered : t.Ordered) :
      Asker.batch.Orderly (fun _ t => t.Ordered) (withoutSaves (Poll.removeMarked marked)) t :=
    (orderly_withoutSaves _ (nothing t ordered)).imp fun _ _ holds => holds.1
  induction groups generalizing marked m with
  | nil => exact remove marked m ordered
  | cons g rest ih =>
    have finishes (recovered : List Reading) (t : CacheMemory) (holds : Holds recovered t) :
        Asker.batch.Orderly (fun _ t => t.Ordered) (afterRecovery c rest marked recovered) t := by
      -- The blocks are saved without a break, and only then the batch asks whether to go on.
      intro open_
      have applied := holds.1.applyRecovered (c := c) holds.2
      cases open_ with
      | false => exact remove _ _ applied
      | true => exact ih _ _ applied
    refine (orderly_readRegisterBlockWithException _ g (nothing m ordered)).bind ?_
    rintro ⟨⟨vals, exc⟩, readAt⟩ t ⟨holds, justRead⟩
    cases vals with
    | some values =>
      dsimp only [afterRead]
      split
      · -- A block of the wrong length is thrown away.
        exact ih _ t holds.1
      · -- No task has run between the answer and the save.
        rw [show readAt = t.accepted.length from justRead rfl]
        exact ih _ _ (holds.1.applyReading (t.current_now g values _))
    | none =>
      dsimp only
      rw [afterRead_none]
      split
      · exact (orderly_recover _ _ g [] t holds).bind finishes
      · exact finishes [] t holds

/-- **A live read keeps the cache in order.** -/
theorem orderly_liveRead (register : Nat) (call : BitCall) (j : Nat) (m : CacheMemory)
    (ordered : m.Ordered) :
    (Asker.reader j).Orderly (fun _ t => t.Ordered) (liveRead register call) m := by
  -- The two suspensions are the dial and the request.
  refine ⟨ordered, fun up t _ ordered => ?_⟩
  cases up with
  | false => exact ordered
  | true =>
    refine ⟨ordered, fun r u _ ordered justRead => ?_⟩
    obtain ⟨reply, readAt⟩ := r
    obtain rfl : readAt = u.accepted.length := justRead
    dsimp only [Program.bind]
    split
    next current _ _ => exact (ordered.save_now register current).congr rfl rfl rfl
    next => exact ordered

theorem guarantees_liveRead (register : Nat) (call : BitCall) (a : Asker) :
    (liveRead register call).Guarantees a.guarantees := by
  intro up
  cases up with
  | false => trivial
  | true =>
    intro r
    dsimp only [Program.bind]
    split
    · exact fun m => ⟨⟨rfl, fun _ => rfl⟩, fun m => ⟨⟨rfl, fun _ => rfl⟩, trivial⟩⟩
    · trivial

theorem guarantees_withoutSaves {α : Type} (p : Poll α) :
    (withoutSaves p).Guarantees Asker.batch.guarantees :=
  Program.guarantees_within (fun _ _ => ⟨rfl, fun _ => rfl⟩) p

theorem guarantees_modify {f : CacheMemory → CacheMemory} (accepts : ∀ m, (f m).accepted = m.accepted) :
    (Program.modify f : CachePoll Unit).Guarantees Asker.batch.guarantees :=
  fun m => ⟨⟨accepts m, fun other => absurd rfl other⟩, trivial⟩

theorem guarantees_readRegisterBlockWithException (isHolding : Bool) (g : SensorGroup) :
    (readRegisterBlockWithException isHolding g).Guarantees Asker.batch.guarantees := by
  have skips : ((withoutSaves Poll.skipped).bind fun result =>
      (.done (result, 0) : CachePoll (ReadResult × Nat))).Guarantees Asker.batch.guarantees :=
    (guarantees_withoutSaves _).bind fun _ => trivial
  intro open_
  cases open_ with
  | false => exact skips
  | true =>
    intro up
    cases up with
    | false => exact skips
    | true => exact fun _ => trivial

theorem guarantees_readNewGroups (isHolding : Bool)
    {nested : SensorGroup → CachePoll (List Reading)}
    (guarantees : ∀ g, (nested g).Guarantees Asker.batch.guarantees) (groups : List SensorGroup) :
    (readNewGroups isHolding nested groups).Guarantees Asker.batch.guarantees := by
  induction groups with
  | nil => trivial
  | cons g rest ih =>
    have first : (readNewGroup isHolding nested g).Guarantees Asker.batch.guarantees := by
      refine (guarantees_readRegisterBlockWithException isHolding g).bind fun result => ?_
      dsimp only
      split
      · exact fun m => ⟨⟨rfl, fun other => absurd rfl other⟩, trivial⟩
      · split
        · exact guarantees g
        · trivial
    exact first.bind fun _ => ih.bind fun _ => trivial

theorem guarantees_recover (isHolding : Bool) (depthLeft : Nat) (g : SensorGroup) :
    (recover isHolding depthLeft g).Guarantees Asker.batch.guarantees := by
  induction depthLeft generalizing g with
  | zero => trivial
  | succ depthLeft ih =>
    refine (guarantees_withoutSaves _).bind fun bad => ?_
    cases bad with
    | none => trivial
    | some bad =>
      refine (guarantees_withoutSaves _).bind fun s => ?_
      exact (guarantees_withoutSaves _).bind fun _ => guarantees_readNewGroups isHolding ih _

theorem guarantees_updateGroups (groups marked : List SensorGroup) :
    (updateGroups c groups marked).Guarantees Asker.batch.guarantees := by
  have saves (recovered : List Reading) (m : CacheMemory) :
      (m.applyRecovered c recovered).accepted = m.accepted := by
    unfold CacheMemory.applyRecovered
    induction recovered generalizing m with
    | nil => rfl
    | cons r rest ih =>
      exact (ih (m.applyReading c r)).trans (CacheMemory.applyValues_frame _ _ _ _ m).1
  induction groups generalizing marked with
  | nil => exact guarantees_withoutSaves _
  | cons g rest ih =>
    refine (guarantees_readRegisterBlockWithException _ g).bind ?_
    rintro ⟨⟨vals, exc⟩, readAt⟩
    cases vals with
    | some values =>
      dsimp only [afterRead]
      split
      · exact ih _
      · refine (guarantees_modify fun m => ?_).bind fun _ => ih _
        exact (CacheMemory.applyValues_frame _ _ _ _ m).1
    | none =>
      have finishes (recovered : List Reading) :
          (afterRecovery c rest marked recovered).Guarantees Asker.batch.guarantees := by
        refine (guarantees_modify (saves recovered)).bind fun _ open_ => ?_
        cases open_ with
        | false => exact guarantees_withoutSaves _
        | true => exact ih _
      dsimp only
      rw [afterRead_none]
      split
      · exact (guarantees_recover _ _ g).bind finishes
      · exact finishes []

end CachePoll

/-! ### Tasks -/

/-- A task that keeps the cache in order from here on. -/
structure Asker.Tidy (a : Asker) (p : CachePoll Unit) (m : CacheMemory) : Prop where
  orderly : a.Orderly (fun _ t => t.Ordered) p m
  guarantees : p.Guarantees a.guarantees

/-- What one task guarantees is what the others rely on. -/
theorem Asker.relies_of_guarantees {a b : Asker} {m t : CacheMemory} (other : b ≠ a)
    (guarantees : a.guarantees m t) : b.relies m t := by
  rintro rfl
  exact guarantees.2 other.symm

/-- The outcome of a dial. -/
theorem Asker.Tidy.dialled {a : Asker} {k : Bool → CachePoll Unit} {m t : CacheMemory}
    (tidy : a.Tidy (.dial k) m) (up : Bool) (relies : a.relies m t) (ordered : t.Ordered) :
    a.Tidy (k up) t :=
  ⟨tidy.orderly.2 up t relies ordered, tidy.guarantees up⟩

theorem Asker.Tidy.answered {a : Asker} {q : ReadRequest} {k : StampedReply → CachePoll Unit}
    {m t : CacheMemory} (tidy : a.Tidy (.request q k) m) (r : StampedReply) (relies : a.relies m t)
    (ordered : t.Ordered) (justRead : JustRead r t) : a.Tidy (k r) t :=
  ⟨tidy.orderly.2 r t relies ordered justRead, tidy.guarantees r⟩

end HHModbus
