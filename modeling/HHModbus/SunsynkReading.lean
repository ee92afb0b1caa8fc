import HHModbus.SunsynkConnector

/-!
# What a reading brings

`read_sensors` reads the registers of its sensors in blocks. In the end every sensor shows what its
own registers hold, however the blocks are cut.
-/
namespace HHModbus

open Transition

namespace Connector

variable {options : ConnectorOptions} {c c' : Connector}

/-- The registers of a unit, as a reading of all of them would bring them. -/
def unitRegisters (c : Connector) (unit : Nat) : Registers := fun a => some (c.units unit a).toNat

/-- Registers that hold what the unit has. -/
def Truthful (c : Connector) (newRegs : Registers) : Prop :=
  ∀ a v, newRegs a = some v → v = (c.units c.serverId a).toNat

/-- A job starts from the rest of the driver, not from the job before. -/
theorem settle_withJob (busy : Option Job) (job : Job) :
    { c with job := busy }.settle job = c.settle job := by
  match job with
  | .reading [] newRegs => rfl
  | .writing s [] => rfl
  | .reading (group :: rest) newRegs => rfl
  | .fetching s regs => rfl
  | .writing s (next :: left) => rfl

/-- The registers of a group are among those it is read with. -/
def Covered (group : List Nat) : Prop :=
  ∀ a ∈ group, group.headD 0 ≤ a ∧ a < group.headD 0 + groupLength group

theorem answer_of_covered {group : List Nat} (covered : Covered group) {a count : Nat} (member : a ∈ group)
    (complete : groupLength group ≤ count) :
    c.answer (group.headD 0) (min count (groupLength group)) a = some (c.units c.serverId a).toNat := by
  have within := covered a member
  rw [Nat.min_eq_right complete]
  exact if_pos within

theorem truthful_update {newRegs : Registers} (truthful : c.Truthful newRegs) (start count : Nat) :
    c.Truthful (newRegs.update (c.answer start count)) := by
  intro a v known
  -- Heard in this answer, or before it.
  rcases Option.or_eq_some_iff.mp known with new | ⟨-, old⟩
  · unfold answer at new
    split at new
    · exact (Option.some.inj new).symm
    · cases new
  · exact truthful a v old

/-- The rest of a reading whose requests are all answered in full. -/
theorem exec_reading {groups : List (List Nat)} {newRegs : Registers} {counts : List Nat}
    (covered : ∀ group ∈ groups, Covered group)
    (complete : ∀ count ∈ counts, ∀ group ∈ groups, groupLength group ≤ count)
    (truthful : c.Truthful newRegs)
    (run : exec (step options) (c.settle (.reading groups newRegs))
      (counts.map fun count => .reply (.words count)) = some c') (done : c'.job = none) :
    ∃ heard, c' = { c.setState (c.state.update heard) with job := none } ∧ c.Truthful heard ∧
      (∀ a, newRegs a ≠ none → heard a ≠ none) ∧ ∀ a ∈ groups.flatten, heard a ≠ none := by
  induction groups generalizing newRegs counts with
  | nil =>
    cases counts with
    | nil =>
      cases run
      exact ⟨newRegs, rfl, truthful, fun _ known => known, by simp⟩
    | cons count counts =>
      -- With nothing left to read, no reply is taken.
      obtain ⟨m, first, -⟩ := exec_cons_iff.mp run
      simp [settle, step] at first
  | cons group groups ih =>
    cases counts with
    | nil =>
      -- Without a reply the reading is not over.
      cases run
      cases done
    | cons count counts =>
      obtain ⟨m, first, later⟩ := exec_cons_iff.mp run
      -- The first answer is gathered, and the reading goes on with the other groups.
      have next : m = c.settle (.reading groups (newRegs.update
          (c.answer (group.headD 0) (min count (groupLength group))))) := by
        simp only [step, settle, Option.bind_some, proceed, Option.some.injEq] at first
        rw [← first]
        exact settle_withJob _ _
      rw [next] at later
      obtain ⟨heard, state, true_, kept, all⟩ := ih
        (fun g member => covered g (List.mem_cons_of_mem _ member))
        (fun n known g member => complete n (List.mem_cons_of_mem _ known) g (List.mem_cons_of_mem _ member))
        (truthful_update truthful _ _) later
      refine ⟨heard, state, true_, ?_, ?_⟩
      · intro a known
        apply kept a
        simp [Registers.update, known]
      · intro a member
        rw [List.flatten_cons, List.mem_append] at member
        -- A register of the first group was just heard, and what is heard is kept.
        rcases member with here | behind
        · apply kept a
          have full := complete count List.mem_cons_self group List.mem_cons_self
          rw [Registers.update, answer_of_covered (covered group List.mem_cons_self) here full]
          simp
        · exact all a behind

theorem covered_groupSensors (room : 0 < options.batchSize) {sensors : List (List Nat)}
    {group : List Nat} (member : group ∈ groupSensors options.allowGap options.batchSize sensors) :
    Covered group ∧ groupLength group ≤ options.batchSize := by
  have sorted := part_sorted (groupSensors_cutting _ _ sensors).whole member
  constructor
  · intro a inside
    have low := head_le_of_sorted sorted inside
    have high := le_last_of_sorted sorted inside
    simp only [groupLength]
    omega
  · exact (groupSensors_readBlock room member).length

/-- **A reading in blocks brings what the registers hold.** After a reading whose requests are all
answered in full, every tracked sensor that was to be read shows its own registers of the inverter's
unit, whatever the limits of the blocks are; and no other inverter's state has changed. -/
theorem reading_shows_registers (options : ConnectorOptions) (room : 0 < options.batchSize)
    (c c' : Connector) (inverter : Nat) (sensors : List StateSensor) (counts : List Nat)
    (complete : ∀ count ∈ counts, options.batchSize ≤ count)
    (run : exec (step options) c (.lock inverter (.readSensors sensors) ::
      counts.map fun count => .reply (.words count)) = some c') (done : c'.job = none) :
    (∀ s ∈ sensors, s.address ≠ [] → ∀ v, (s, v) ∈ (c'.states inverter).values →
      v = s.decode (c.unitRegisters (options.modbusId inverter))) ∧
    ∀ other ≠ inverter, c'.states other = c.states other := by
  obtain ⟨m, first, later⟩ := exec_cons_iff.mp run
  have started : m = (c.lockIo options inverter).start options (.readSensors sensors) := by
    rcases step_cases first with ⟨i, op, same, -, started⟩ | ⟨r, job, same, -⟩ | ⟨u, a, v, same, -⟩
    · cases same
      exact started
    · cases same
    · cases same
  rw [started] at later
  obtain ⟨heard, rfl, truthful, -, all⟩ := exec_reading
    (fun group member => (covered_groupSensors room member).1)
    (fun count known group member => (covered_groupSensors room member).2.trans (complete count known))
    (by intro a v known; cases known) later done
  constructor
  · intro s wanted some v member
    -- Each of the sensor's registers was heard, as the unit has it.
    have known : ∀ a ∈ s.address, heard a = (c.unitRegisters (options.modbusId inverter)) a := by
      intro a own
      have asked := all a (mem_flatten_groupSensors.mpr ⟨s.address, List.mem_map_of_mem wanted, own⟩)
      obtain ⟨w, is⟩ := Option.ne_none_iff_exists'.mp asked
      rw [is, truthful a w is]
      rfl
    simp only [setState, lockIo, Function.update_self, InverterState.update_values, List.mem_map] at member
    obtain ⟨entry, -, same⟩ := member
    obtain ⟨rfl, rfl⟩ := Prod.mk.inj same
    have touched : entry.1.touched heard = true := by
      obtain ⟨a, own⟩ := List.exists_mem_of_ne_nil _ some
      apply List.any_eq_true.mpr
      exact ⟨a, own, by simp [known a own, unitRegisters]⟩
    rw [InverterState.refreshed, if_pos touched]
    apply InverterState.decode_congr
    intro a own
    simp [Registers.update, known a own, unitRegisters]
  · intro other different
    simp [setState, lockIo, different]

/-- The second inverter tracks its state of charge. -/
def trackingConnector : Connector :=
  { idleConnector with
    states := fun _ => InverterState.initial.track InverterState.batterySoc
    units := fun unit _ => BitVec.ofNat 16 (unit + 70) }

theorem groups_batterySoc : groupSensors 2 20 [[184]] = [[184]] := by decide +kernel

theorem reading_shows_registers_soc :
    ∃ c', exec (step twoInverters) trackingConnector
        [.lock 1 (.readSensors [InverterState.batterySoc]), .reply (.words 20)] = some c' ∧
      ∀ v, (InverterState.batterySoc, v) ∈ (c'.states 1).values → v = .num (72 : Nat) := by
  have asked : (trackingConnector.lockIo twoInverters 1).start twoInverters (.readSensors [InverterState.batterySoc]) =
      (trackingConnector.lockIo twoInverters 1).settle (.reading [[184]] fun _ => none) := by
    rw [← groups_batterySoc]
    rfl
  have run : ∃ c', exec (step twoInverters) trackingConnector
      [.lock 1 (.readSensors [InverterState.batterySoc]), .reply (.words 20)] = some c' ∧ c'.job = none := by
    refine ⟨_, exec_cons_iff.mpr ⟨_, congrArg some asked, rfl⟩, rfl⟩
  obtain ⟨c', run, done⟩ := run
  refine ⟨c', run, ?_⟩
  exact (reading_shows_registers twoInverters (by decide) trackingConnector c' 1 [InverterState.batterySoc] [20]
    (by decide) run done).1 InverterState.batterySoc (by simp) (by simp [InverterState.batterySoc])

end Connector

end HHModbus
